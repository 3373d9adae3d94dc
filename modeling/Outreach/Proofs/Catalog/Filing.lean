import Outreach.Proofs.Catalog.Enrolment

/-!
# Contacts under their ids

A stored contact carries the id that it is stored under. Every command on the contacts of a catalog
keeps it that way (`Filed.obey`), so it is that way in every catalog that such commands lead to
(`filed_obeyed`).
-/

namespace Outreach.Catalog

/-- Every contact is stored under its own id. -/
def Filed (catalog : Catalog) : Prop :=
  ∀ entry ∈ catalog.contacts.entries, entry.2.id = some entry.1

variable {catalog : Catalog} {id : ContactId} {contact : Contact}

/-- A contact that is found under an id has that id. -/
theorem Filed.id_eq (filed : catalog.Filed) (found : catalog.contact? id = some contact) :
    contact.id = some id :=
  filed (id, contact) (Keyed.mem_of_get? found)

/-- A contact may be stored under its own id. -/
theorem Filed.store (filed : catalog.Filed) (own : contact.id = some id) :
    ∀ entry ∈ (catalog.contacts.insert id contact).entries, entry.2.id = some entry.1 := by
  intro entry member
  rcases Keyed.mem_insertEntry member with rfl | before
  · exact own
  · exact filed entry before

/-- A command leaves every contact under its own id. -/
theorem Filed.obey (filed : catalog.Filed) (command : ContactCommand) :
    (catalog.obey command).Filed := by
  cases command with
  | add contact =>
    rw [Catalog.obey]
    rcases addContact_cases catalog contact with none | ⟨id, added⟩
    · rw [none]
      exact filed
    · rw [added]
      exact filed.store rfl
  | upsert contact =>
    rw [Catalog.obey, upsertContact]
    split
    · exact filed
    · split
      · rename_i id isId
        split
        · exact filed.store isId
        · exact filed
      · rcases addContact_cases catalog contact with none | ⟨id, added⟩
        · rw [none]
          exact filed
        · rw [added]
          exact filed.store rfl
  | remove projectId id =>
    rw [Catalog.obey, removeContact]
    split
    · split
      · exact fun entry member => filed entry (List.mem_filter.mp member).1
      · exact filed
    · exact filed
  | tag id included excluded =>
    rw [Catalog.obey, setTags]
    split
    · rename_i contact found
      have own := filed.id_eq found
      exact filed.store own
    · exact filed

/-- In a catalog that commands lead to every contact is stored under its own id. -/
theorem filed_obeyed (commands : List ContactCommand) : (obeyed commands).Filed := by
  induction commands using List.reverseRecOn with
  | nil => exact nofun
  | append_singleton commands command ih =>
    rw [obeyed_concat]
    exact ih.obey command

end Outreach.Catalog
