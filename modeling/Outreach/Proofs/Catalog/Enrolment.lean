import Mathlib.Data.List.Induction
import Outreach.Catalog
import Outreach.Proofs.Collections.Keyed
import Outreach.Rehearsal.Samples

/-!
# The ids of new contacts

A contact without an id gets the one after the greatest id that any contact has had so far, also one
that has been removed since or came with an id of its own. So it gets an id that no contact has ever
had. Once the greatest id of all has been used there is none after it, and a contact without an id
cannot be stored any more. `enrolled` says exactly when that is, `not_enrolled` how it comes
about.
-/

namespace Outreach

/-- What is done to the contacts of a catalog. -/
inductive ContactCommand where
  /-- Store a contact as it is. -/
  | add (contact : Contact)
  /-- Store a contact if its data are sound. -/
  | upsert (contact : Contact)
  /-- Delete a contact of a project. -/
  | remove (projectId : ProjectId) (id : ContactId)
  /-- Give tags to a contact and take tags from it. -/
  | tag (id : ContactId) (included excluded : List TagId)

namespace Catalog

/-- Carry out a command. One that is refused leaves the catalog as it is, and so does one to store a
contact for which no id is left. -/
def obey (catalog : Catalog) : ContactCommand -> Catalog
  | .add contact => ((catalog.addContact contact).map Prod.snd).getD catalog
  | .upsert contact => ((catalog.upsertContact contact).map Prod.snd).getD catalog
  | .remove projectId id => (catalog.removeContact projectId id).2
  | .tag id included excluded => (catalog.setTags id included excluded).2

/-- The catalog that one comes to from an empty one. -/
def obeyed (commands : List ContactCommand) : Catalog := commands.foldl obey .empty

/-- At some time there has been a contact with an id. -/
def Used (commands : List ContactCommand) (id : ContactId) : Prop :=
  ∃ earlier, earlier <+: commands ∧ ((obeyed earlier).contact? id).isSome = true

variable {catalog : Catalog} {commands : List ContactCommand} {command : ContactCommand}
  {contact : Contact} {id : ContactId}

section Commands

theorem contact?_isSome_iff :
    (catalog.contact? id).isSome = true ↔ id ∈ catalog.contacts.keys := Keyed.contains_iff

/-- A contact is stored under its id, or it gets none. -/
theorem addContact_cases (catalog : Catalog) (contact : Contact) :
    catalog.addContact contact = none ∨ ∃ id,
      let stored := { contact with id := some id }
      catalog.addContact contact = some (stored, catalog.withContact id stored) := by
  unfold addContact
  cases catalog.idFor? contact with
  | none => exact .inl rfl
  | some id => exact .inr ⟨id, rfl⟩

/-- A command stores a contact under its id, which may be a new one, or it leaves the greatest id as it
is and there is no contact with an id that there was none with before. -/
theorem obey_cases (catalog : Catalog) (command : ContactCommand) :
    (∃ id contact, contact.id = some id ∧
        catalog.obey command = catalog.withContact id contact) ∨
      ((catalog.obey command).lastContactId = catalog.lastContactId ∧
        ∀ id ∈ (catalog.obey command).contacts.keys, id ∈ catalog.contacts.keys) := by
  cases command with
  | add contact =>
    rw [obey]
    rcases addContact_cases catalog contact with none | ⟨id, added⟩
    · rw [none]
      exact .inr ⟨rfl, fun _ present => present⟩
    · rw [added]
      exact .inl ⟨id, _, rfl, rfl⟩
  | upsert contact =>
    rw [obey, upsertContact]
    split
    · exact .inr ⟨rfl, fun _ present => present⟩
    · split
      · rename_i own _
        split
        · rename_i known
          refine .inr ⟨rfl, fun id present => ?_⟩
          rcases Keyed.mem_keys_insert present with rfl | before
          · exact Keyed.contains_iff.mp known
          · exact before
        · exact .inr ⟨rfl, fun _ present => present⟩
      · rcases addContact_cases catalog contact with none | ⟨id, added⟩
        · rw [none]
          exact .inr ⟨rfl, fun _ present => present⟩
        · rw [added]
          exact .inl ⟨id, _, rfl, rfl⟩
  | remove projectId own =>
    right
    rw [obey, removeContact]
    split
    · split
      · exact ⟨rfl, fun _ => Keyed.mem_keys_of_erase⟩
      · exact ⟨rfl, fun _ present => present⟩
    · exact ⟨rfl, fun _ present => present⟩
  | tag own included excluded =>
    right
    rw [obey, setTags]
    split
    · rename_i contact found
      refine ⟨rfl, fun id present => ?_⟩
      rcases Keyed.mem_keys_insert present with rfl | before
      · exact contact?_isSome_iff.mp (Option.isSome_of_eq_some found)
      · exact before
    · exact ⟨rfl, fun _ present => present⟩

/-- The greatest id does not go down, and it is not below one that a contact is stored under. -/
theorem le_lastContactId_withContact (catalog : Catalog) (id : ContactId) (contact : Contact) :
    catalog.lastContactId <= (catalog.withContact id contact).lastContactId ∧
      id <= (catalog.withContact id contact).lastContactId := by
  unfold withContact
  dsimp only
  split
  · rename_i above
    exact ⟨above, Int64.le_refl _⟩
  · rename_i notAbove
    exact ⟨Int64.le_refl _, Int64.le_of_lt (Int64.not_le.mp notAbove)⟩

theorem obeyed_concat : obeyed (commands ++ [command]) = (obeyed commands).obey command := by
  rw [obeyed, List.foldl_append]
  rfl

theorem used_concat_iff :
    Used (commands ++ [command]) id ↔
      Used commands id ∨ id ∈ (obeyed (commands ++ [command])).contacts.keys := by
  unfold Used
  simp only [contact?_isSome_iff]
  constructor
  · rintro ⟨earlier, isPrefix, present⟩
    rcases List.prefix_concat_iff.mp isPrefix with rfl | before
    · exact .inr present
    · exact .inl ⟨earlier, before, present⟩
  · rintro (⟨earlier, before, present⟩ | present)
    · exact ⟨earlier, before.trans (List.prefix_append _ _), present⟩
    · exact ⟨_, List.prefix_rfl, present⟩

end Commands

section Greatest

/-- Above every id but the greatest there is the next one. -/
theorem lt_add_one {id : ContactId} (below : id ≠ Int64.maxValue) : id < id + 1 := by
  have upper := id.toInt_le
  have apart : id.toInt ≠ Int64.maxValue.toInt := fun same => below (Int64.toInt_inj.mp same)
  have lower := id.minValue_le_toInt
  rw [Int64.toInt_maxValue] at upper apart
  rw [Int64.toInt_minValue] at lower
  have exact : (id.toInt + 1).bmod (2 ^ 64) = id.toInt + 1 :=
    Int.bmod_eq_of_le (by omega) (by omega)
  rw [Int64.lt_iff_toInt_lt, Int64.toInt_add, Int64.toInt_one, exact]
  omega

/-- The greatest id of a catalog keeps track of the ids that have been used: those of its contacts
are among them, none is above it, and it is one of them if it is not the 0 to start from. -/
structure Tracks (catalog : Catalog) (used : ContactId -> Prop) : Prop where
  stored : ∀ id ∈ catalog.contacts.keys, used id
  above : forall id, used id -> id <= catalog.lastContactId
  attained : catalog.lastContactId = 0 ∨ used catalog.lastContactId

theorem Tracks.withContact {used : ContactId -> Prop} (tracks : catalog.Tracks used)
    (id : ContactId) (contact : Contact) :
    let next := catalog.withContact id contact
    next.Tracks (fun other => used other ∨ other ∈ next.contacts.keys) := by
  intro next
  obtain ⟨rises, atLeast⟩ := le_lastContactId_withContact catalog id contact
  refine ⟨fun other => .inr, ?_, ?_⟩
  · rintro other (before | present)
    · exact Int64.le_trans (tracks.above other before) rises
    · rcases Keyed.mem_keys_insert present with rfl | before
      · exact atLeast
      · exact Int64.le_trans (tracks.above other (tracks.stored other before)) rises
  · by_cases isGreatest : catalog.lastContactId <= id
    · have greatest : next.lastContactId = id := if_pos isGreatest
      have found : next.contact? id = some contact := Keyed.get?_insert_self _ _ _
      rw [greatest]
      exact .inr (.inr (contact?_isSome_iff.mp (Option.isSome_of_eq_some found)))
    · have greatest : next.lastContactId = catalog.lastContactId := if_neg isGreatest
      rw [greatest]
      exact tracks.attained.imp_right .inl

/-- The greatest id keeps track of what a command uses. -/
theorem Tracks.obey {used : ContactId -> Prop} (tracks : catalog.Tracks used)
    (command : ContactCommand) :
    (catalog.obey command).Tracks
      (fun id => used id ∨ id ∈ (catalog.obey command).contacts.keys) := by
  rcases obey_cases catalog command with ⟨id, contact, -, stored⟩ | ⟨same, fewer⟩
  · rw [stored]
    exact tracks.withContact id contact
  · refine ⟨fun id => .inr, ?_, ?_⟩
    · rw [same]
      rintro id (before | present)
      · exact tracks.above id before
      · exact tracks.above id (tracks.stored id (fewer id present))
    · rw [same]
      exact tracks.attained.imp_right .inl

theorem tracks_obeyed (commands : List ContactCommand) :
    (obeyed commands).Tracks (Used commands) := by
  induction commands using List.reverseRecOn with
  | nil =>
    refine ⟨nofun, ?_, .inl rfl⟩
    rintro id ⟨earlier, isPrefix, present⟩
    rw [List.prefix_nil.mp isPrefix] at present
    cases present
  | append_singleton commands command ih =>
    have used : Used (commands ++ [command]) =
        fun id => Used commands id ∨ id ∈ ((obeyed commands).obey command).contacts.keys := by
      funext id
      rw [← obeyed_concat]
      exact propext used_concat_iff
    rw [used, obeyed_concat]
    exact ih.obey command

/-- The greatest id is the greatest of all exactly if that has been used. -/
theorem lastContactId_eq_maxValue_iff (commands : List ContactCommand) :
    (obeyed commands).lastContactId = Int64.maxValue ↔ Used commands Int64.maxValue := by
  obtain ⟨-, above, attained⟩ := tracks_obeyed commands
  constructor
  · intro isMost
    rw [isMost] at attained
    exact attained.resolve_left (by decide)
  · intro used
    exact Int64.le_antisymm (Int64.le_maxValue _) (above _ used)

/-- The next id has not been used. -/
theorem not_used_next (commands : List ContactCommand)
    (notMost : (obeyed commands).lastContactId ≠ Int64.maxValue) :
    ¬ Used commands ((obeyed commands).lastContactId + 1) := fun used =>
  absurd (lt_add_one notMost) (Int64.not_lt.mpr ((tracks_obeyed commands).above _ used))

end Greatest

/-- After any commands a contact without an id can be stored exactly if the greatest id of all has not
been used. Then it is stored under an id that no contact has ever had, next to what is stored already,
and there is one contact more. Whether its data are checked first makes no difference if they are
sound. -/
theorem enrolled (commands : List ContactCommand) {contact : Contact}
    (unnumbered : contact.id = none) :
    let catalog := obeyed commands
    (Used commands Int64.maxValue ->
      catalog.addContact contact = none ∧
        (complaints contact = [] -> catalog.upsertContact contact = none)) ∧
    (¬ Used commands Int64.maxValue ->
      ∃ (id : ContactId) (next : Catalog), let stored : Contact := { contact with id := some id }
        catalog.addContact contact = some (stored, next) ∧
        (complaints contact = [] -> catalog.upsertContact contact = some (.ok stored, next)) ∧
        ¬ Used commands id ∧ catalog.contact? id = none ∧ next.contact? id = some stored ∧
        (forall other, other ≠ id -> next.contact? other = catalog.contact? other) ∧
        next.contacts.size = catalog.contacts.size + 1) := by
  intro catalog
  have checked (sound : complaints contact = []) :
      catalog.upsertContact contact =
        (catalog.addContact contact).map (fun added => (.ok added.1, added.2)) := by
    rw [upsertContact, sound, unnumbered]
  constructor
  · intro used
    have isMost := (lastContactId_eq_maxValue_iff commands).mpr used
    have none : catalog.addContact contact = none := by
      rw [addContact, idFor?, unnumbered]
      exact congrArg _ (if_pos isMost)
    refine ⟨none, fun sound => ?_⟩
    rw [checked sound, none]
    rfl
  · intro unused
    have notMost := mt (lastContactId_eq_maxValue_iff commands).mp unused
    have unusedNext := not_used_next commands notMost
    let id := catalog.lastContactId + 1
    have added : catalog.addContact contact =
        some ({ contact with id := some id },
          catalog.withContact id { contact with id := some id }) := by
      rw [addContact, idFor?, unnumbered]
      exact congrArg _ (if_neg notMost)
    have absent : catalog.contact? id = none := by
      rw [← Option.not_isSome_iff_eq_none, contact?_isSome_iff]
      exact fun present => unusedNext ((tracks_obeyed commands).stored _ present)
    refine ⟨id, _, added, fun sound => ?_, unusedNext, absent, Keyed.get?_insert_self _ _ _,
      fun other apart => Keyed.get?_insert_of_ne _ _ apart, Keyed.size_insert_of_absent _ absent⟩
    rw [checked sound, added]
    rfl

namespace Succession

/-- A lead comes and goes. -/
def departed : List ContactCommand := [.add Sample.contact, .remove 1 1]

/-- A contact brings the greatest id along. -/
def overrun : List ContactCommand := [.add { Sample.contact with id := some Int64.maxValue }]

end Succession

/-- Whoever comes after the lead that has gone does not get its id. -/
theorem enrolled_departed :
    Sample.contact.id = none ∧ ¬ Used Succession.departed Int64.maxValue ∧
      ∃ next, (obeyed Succession.departed).addContact Sample.contact =
          some ({ Sample.contact with id := some 2 }, next) ∧
        ¬ Used Succession.departed 2 ∧ next.contacts.size = 1 := by
  have unnumbered : Sample.contact.id = none := rfl
  have unused : ¬ Used Succession.departed Int64.maxValue := by
    rw [← lastContactId_eq_maxValue_iff]
    decide
  obtain ⟨id, next, added, -, unusedId, -, -, -, grows⟩ :=
    (enrolled Succession.departed unnumbered).2 unused
  have isTwo : some 2 = some id :=
    congrArg (fun reply => reply.bind (fun added => added.1.id)) added
  obtain rfl := Option.some.inj isTwo
  exact ⟨unnumbered, unused, next, added, unusedId, grows⟩

open Succession in
/-- Not every new contact gets an id: after the greatest one there is none. -/
theorem not_enrolled :
    ¬ forall (commands : List ContactCommand) (contact : Contact), contact.id = none ->
        ∃ (id : ContactId) (next : Catalog),
          (obeyed commands).addContact contact = some ({ contact with id := some id }, next) ∧
          ¬ Used commands id ∧
          next.contacts.size = (obeyed commands).contacts.size + 1 := by
  intro law
  obtain ⟨id, next, added, -⟩ := law overrun Sample.contact rfl
  have none : (obeyed overrun).addContact Sample.contact = none := by rfl
  cases none.symm.trans added

end Catalog

end Outreach
