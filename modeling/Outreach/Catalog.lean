import Outreach.Contact
import Outreach.Mail
import Outreach.Project
import Outreach.ServiceError
import Outreach.Tree.Editing

/-!
# The catalog

The authored and stored records that runs look up: projects, trees of actions, contacts and mail
templates. An action is found by its id wherever it stands in a tree.
-/

namespace Outreach

/-- The records of a catalog. -/
structure Catalog where
  projects : Keyed ProjectId Project
  /-- The trees, by the id of their roots. -/
  actions : Keyed ActionId Action
  contacts : Keyed ContactId Contact
  templates : Keyed TemplateId MailTemplate
  /-- The greatest id of a contact so far. -/
  lastContactId : ContactId
  /-- How often tags were asked for. -/
  tagQueries : Nat
deriving Inhabited

namespace Catalog

/-- The catalog without records. -/
def empty : Catalog :=
  { projects := ∅, actions := ∅, contacts := ∅, templates := ∅, lastContactId := 0
    tagQueries := 0 }

/-- Put a project into the catalog. -/
def addProject (catalog : Catalog) (project : Project) : Catalog :=
  { catalog with projects := catalog.projects.insert project.id project }

/-- The project with an id. -/
def project? (catalog : Catalog) (id : ProjectId) : Option Project := catalog.projects.get? id

/-- Put a mail template into the catalog. -/
def addTemplate (catalog : Catalog) (template : MailTemplate) : Catalog :=
  { catalog with templates := catalog.templates.insert template.id template }

/-- The mail template with an id. -/
def template? (catalog : Catalog) (id : TemplateId) : Option MailTemplate :=
  catalog.templates.get? id

/-- Change the first value of a list of entries that can be changed. -/
def changeFirst? {κ α : Type} (change : α -> Option α) : List (κ × α) -> Option (List (κ × α))
  | [] => none
  | (key, value) :: rest =>
    match change value with
    | some changed => some ((key, changed) :: rest)
    | none => (changeFirst? change rest).map ((key, value) :: ·)

theorem keys_of_changeFirst? {κ α : Type} {change : α -> Option α}
    {entries changed : List (κ × α)} (isChanged : changeFirst? change entries = some changed) :
    changed.map Prod.fst = entries.map Prod.fst := by
  induction entries generalizing changed with
  | nil => simp [changeFirst?] at isChanged
  | cons entry rest ih =>
    obtain ⟨key, value⟩ := entry
    simp only [changeFirst?] at isChanged
    split at isChanged
    · cases isChanged; rfl
    · obtain ⟨later, isLater, rfl⟩ := Option.map_eq_some_iff.mp isChanged
      simp [ih isLater]

/-- Change the first tree that can be changed, in ascending order of the roots. -/
def changeTree? (trees : Keyed ActionId Action) (change : Action -> Option Action) :
    Option (Keyed ActionId Action) :=
  match isChanged : changeFirst? change trees.entries with
  | none => none
  | some entries =>
    some ⟨entries, by
      have keys := keys_of_changeFirst? isChanged
      have ascending := trees.ascending
      rw [← List.pairwise_map] at ascending ⊢
      exact keys ▸ ascending⟩

/-- Put a tree into the catalog: in place of the first action with the id of its root, wherever
that stands, or else as a tree of its own. -/
def putAction (catalog : Catalog) (action : Action) : Catalog :=
  match changeTree? catalog.actions (Action.replace? action) with
  | some actions => { catalog with actions }
  | none => { catalog with actions := catalog.actions.insert action.id action }

/-- Take an action out of the catalog: the tree with that id at its root, or else the children
with that id of the first action that has such children. -/
def removeAction (catalog : Catalog) (id : ActionId) : Catalog :=
  if catalog.actions.contains id then { catalog with actions := catalog.actions.erase id }
  else
    match changeTree? catalog.actions (Action.removeBelow? id) with
    | some actions => { catalog with actions }
    | none => catalog

/-- The first action with an id, in ascending order of the roots. -/
def action? (catalog : Catalog) (id : ActionId) : Option Action :=
  catalog.actions.values.findSome? (fun root => root.find? id)

/-- The id to store a contact under: its own, or the one after the greatest so far, if there is
one. -/
def idFor? (catalog : Catalog) (contact : Contact) : Option ContactId :=
  match contact.id with
  | some id => some id
  | none =>
    if catalog.lastContactId = Int64.maxValue then none else some (catalog.lastContactId + 1)

/-- The catalog with a contact that is stored under an id. -/
def withContact (catalog : Catalog) (id : ContactId) (contact : Contact) : Catalog :=
  { catalog with
    contacts := catalog.contacts.insert id contact
    lastContactId := if catalog.lastContactId <= id then id else catalog.lastContactId }

/-- Store a contact. One without an id gets the one after the greatest so far. If there is none,
nothing is stored and nothing goes on after that. -/
def addContact (catalog : Catalog) (contact : Contact) : Option (Contact × Catalog) :=
  (catalog.idFor? contact).map (fun id =>
    let stored := { contact with id := some id }
    (stored, catalog.withContact id stored))

/-- The contact with an id. -/
def contact? (catalog : Catalog) (id : ContactId) : Option Contact := catalog.contacts.get? id

/-- What is said of a contact that is not there. -/
def noContact (id : ContactId) : ServiceError := .notFound "contact" (Digits.wordText id)

/-- What is wrong with the data of a contact. -/
def complaints (contact : Contact) : List String :=
  let email := Text.trimmed contact.email
  if email.isEmpty then ["email is required"]
  else if !email.contains '@' then ["email '" ++ email ++ "' is invalid"]
  else []

/-- Store a contact: a new one without an id, in place of the stored one otherwise. There is no
answer if a new one gets no id. -/
def upsertContact (catalog : Catalog) (contact : Contact) : Option (Reply Catalog Contact) :=
  match complaints contact with
  | complaint :: others => some (.error (.validation (complaint :: others)), catalog)
  | [] =>
    match contact.id with
    | some id =>
      if catalog.contacts.contains id then
        some (.ok contact, { catalog with contacts := catalog.contacts.insert id contact })
      else some (.error (noContact id), catalog)
    | none => (catalog.addContact contact).map (fun (stored, catalog) => (.ok stored, catalog))

/-- Delete a contact of a project. -/
def removeContact (catalog : Catalog) (projectId : ProjectId) (id : ContactId) :
    Reply Catalog Unit :=
  match catalog.contact? id with
  | some contact =>
    if contact.projectId = projectId then
      (.ok (), { catalog with contacts := catalog.contacts.erase id })
    else (.error (noContact id), catalog)
  | none => (.error (noContact id), catalog)

/-- Give tags to a contact, then take tags from it. -/
def setTags (catalog : Catalog) (id : ContactId) (included excluded : List TagId) :
    Reply Catalog Contact :=
  match catalog.contact? id with
  | some contact =>
    let changed := { contact with tags := (contact.tags.insertAll included).eraseAll excluded }
    (.ok changed, { catalog with contacts := catalog.contacts.insert id changed })
  | none => (.error (noContact id), catalog)

/-- Whether a contact has all tags of the first set and none of the second. -/
def hasTags (catalog : Catalog) (id : ContactId) (included excluded : IdSet) :
    Reply Catalog Bool :=
  let asked := { catalog with tagQueries := catalog.tagQueries + 1 }
  match catalog.contact? id with
  | some contact =>
    (.ok (included.isSubset contact.tags && excluded.isDisjoint contact.tags), asked)
  | none => (.error (noContact id), asked)

end Catalog

end Outreach
