import Outreach.Proofs.Collections.Keyed
import Outreach.Proofs.Run.Conduct
import Outreach.Proofs.Run.Requests

/-!
# What steps do to contacts

Steps reach stored contacts through services. If the services keep the contacts in a catalog that
nobody else writes to, a step leaves the contact of its run and the stored ones alone, or it stores
the contact, deletes it or changes its tags, and then the catalog and the run learn of it together
(`Steps.touch_forKind`).
-/

namespace Outreach

variable {σ : Type}

namespace Catalog

variable {catalog : Catalog}

/-- What is not accepted is not stored. -/
theorem upsertContact_refused {contact : Contact} {cause : ServiceError} {after : Catalog}
    (refused : catalog.upsertContact contact = some (.error cause, after)) : after = catalog := by
  unfold upsertContact at refused
  split at refused
  · cases refused
    rfl
  · split at refused
    · split at refused
      · cases refused
      · cases refused
        rfl
    · obtain ⟨reply, -, same⟩ := Option.map_eq_some_iff.mp refused
      cases same

theorem removeContact_refused {projectId : ProjectId} {id : ContactId} {cause : ServiceError}
    (refused : (catalog.removeContact projectId id).1 = .error cause) :
    (catalog.removeContact projectId id).2 = catalog := by
  unfold removeContact at refused ⊢
  split at refused
  · rename_i contact _
    by_cases owned : contact.projectId = projectId
    · rw [if_pos owned] at refused
      cases refused
    · rw [if_neg owned]
  · rfl

theorem setTags_refused {id : ContactId} {included excluded : List TagId} {cause : ServiceError}
    (refused : (catalog.setTags id included excluded).1 = .error cause) :
    (catalog.setTags id included excluded).2 = catalog := by
  unfold setTags at refused ⊢
  split at refused
  · cases refused
  · rfl

/-- A stored contact has an id, which it keeps if it had one, and is found under it. -/
theorem upsertContact_accepted {contact stored : Contact} {after : Catalog}
    (accepted : catalog.upsertContact contact = some (.ok stored, after)) :
    ∃ id, stored.id = some id ∧ (forall known, contact.id = some known -> known = id) ∧
      after.contact? id = some stored := by
  unfold upsertContact at accepted
  split at accepted
  · cases accepted
  · split at accepted
    · rename_i id isId
      split at accepted
      · cases accepted
        refine ⟨id, isId, fun own isOwn => Option.some.inj (isOwn.symm.trans isId), ?_⟩
        exact Keyed.get?_insert_self _ id contact
      · cases accepted
    · rename_i isId
      obtain ⟨⟨added, next⟩, adds, same⟩ := Option.map_eq_some_iff.mp accepted
      cases same
      obtain ⟨id, -, same⟩ := Option.map_eq_some_iff.mp adds
      cases same
      refine ⟨id, rfl, fun known isKnown => ?_, Keyed.get?_insert_self _ _ _⟩
      rw [isId] at isKnown
      cases isKnown

/-- A deleted contact is not found any more. -/
theorem removeContact_accepted {projectId : ProjectId} {id : ContactId}
    (accepted : (catalog.removeContact projectId id).1 = .ok ()) :
    (catalog.removeContact projectId id).2.contact? id = none := by
  unfold removeContact at accepted ⊢
  split at accepted
  · rename_i contact _
    by_cases owned : contact.projectId = projectId
    · rw [if_pos owned]
      exact Keyed.get?_erase_self _ id
    · rw [if_neg owned] at accepted
      cases accepted
  · cases accepted

/-- A contact whose tags are changed was found under the id, and the changed one is found there
then. -/
theorem setTags_accepted {id : ContactId} {included excluded : List TagId} {updated : Contact}
    (accepted : (catalog.setTags id included excluded).1 = .ok updated) :
    ∃ contact, catalog.contact? id = some contact ∧ updated.id = contact.id ∧
      (catalog.setTags id included excluded).2.contact? id = some updated := by
  unfold setTags at accepted ⊢
  split at accepted
  · rename_i contact found
    cases accepted
    exact ⟨contact, found, rfl, Keyed.get?_insert_self _ id _⟩
  · cases accepted

end Catalog

/-- A live contact is the contact of the run. -/
theorem Context.contactId_of_live {context : Context} {id : ContactId}
    (live : context.liveContactId = some id) : context.contactId = some id := by
  unfold liveContactId at live
  split at live
  · cases live
  · exact live

/-- Between two states of the surroundings the stored contacts have not changed. -/
def SameContacts (catalogOf : σ -> Catalog) (before after : σ) : Prop :=
  (catalogOf after).contacts = (catalogOf before).contacts

/-- A request is refused, or it is answered by the catalog, and the stored contacts are those that
the catalog leaves. -/
def AnsweredBy {α : Type} (catalogOf : σ -> Catalog) (ask : Catalog -> Reply Catalog α)
    (request : σ -> Reply σ α) : Prop :=
  forall world,
    (∃ cause, (request world).1 = .error cause ∧ SameContacts catalogOf world (request world).2) ∨
      (request world).1 = (ask (catalogOf world)).1 ∧
        (catalogOf (request world).2).contacts = (ask (catalogOf world)).2.contacts

/-- The contacts are kept in a catalog that nobody else writes to. -/
structure Services.KeepContacts (services : Services σ) (catalogOf : σ -> Catalog) : Prop where
  storeContact : forall contact world answer after,
    services.storeContact contact world = some (answer, after) ->
      (∃ cause, answer = .error cause ∧ SameContacts catalogOf world after) ∨
        ∃ catalog, (catalogOf world).upsertContact contact = some (answer, catalog) ∧
          (catalogOf after).contacts = catalog.contacts
  removeContact : forall project id,
    AnsweredBy catalogOf (fun catalog => catalog.removeContact project id)
      (services.removeContact project id)
  setTags : forall id included excluded,
    AnsweredBy catalogOf (fun catalog => catalog.setTags id included excluded)
      (services.setTags id included excluded)
  freshId : forall world, SameContacts catalogOf world (services.freshId world).2
  findProject : forall id world, SameContacts catalogOf world (services.findProject id world).2
  hasTags : forall id included excluded world,
    SameContacts catalogOf world (services.hasTags id included excluded world).2
  findTemplate : forall id world, SameContacts catalogOf world (services.findTemplate id world).2
  record : forall event users world,
    SameContacts catalogOf world (services.record event users world).2
  schedule : forall runAt continuation world,
    SameContacts catalogOf world (services.schedule runAt continuation world).2
  send : forall project header template world,
    SameContacts catalogOf world (services.send project header template world).2

/-- A contact that is not accepted is not stored. -/
theorem Services.KeepContacts.unstored {services : Services σ} {catalogOf : σ -> Catalog}
    (keep : services.KeepContacts catalogOf) {contact : Contact} {world after : σ}
    {cause : ServiceError} (refused : services.storeContact contact world = some (.error cause, after)) :
    SameContacts catalogOf world after := by
  rcases keep.storeContact contact world _ after refused with
    ⟨_, -, same⟩ | ⟨catalog, upserted, contacts⟩
  · exact same
  · rw [Catalog.upsertContact_refused upserted] at contacts
    exact contacts

/-- A contact that is accepted was accepted by the catalog. -/
theorem Services.KeepContacts.stored {services : Services σ} {catalogOf : σ -> Catalog}
    (keep : services.KeepContacts catalogOf) {contact stored : Contact} {world after : σ}
    (accepted : services.storeContact contact world = some (.ok stored, after)) :
    ∃ catalog, (catalogOf world).upsertContact contact = some (.ok stored, catalog) ∧
      (catalogOf after).contacts = catalog.contacts := by
  rcases keep.storeContact contact world _ after accepted with ⟨cause, refused, -⟩ | kept
  · cases refused
  · exact kept

/-- A request that the catalog refuses changes no contact. -/
theorem AnsweredBy.refused {α : Type} {catalogOf : σ -> Catalog}
    {ask : Catalog -> Reply Catalog α} {request : σ -> Reply σ α}
    (answered : AnsweredBy catalogOf ask request)
    (harmless : forall catalog cause, (ask catalog).1 = .error cause -> (ask catalog).2 = catalog)
    {world : σ} {cause : ServiceError} (refused : (request world).1 = .error cause) :
    SameContacts catalogOf world (request world).2 := by
  rcases answered world with ⟨_, _, same⟩ | ⟨answer, contacts⟩
  · exact same
  · rw [refused] at answer
    rw [harmless _ cause answer.symm] at contacts
    exact contacts

/-- A request that is accepted was accepted by the catalog. -/
theorem AnsweredBy.accepted {α : Type} {catalogOf : σ -> Catalog}
    {ask : Catalog -> Reply Catalog α} {request : σ -> Reply σ α}
    (answered : AnsweredBy catalogOf ask request) {world : σ} {answer : α}
    (accepted : (request world).1 = .ok answer) :
    (ask (catalogOf world)).1 = .ok answer ∧
      (catalogOf (request world).2).contacts = (ask (catalogOf world)).2.contacts := by
  rcases answered world with ⟨cause, refused, -⟩ | ⟨same, contacts⟩
  · rw [refused] at accepted
    cases accepted
  · exact ⟨same.symm.trans accepted, contacts⟩

namespace Rehearsal

/-- A request of a rehearsal to its catalog. -/
theorem askCatalog_answeredBy {α : Type} (request : Request) (ask : Catalog -> Reply Catalog α) :
    AnsweredBy Rehearsal.catalog ask (askCatalog request ask) := by
  intro world
  rcases askCatalog_cases request ask world with ⟨cause, refused⟩ | answered
  · rw [refused]
    exact .inl ⟨cause, rfl, rfl⟩
  · rw [answered]
    exact .inr ⟨rfl, rfl⟩

theorem askCatalog_same {α : Type} (request : Request) {ask : Catalog -> Reply Catalog α}
    (harmless : forall catalog, (ask catalog).2.contacts = catalog.contacts) (world : Rehearsal) :
    SameContacts Rehearsal.catalog world (askCatalog request ask world).2 := by
  rcases askCatalog_answeredBy request ask world with ⟨_, _, same⟩ | ⟨_, contacts⟩
  · exact same
  · exact contacts.trans (harmless _)

/-- In a rehearsal nobody but the steps writes to the catalog. -/
theorem services_keepContacts (lifetime : Span) :
    (services lifetime).KeepContacts Rehearsal.catalog where
  storeContact contact world answer after answered := by
    rcases storeContact_cases answered with ⟨cause, same⟩ | ⟨answer', catalog, upserted, same⟩
    · cases same
      exact .inl ⟨cause, rfl, rfl⟩
    · cases same
      exact .inr ⟨catalog, upserted, rfl⟩
  removeContact _ _ := askCatalog_answeredBy _ _
  setTags _ _ _ := askCatalog_answeredBy _ _
  freshId _ := rfl
  findProject _ := askCatalog_same _ (fun _ => rfl)
  hasTags id included excluded := askCatalog_same _ (fun catalog => by
    unfold Catalog.hasTags
    split <;> rfl)
  findTemplate _ := askCatalog_same _ (fun _ => rfl)
  record event users world := by
    change SameContacts _ world (record event users world).2
    rw [events_record]
    rfl
  schedule runAt continuation world := by
    change SameContacts _ world (schedule runAt continuation world).2
    rw [jobs_schedule]
    rfl
  send project header template world := by
    change SameContacts _ world (send project header template world).2
    rw [mails_send]
    rfl

end Rehearsal

namespace Steps

/-- What a step may do to the contact of its run and to the stored ones. -/
inductive Touch (catalogOf : σ -> Catalog) (context : Context) (world : σ)
    (result : StepResult σ) : Prop where
  /-- All are left alone. -/
  | nothing (held : result.context.contact = context.contact)
      (state : result.context.contactState = context.contactState)
      (same : SameContacts catalogOf world result.world)
  /-- The contact is stored, and the stored one takes its place. -/
  | stored (contact stored : Contact) (catalog : Catalog) (given : context.contact = some contact)
      (accepted : (catalogOf world).upsertContact { contact with projectId := context.project.id } =
        some (.ok stored, catalog))
      (contacts : (catalogOf result.world).contacts = catalog.contacts)
      (held : result.context.contact = some stored)
      (alive : result.context.contactState ≠ .deleted)
  /-- The contact is deleted. -/
  | removed (id : ContactId) (isId : context.contactId = some id)
      (accepted : ((catalogOf world).removeContact context.project.id id).1 = .ok ())
      (contacts : (catalogOf result.world).contacts =
        ((catalogOf world).removeContact context.project.id id).2.contacts)
      (held : result.context.contact = context.contact)
      (gone : result.context.contactState = .deleted)
  /-- The tags of the contact are changed, and the changed one takes its place. -/
  | tagged (id : ContactId) (included excluded : List TagId) (updated : Contact)
      (live : context.liveContactId = some id)
      (accepted : ((catalogOf world).setTags id included excluded).1 = .ok updated)
      (contacts : (catalogOf result.world).contacts =
        ((catalogOf world).setTags id included excluded).2.contacts)
      (held : result.context.contact = some updated)
      (alive : result.context.contactState ≠ .deleted)

section

variable {services : Services σ} {catalogOf : σ -> Catalog} (keep : services.KeepContacts catalogOf)

include keep

/-- Where nothing is accepted no contact changes. -/
theorem keeps_sameContacts : services.Keeps (SameContacts catalogOf) where
  refl _ := rfl
  trans left right := right.trans left
  freshId := keep.freshId
  findProject := keep.findProject
  hasTags := keep.hasTags
  findTemplate := keep.findTemplate
  record := keep.record
  send := keep.send
  storeContact _ _ _ _ := keep.unstored
  removeContact project id _ _ :=
    (keep.removeContact project id).refused (fun _ _ => Catalog.removeContact_refused)
  setTags id included excluded _ _ :=
    (keep.setTags id included excluded).refused (fun _ _ => Catalog.setTags_refused)

/-- Whatever the kind of an action, its step does no more than this to contacts. -/
theorem touch_forKind (context : Context) (world : σ) (kind : ActionKind) :
    Touch catalogOf context world (forKind services kind context world) := by
  cases (conduct_forKind (keeps_sameContacts keep) context world kind).act with
  | nothing held state same => exact .nothing held state same
  | stored contact stored given accepted held alive =>
    obtain ⟨catalog, stores, contacts⟩ := keep.stored accepted
    exact .stored contact stored catalog given stores contacts held alive
  | removed id live accepted left held gone =>
    obtain ⟨removes, contacts⟩ := (keep.removeContact _ id).accepted accepted
    rw [← left] at contacts
    exact .removed id (Context.contactId_of_live live) removes contacts held gone
  | tagged id included excluded updated live accepted left held alive =>
    obtain ⟨tags, contacts⟩ := (keep.setTags id included excluded).accepted accepted
    rw [← left] at contacts
    exact .tagged id included excluded updated live tags contacts held alive
  | deferred runAt same left =>
    refine .nothing (congrArg _ same) (congrArg _ same) ?_
    rw [left]
    exact keep.schedule runAt _ world

end

end Steps

end Outreach
