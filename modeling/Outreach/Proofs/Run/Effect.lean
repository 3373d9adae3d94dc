import Outreach.Proofs.Run.Contacts
import Outreach.Proofs.Run.Requests
import Outreach.Proofs.Tree.Exposure

/-!
# What a step may do

A step leaves the contact of its run and the queue alone, or it puts a stored contact in the place
of the contact, or it deletes the contact, or it hands the actions below over as a continuation.
There is nothing else that any of the steps does to them, and none touches the clock, the projects
and the trees of the catalog, or cancels its run.
-/

namespace Outreach

/-- What no step changes of the surroundings. -/
structure Rehearsal.Frame (before after : Rehearsal) : Prop where
  now : after.now = before.now
  projects : after.catalog.projects = before.catalog.projects
  actions : after.catalog.actions = before.catalog.actions
  faults : after.faults = before.faults
  jobIdAt : after.jobIdAt = before.jobIdAt

/-- The queue is left alone, too. -/
structure Rehearsal.Quiet (before after : Rehearsal) : Prop
    extends Rehearsal.Frame before after where
  jobs : after.jobs = before.jobs
  jobCount : after.jobCount = before.jobCount

namespace Steps

/-- What a step may do to the contact of its run and to the queue. -/
inductive Effect (context : Context) (world : Rehearsal) (context' : Context) (world' : Rehearsal) :
    Prop where
  /-- Both are left alone. -/
  | quiet (contact : context'.contact = context.contact)
      (state : context'.contactState = context.contactState) (quiet : world.Quiet world')
  /-- A stored contact takes the place of the contact. -/
  | stored (contact : Contact) (held : context'.contact = some contact)
      (filed : ∃ key, (key, contact) ∈ world'.catalog.contacts.entries)
      (alive : context'.contactState ≠ .deleted) (quiet : world.Quiet world')
  /-- The contact is deleted. -/
  | removed (state : context'.contactState = .deleted) (quiet : world.Quiet world')
  /-- The actions below are handed over. -/
  | deferred (runAt : Instant) (same : context' = context)
      (handed : (Rehearsal.schedule runAt (continuationOf context) world).2 = world')

/-- What is known of any step. -/
structure Sound (context : Context) (world : Rehearsal) (result : StepResult Rehearsal) : Prop where
  effect : Effect context world result.context result.world
  frame : world.Frame result.world
  goesOn : result.cancels = false
  /-- Only the guard before a step says that the run has been cancelled. -/
  uncancelled : result.outcome ≠ .error .cancelled

end Steps

namespace Rehearsal

variable {rehearsal world : Rehearsal}

/-- Whoever does nothing keeps the frame, ... -/
theorem Frame.refl (rehearsal : Rehearsal) : rehearsal.Frame rehearsal :=
  ⟨rfl, rfl, rfl, rfl, rfl⟩

/-- ... and the queue. -/
theorem Quiet.refl (rehearsal : Rehearsal) : rehearsal.Quiet rehearsal :=
  ⟨.refl rehearsal, rfl, rfl⟩

/-- What each of two steps leaves alone, both leave alone, ... -/
theorem Frame.trans {first second third : Rehearsal} (left : first.Frame second)
    (right : second.Frame third) : first.Frame third where
  now := right.now.trans left.now
  projects := right.projects.trans left.projects
  actions := right.actions.trans left.actions
  faults := right.faults.trans left.faults
  jobIdAt := right.jobIdAt.trans left.jobIdAt

/-- ... also the queue. -/
theorem Quiet.trans {first second third : Rehearsal} (left : first.Quiet second)
    (right : second.Quiet third) : first.Quiet third where
  toFrame := left.toFrame.trans right.toFrame
  jobs := right.jobs.trans left.jobs
  jobCount := right.jobCount.trans left.jobCount

/-- A request that leaves the projects and the trees of the catalog alone leaves alone whatever is
not in the catalog. -/
theorem askCatalog_quiet {α : Type} {request : Request} {ask : Catalog -> Reply Catalog α}
    (projects : forall catalog, (ask catalog).2.projects = catalog.projects)
    (actions : forall catalog, (ask catalog).2.actions = catalog.actions) (rehearsal : Rehearsal) :
    rehearsal.Quiet (rehearsal.askCatalog request ask).2 := by
  rcases askCatalog_cases request ask rehearsal with ⟨cause, refused⟩ | answered
  · rw [refused]
    exact .refl rehearsal
  · rw [answered]
    exact ⟨⟨rfl, projects _, actions _, rfl, rfl⟩, rfl, rfl⟩

end Rehearsal

namespace Catalog

section Trees

variable (catalog : Catalog)

/-- A contact that is stored, or refused, leaves the projects and the trees alone. -/
theorem trees_upsertContact {contact : Contact} {answer : Except ServiceError Contact}
    {after : Catalog} (upserted : catalog.upsertContact contact = some (answer, after)) :
    after.projects = catalog.projects ∧ after.actions = catalog.actions := by
  unfold upsertContact at upserted
  split at upserted
  · cases upserted
    exact ⟨rfl, rfl⟩
  · split at upserted
    · split at upserted <;> cases upserted <;> exact ⟨rfl, rfl⟩
    · obtain ⟨⟨stored, after⟩, added, same⟩ := Option.map_eq_some_iff.mp upserted
      obtain ⟨id, -, isAfter⟩ := Option.map_eq_some_iff.mp added
      cases isAfter
      cases same
      exact ⟨rfl, rfl⟩

/-- A contact that is deleted, or is not there, leaves the projects and the trees alone. -/
theorem trees_removeContact (projectId : ProjectId) (id : ContactId) :
    (catalog.removeContact projectId id).2.projects = catalog.projects ∧
      (catalog.removeContact projectId id).2.actions = catalog.actions := by
  unfold removeContact
  split
  · split <;> exact ⟨rfl, rfl⟩
  · exact ⟨rfl, rfl⟩

/-- So do tags that are changed, ... -/
theorem trees_setTags (id : ContactId) (included excluded : List TagId) :
    (catalog.setTags id included excluded).2.projects = catalog.projects ∧
      (catalog.setTags id included excluded).2.actions = catalog.actions := by
  unfold setTags
  split <;> exact ⟨rfl, rfl⟩

/-- ... and tags that are asked for. -/
theorem trees_hasTags (id : ContactId) (included excluded : IdSet) :
    (catalog.hasTags id included excluded).2.projects = catalog.projects ∧
      (catalog.hasTags id included excluded).2.actions = catalog.actions := by
  unfold hasTags
  split <;> exact ⟨rfl, rfl⟩

end Trees

/-- A contact that is found is in the catalog. -/
theorem filed_of_contact? {catalog : Catalog} {id : ContactId} {contact : Contact}
    (found : catalog.contact? id = some contact) :
    ∃ key, (key, contact) ∈ catalog.contacts.entries := ⟨id, Keyed.mem_of_get? found⟩

end Catalog

namespace Rehearsal

variable (lifetime : Span) (world : Rehearsal)

/-- To look for a project touches nothing that is not in the catalog, ... -/
theorem quiet_findProject (id : ProjectId) :
    world.Quiet ((services lifetime).findProject id world).2 :=
  askCatalog_quiet (fun _ => rfl) (fun _ => rfl) world

/-- ... nor does it to look for a template, ... -/
theorem quiet_findTemplate (id : TemplateId) :
    world.Quiet ((services lifetime).findTemplate id world).2 :=
  askCatalog_quiet (fun _ => rfl) (fun _ => rfl) world

/-- ... and to ask for tags. -/
theorem quiet_hasTags (id : ContactId) (included excluded : IdSet) :
    world.Quiet ((services lifetime).hasTags id included excluded world).2 :=
  askCatalog_quiet (fun catalog => (catalog.trees_hasTags id included excluded).1)
    (fun catalog => (catalog.trees_hasTags id included excluded).2) world

/-- A contact that is stored, or refused, leaves the queue alone, ... -/
theorem quiet_storeContact {contact : Contact} {reply : Reply Rehearsal Contact}
    (answered : (services lifetime).storeContact contact world = some reply) :
    world.Quiet reply.2 := by
  rcases storeContact_cases answered with ⟨cause, rfl⟩ | ⟨answer, catalog, upserted, rfl⟩
  · exact .refl world
  · obtain ⟨projects, actions⟩ := world.catalog.trees_upsertContact upserted
    exact ⟨⟨rfl, projects, actions, rfl, rfl⟩, rfl, rfl⟩

/-- ... one that is deleted does, ... -/
theorem quiet_removeContact (projectId : ProjectId) (id : ContactId) :
    world.Quiet ((services lifetime).removeContact projectId id world).2 :=
  askCatalog_quiet (fun catalog => (catalog.trees_removeContact projectId id).1)
    (fun catalog => (catalog.trees_removeContact projectId id).2) world

/-- ... and so do tags that are changed. -/
theorem quiet_setTags (id : ContactId) (included excluded : List TagId) :
    world.Quiet ((services lifetime).setTags id included excluded world).2 :=
  askCatalog_quiet (fun catalog => (catalog.trees_setTags id included excluded).1)
    (fun catalog => (catalog.trees_setTags id included excluded).2) world

/-- The events are not part of the frame. -/
theorem quiet_record (event : Event) (users : List UserId) :
    world.Quiet (record event users world).2 := by
  rw [events_record]
  exact ⟨⟨rfl, rfl, rfl, rfl, rfl⟩, rfl, rfl⟩

/-- Neither are the mails. -/
theorem quiet_send (project : Project) (header : MailHeader) (template : MailTemplate) :
    world.Quiet (send project header template world).2 := by
  rw [mails_send]
  exact ⟨⟨rfl, rfl, rfl, rfl, rfl⟩, rfl, rfl⟩

/-- A new id only counts up the ids. -/
theorem quiet_freshId : world.Quiet ((services lifetime).freshId world).2 :=
  ⟨⟨rfl, rfl, rfl, rfl, rfl⟩, rfl, rfl⟩

/-- A continuation that is handed over only adds to the jobs. -/
theorem frame_schedule (runAt : Instant) (continuation : Continuation) :
    world.Frame (schedule runAt continuation world).2 := by
  rw [jobs_schedule]
  exact ⟨rfl, rfl, rfl, rfl, rfl⟩

/-- What the steps ask of a rehearsal apart from the queue leaves it quiet. -/
theorem services_keeps : (services lifetime).Keeps Quiet where
  refl := .refl
  trans := .trans
  freshId := quiet_freshId lifetime
  findProject id world := quiet_findProject lifetime world id
  hasTags id included excluded world := quiet_hasTags lifetime world id included excluded
  findTemplate id world := quiet_findTemplate lifetime world id
  record event users world := quiet_record world event users
  send project header template world := quiet_send world project header template
  storeContact _ world _ _ refused := quiet_storeContact lifetime world refused
  removeContact project id world _ _ := quiet_removeContact lifetime world project id
  setTags id included excluded world _ _ := quiet_setTags lifetime world id included excluded

end Rehearsal

namespace Steps

/-- What a step does to the contact and asks for shows in the catalog and in the queue. -/
theorem Act.effect {lifetime : Span} {context context' : Context} {world world' : Rehearsal}
    (act : Act (Rehearsal.services lifetime) Rehearsal.Quiet context world context' world') :
    Effect context world context' world' ∧ world.Frame world' := by
  have keep := Rehearsal.services_keepContacts lifetime
  cases act with
  | nothing held state quiet => exact ⟨.quiet held state quiet, quiet.toFrame⟩
  | stored contact stored given accepted held alive =>
    obtain ⟨catalog, stores, contacts⟩ := keep.stored accepted
    obtain ⟨id, -, -, found⟩ := Catalog.upsertContact_accepted stores
    have filed := Catalog.filed_of_contact? found
    rw [← contacts] at filed
    have quiet := Rehearsal.quiet_storeContact lifetime world accepted
    exact ⟨.stored stored held filed alive quiet, quiet.toFrame⟩
  | removed id live accepted left held gone =>
    have quiet := left ▸ Rehearsal.quiet_removeContact lifetime world context.project.id id
    exact ⟨.removed gone quiet, quiet.toFrame⟩
  | tagged id included excluded updated live accepted left held alive =>
    obtain ⟨tags, contacts⟩ := (keep.setTags id included excluded).accepted accepted
    obtain ⟨contact, -, -, found⟩ := Catalog.setTags_accepted tags
    have filed := Catalog.filed_of_contact? found
    rw [← contacts, ← left] at filed
    have quiet := left ▸ Rehearsal.quiet_setTags lifetime world id included excluded
    exact ⟨.stored updated held filed alive quiet, quiet.toFrame⟩
  | deferred runAt same left =>
    have frame := left ▸ Rehearsal.frame_schedule world runAt (continuationOf context)
    exact ⟨.deferred runAt same left.symm, frame⟩

/-- Whatever the kind of an action, its step does no more than this. -/
theorem sound_forKind (lifetime : Span) {context : Context} {world : Rehearsal}
    (kind : ActionKind) :
    Sound context world (forKind (Rehearsal.services lifetime) kind context world) := by
  have conduct := conduct_forKind (Rehearsal.services_keeps lifetime) context world kind
  obtain ⟨effect, frame⟩ := conduct.act.effect
  exact ⟨effect, frame, conduct.goesOn, conduct.uncancelled⟩

end Steps

namespace Executor

/-- The executor with the steps of all kinds, for rehearsals. -/
def standard (lifetime : Span) (maxDepth : Nat) : Executor Rehearsal :=
  ⟨.standard (Rehearsal.services lifetime), maxDepth⟩

variable (lifetime : Span) (maxDepth : Nat)

/-- The step that the visit of an action takes. -/
def stepOf (action : Action) (run : Run Rehearsal) : StepResult Rehearsal :=
  Steps.forKind (Rehearsal.services lifetime) action.kind (entering run action).context run.world

/-- That step is one that steps may take. -/
theorem sound_stepOf (action : Action) (run : Run Rehearsal) :
    Steps.Sound (entering run action).context run.world (stepOf lifetime action run) :=
  Steps.sound_forKind lifetime action.kind

/-- The visit of an action takes its step, unless the action is kept from it or the run has been
cancelled. -/
theorem visit_cases (action : Action) (depth : Nat) (run : Run Rehearsal) :
    let visited := (standard lifetime maxDepth).visit action depth run
    (∃ outcome, visited = (.ok outcome, run) ∧ outcome.status = .failed ∧ outcome.flow = .stop) ∨
      run.cancelled = true ∧ visited = (.error .cancelled, entering run action) ∨
      action.enabled = true ∧ visited =
        (absorb (stepOf lifetime action run).outcome,
          ⟨(stepOf lifetime action run).context, (stepOf lifetime action run).world,
            (stepOf lifetime action run).cancels⟩) := by
  -- It is a run that nobody else cancels.
  rcases @visit_exposed Rehearsal (Rehearsal.services lifetime) (fun _ => false) (fun _ => false)
    maxDepth action depth run with failed | ⟨cancelled, visited⟩ | taken
  · exact .inl failed
  · have stopped : run.cancelled = true := cancelled
    refine .inr (.inl ⟨stopped, visited.trans ?_⟩)
    rw [← stopped]
    rfl
  · exact .inr (.inr taken)

end Executor

end Outreach
