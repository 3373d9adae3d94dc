import Outreach.Proofs.Run.Contacts
import Outreach.Proofs.Run.Ending
import Outreach.Proofs.Run.Requests
import Outreach.Proofs.Tree.Arrivals
import Outreach.Rehearsal.Samples

/-!
# What a step leaves behind

A step that does not succeed leaves the context of its run as it was, and of its requests none that
changes anything was accepted, except that it may have handed over what is below it, which its flow
says then. A step that does succeed changes no more of the context than its kind allows.
-/

namespace Outreach

/-- The records of a catalog. How often tags were asked for is not one. -/
def Catalog.records (catalog : Catalog) : Catalog := { catalog with tagQueries := 0 }

/-- The jobs of a desk. Whether it is about to refuse one does not count. -/
def JobDesk.content : JobDesk -> JobDesk
  | .notes jobs _ => .notes jobs false
  | desk => desk

namespace Steps

/-- The answer of a step that did not succeed. An instant or an id out of range is no answer: nothing
goes on after that. -/
def Unsuccessful : Except StepFault Outcome -> Prop
  | .ok outcome => outcome.status ≠ .success
  | .error fault => fault ≠ .overflow

/-- A step has changed nothing of the context, of the records of the catalog and of the mails, and
nothing of the jobs unless its flow says that the actions below were handed over. -/
structure Traceless (before after : Run Rehearsal) (answer : Except StepFault Outcome) : Prop where
  context : after.context = before.context
  records : after.world.catalog.records = before.world.catalog.records
  mails : after.world.mails = before.world.mails
  jobs : (forall outcome, answer = .ok outcome -> outcome.flow ≠ .suspend) ->
    after.world.jobs.content = before.world.jobs.content

end Steps

/-- What a step of a kind leaves as it is in the context of its run, whatever its answer. -/
structure Context.ChangedBy (kind : ActionKind) (before after : Context) : Prop where
  project : after.project = before.project
  rootAction : after.rootAction = before.rootAction
  currentAction : after.currentAction = before.currentAction
  properties : after.properties = before.properties
  event : after.event = before.event
  contact : kind ∉ [.register, .unregister, .setTags] -> after.contact = before.contact
  contactState : kind ∉ [.register, .unregister, .setTags] ->
    after.contactState = before.contactState
  ticket : kind ≠ .authenticate -> after.ticket = before.ticket
  anonymousId : kind ≠ .authenticate -> after.anonymousId = before.anonymousId

/-- A step of any kind may leave the context as it is. -/
theorem Context.ChangedBy.refl (kind : ActionKind) (context : Context) :
    context.ChangedBy kind context :=
  ⟨rfl, rfl, rfl, rfl, rfl, fun _ => rfl, fun _ => rfl, fun _ => rfl, fun _ => rfl⟩

theorem Catalog.records_hasTags (catalog : Catalog) (id : ContactId) (included excluded : IdSet) :
    (catalog.hasTags id included excluded).2.records = catalog.records := by
  unfold hasTags
  split <;> rfl

namespace Rehearsal

/-- Between two states of a rehearsal nothing has changed but how often tags were asked for and what
is known of events. -/
structure Asked (before after : Rehearsal) : Prop where
  records : after.catalog.records = before.catalog.records
  jobs : after.jobs = before.jobs
  mails : after.mails = before.mails

theorem Asked.refl (world : Rehearsal) : world.Asked world := ⟨rfl, rfl, rfl⟩

theorem Asked.trans {first second third : Rehearsal} (left : first.Asked second)
    (right : second.Asked third) : first.Asked third where
  records := right.records.trans left.records
  jobs := right.jobs.trans left.jobs
  mails := right.mails.trans left.mails

/-- A request to the catalog that leaves the records alone. -/
theorem asked_askCatalog {α : Type} (request : Request) (ask : Catalog -> Reply Catalog α)
    {world : Rehearsal} (harmless : (ask world.catalog).2.records = world.catalog.records) :
    world.Asked (world.askCatalog request ask).2 := by
  rcases askCatalog_cases request ask world with ⟨cause, refused⟩ | answered
  · rw [refused]
    exact .refl world
  · rw [answered]
    exact ⟨harmless, rfl, rfl⟩

/-- A request to the catalog that is refused leaves the records alone if the catalog refuses only
what it leaves alone. -/
theorem asked_askCatalog_refused {α : Type} {request : Request} {ask : Catalog -> Reply Catalog α}
    (harmless : forall catalog cause, (ask catalog).1 = .error cause -> (ask catalog).2 = catalog)
    {world : Rehearsal} {cause : ServiceError}
    (refused : (world.askCatalog request ask).1 = .error cause) :
    world.Asked (world.askCatalog request ask).2 := by
  rcases askCatalog_cases request ask world with ⟨_, failed⟩ | answered
  · rw [failed]
    exact .refl world
  · rw [answered] at refused ⊢
    exact ⟨congrArg Catalog.records (harmless _ cause refused), rfl, rfl⟩

/-- A contact that is refused is not stored. -/
theorem asked_storeContact_refused {contact : Contact} {world after : Rehearsal}
    {cause : ServiceError} (refused : storeContact contact world = some (.error cause, after)) :
    world.Asked after := by
  rcases storeContact_cases refused with ⟨_, same⟩ | ⟨answer, catalog, upserted, same⟩
  · cases same
    exact .refl world
  · cases same
    exact ⟨congrArg Catalog.records (Catalog.upsertContact_refused upserted), rfl, rfl⟩

/-- To record an event touches neither the records nor the mails nor the jobs. -/
theorem asked_record (event : Event) (users : List UserId) (world : Rehearsal) :
    world.Asked (record event users world).2 := by
  rw [events_record]
  exact ⟨rfl, rfl, rfl⟩

/-- A mail that is refused is not sent. -/
theorem asked_send_refused {project : Project} {header : MailHeader} {template : MailTemplate}
    {world : Rehearsal} {cause : ServiceError}
    (refused : (send project header template world).1 = .error cause) :
    world.Asked (send project header template world).2 := by
  rw [send_refused refused]
  exact .refl world

/-- Questions and requests that are refused change nothing in a rehearsal. -/
theorem services_spares (lifetime : Span) : (services lifetime).Spares Asked where
  refl := .refl
  trans := .trans
  findProject _ _ := asked_askCatalog _ _ rfl
  hasTags id included excluded _ :=
    asked_askCatalog _ _ (Catalog.records_hasTags _ id included excluded)
  findTemplate _ _ := asked_askCatalog _ _ rfl
  record event users world := asked_record event users world
  storeContact _ _ _ _ := asked_storeContact_refused
  removeContact _ _ _ _ refused :=
    asked_askCatalog_refused (fun _ _ => Catalog.removeContact_refused) refused
  setTags _ _ _ _ _ refused :=
    asked_askCatalog_refused (fun _ _ => Catalog.setTags_refused) refused
  send _ _ _ _ _ refused := asked_send_refused refused

/-- A continuation is handed over past the catalog. -/
theorem records_schedule (runAt : Instant) (continuation : Continuation) (world : Rehearsal) :
    (schedule runAt continuation world).2.catalog.records = world.catalog.records := by
  rw [jobs_schedule]

/-- A continuation is handed over past the mails. -/
theorem mails_schedule (runAt : Instant) (continuation : Continuation) (world : Rehearsal) :
    (schedule runAt continuation world).2.mails = world.mails := by
  rw [jobs_schedule]

/-- A continuation that is refused leaves the jobs alone. -/
theorem content_schedule_refused {runAt : Instant} {continuation : Continuation}
    {world : Rehearsal} {cause : ServiceError}
    (refused : (schedule runAt continuation world).1 = .error cause) :
    (schedule runAt continuation world).2.jobs.content = world.jobs.content := by
  unfold schedule Faults.answer at refused ⊢
  cases failing : world.faults.lookup .schedule with
  | some cause => rfl
  | none =>
    rw [failing] at refused
    cases desk : world.jobs with
    | queue queue maxAttempts => simp [desk] at refused
    | notes jobs refuseNext =>
      cases refuseNext with
      | true => rfl
      | false => simp [desk] at refused

end Rehearsal

namespace Steps

section Endings

variable {σ : Type} {services : Services σ} {Related : σ -> σ -> Prop} {kind : ActionKind}
  {context : Context} {world : σ} {result : StepResult σ}

/-- A step that does not succeed leaves its context alone, and it has only asked, or it was about to
hand over what is below it. -/
theorem Ending.unsuccessful (ending : Ending services Related kind context world result)
    (unsuccessful : Unsuccessful result.outcome) :
    result.context = context ∧
      (Related world result.world ∨ ∃ runAt,
        result.world = (services.schedule runAt (continuationOf context) world).2 ∧
          (result.outcome = .ok .suspended ∨
            ∃ cause, (services.schedule runAt (continuationOf context) world).1 = .error cause)) := by
  cases ending with
  | fruitless answer after nothing asked ends =>
    subst ends
    exact ⟨rfl, .inl asked⟩
  | passed outcome after isKind status flow asked ends =>
    subst ends
    exact absurd status unsuccessful
  | mailed _ _ _ _ _ _ _ _ ends => exact absurd (ends ▸ unsuccessful) (fun failed => failed rfl)
  | authenticated _ _ _ _ _ _ _ ends =>
    exact absurd (ends ▸ unsuccessful) (fun failed => failed rfl)
  | overflowed _ _ _ _ _ _ ends => exact absurd (ends ▸ unsuccessful) (fun failed => failed rfl)
  | registered _ _ _ _ _ _ ends => exact absurd (ends ▸ unsuccessful) (fun failed => failed rfl)
  | exhausted _ _ ends => exact absurd (ends ▸ unsuccessful) (fun failed => failed rfl)
  | unregistered _ _ _ _ _ ends => exact absurd (ends ▸ unsuccessful) (fun failed => failed rfl)
  | tagged _ _ _ _ _ _ _ _ ends => exact absurd (ends ▸ unsuccessful) (fun failed => failed rfl)
  | handedOver runAt after isKind accepted ends =>
    subst ends
    exact ⟨rfl, .inr ⟨runAt, (congrArg Prod.snd accepted).symm, .inl rfl⟩⟩
  | turnedDown runAt cause after isKind refused ends =>
    subst ends
    exact ⟨rfl, .inr ⟨runAt, (congrArg Prod.snd refused).symm,
      .inr ⟨cause, congrArg Prod.fst refused⟩⟩⟩

/-- A step changes no more of its context than its kind allows. -/
theorem Ending.changes (ending : Ending services Related kind context world result) :
    context.ChangedBy kind result.context := by
  have same : context.ChangedBy kind context := .refl kind context
  -- Only an authentication, and the three steps on the contact, have a new context.
  cases ending with
  | authenticated _ _ _ _ isKind _ _ ends =>
    subst ends
    exact ⟨rfl, rfl, rfl, rfl, rfl, fun _ => rfl, fun _ => rfl, fun other => absurd isKind other,
      fun other => absurd isKind other⟩
  | overflowed _ _ _ isKind _ _ ends =>
    subst ends
    exact ⟨rfl, rfl, rfl, rfl, rfl, fun _ => rfl, fun _ => rfl, fun _ => rfl,
      fun other => absurd isKind other⟩
  | registered _ _ _ isKind _ _ ends =>
    subst ends
    refine ⟨rfl, rfl, rfl, rfl, rfl, fun other => ?_, fun other => ?_, fun _ => rfl, fun _ => rfl⟩
    all_goals exact absurd isKind (fun isKind => other (by simp [isKind]))
  | unregistered _ _ isKind _ _ ends =>
    subst ends
    refine ⟨rfl, rfl, rfl, rfl, rfl, fun _ => rfl, fun other => ?_, fun _ => rfl, fun _ => rfl⟩
    exact absurd isKind (fun isKind => other (by simp [isKind]))
  | tagged _ _ _ _ _ isKind _ _ ends =>
    subst ends
    refine ⟨rfl, rfl, rfl, rfl, rfl, fun other => ?_, fun other => ?_, fun _ => rfl, fun _ => rfl⟩
    all_goals exact absurd isKind (fun isKind => other (by simp [isKind]))
  | fruitless _ _ _ _ ends => exact ends ▸ same
  | passed _ _ _ _ _ _ ends => exact ends ▸ same
  | mailed _ _ _ _ _ _ _ _ ends => exact ends ▸ same
  | exhausted _ _ ends => exact ends ▸ same
  | handedOver _ _ _ _ ends => exact ends ▸ same
  | turnedDown _ _ _ _ _ ends => exact ends ▸ same

end Endings

/-- Whatever its services answer, a step changes no more of the context of its run than its kind
allows, and nothing if it does not succeed. -/
theorem changes_guarded {σ : Type} (services : Services σ) (kind : ActionKind) (run : Run σ) :
    let ended := (forKind services kind).guarded run
    run.context.ChangedBy kind ended.2.context ∧
      (Unsuccessful ended.1 -> ended.2.context = run.context) := by
  cases cancelled : run.cancelled with
  | true =>
    rw [Step.guarded_of_cancelled _ cancelled]
    exact ⟨.refl kind run.context, fun _ => rfl⟩
  | false =>
    rw [Step.guarded_of_working _ cancelled]
    have ending := ending_forKind services.keeps_any.spares run.context run.world kind
    exact ⟨ending.changes, fun unsuccessful => (ending.unsuccessful unsuccessful).1⟩

section Rehearsals

variable (lifetime : Span) (kind : ActionKind)

/-- A step that does not succeed leaves no trace in a rehearsal. -/
theorem traceless_forKind {context : Context} {world : Rehearsal}
    (unsuccessful :
      Unsuccessful (forKind (Rehearsal.services lifetime) kind context world).outcome) :
    let result := forKind (Rehearsal.services lifetime) kind context world
    Traceless ⟨context, world, false⟩ ⟨result.context, result.world, false⟩ result.outcome := by
  intro result
  have ending := ending_forKind (Rehearsal.services_spares lifetime) context world kind
  obtain ⟨same, asked | ⟨runAt, requested, jobs⟩⟩ := ending.unsuccessful unsuccessful
  · exact ⟨same, asked.records, asked.mails, fun _ => congrArg JobDesk.content asked.jobs⟩
  · have records := Rehearsal.records_schedule runAt (continuationOf context) world
    have mails := Rehearsal.mails_schedule runAt (continuationOf context) world
    refine ⟨same, requested ▸ records, requested ▸ mails, fun stays => ?_⟩
    rcases jobs with accepted | ⟨cause, refused⟩
    · exact absurd rfl (stays _ accepted)
    · have content := Rehearsal.content_schedule_refused refused
      exact requested ▸ content

/-- An activity that does not succeed leaves no trace in a rehearsal. -/
theorem traceless_guarded (run : Run Rehearsal) :
    let ended := (forKind (Rehearsal.services lifetime) kind).guarded run
    Unsuccessful ended.1 -> Traceless run ended.2 ended.1 := by
  intro ended unsuccessful
  cases cancelled : run.cancelled with
  | true =>
    simp only [ended, Step.guarded_of_cancelled _ cancelled]
    exact ⟨rfl, rfl, rfl, fun _ => rfl⟩
  | false =>
    simp only [ended, Step.guarded_of_working _ cancelled] at unsuccessful ⊢
    obtain ⟨context, records, mails, jobs⟩ := traceless_forKind lifetime kind unsuccessful
    exact ⟨context, records, mails, jobs⟩

/-- Whatever becomes of a step, and whatever its services answer, it changes no more of the context of
its run than its kind allows, and nothing if it does not succeed. In a rehearsal it has then changed
nothing in the catalog either, and has neither sent a mail nor handed anything over without saying
so. -/
theorem residue_guarded :
    (forall {σ : Type} (services : Services σ) (run : Run σ),
      let ended := (forKind services kind).guarded run
      run.context.ChangedBy kind ended.2.context ∧
        (Unsuccessful ended.1 -> ended.2.context = run.context)) ∧
    forall run : Run Rehearsal,
      let ended := (forKind (Rehearsal.services lifetime) kind).guarded run
      Unsuccessful ended.1 -> Traceless run ended.2 ended.1 :=
  ⟨fun services => changes_guarded services kind, traceless_guarded lifetime kind⟩

end Rehearsals

end Steps

namespace Outage

/-- A contact is to be stored while the catalog cannot. -/
def start : Run Rehearsal :=
  { context := { Context.start Sample.project 1 with contact := some Sample.contact }
    world := { Rehearsal.start .epoch .empty with
      faults := [(.storeContact, .backend "out of order")] }
    cancelled := false }

/-- The step that should have stored it has left no trace. -/
theorem residue_outage :
    let ended := (Steps.forKind (Rehearsal.services (.ofSeconds32 3600)) .register).guarded start
    Steps.Unsuccessful ended.1 ∧ Steps.Traceless start ended.2 ended.1 ∧
      start.context.ChangedBy .register ended.2.context := by
  intro ended
  obtain ⟨changes, traceless⟩ := Steps.residue_guarded (.ofSeconds32 3600) .register
  have unsuccessful : Steps.Unsuccessful ended.1 := nofun
  exact ⟨unsuccessful, traceless start unsuccessful, (changes _ start).1⟩

end Outage

end Outreach
