import Outreach.Proofs.Document.Continuation
import Outreach.Proofs.Queue.Delivery
import Outreach.Proofs.Run.Conduct
import Outreach.Proofs.Run.Requests
import Outreach.Proofs.Tree.Exposure
import Outreach.Proofs.Tree.Pruning

/-!
# Handing over what is below

A deferral counts as failed whatever becomes of it. It suspends the run at its action if one job was
added for what is below, and stops it there otherwise (`scheduled`). Nothing else adds jobs, so a run
adds as many as it has deferrals that suspend, and what is below a deferral it does not reach
(`Executor.defers_exposed`).
-/

namespace Outreach

variable {σ : Type}

/-- Jobs are kept in the surroundings. A continuation that is taken adds one, and there is nothing
else that adds or removes any. -/
structure Services.KeepJobs (services : Services σ)
    (jobsOf : σ -> List (Instant × Continuation)) : Prop where
  taken : forall runAt continuation world,
    (services.schedule runAt continuation world).1 = .ok () ->
      (jobsOf (services.schedule runAt continuation world).2).Perm
        ((runAt, continuation) :: jobsOf world)
  refused : forall runAt continuation world cause,
    (services.schedule runAt continuation world).1 = .error cause ->
      jobsOf (services.schedule runAt continuation world).2 = jobsOf world
  others : services.Carries (fun before after => jobsOf after = jobsOf before)

section Rehearsals

/-- The jobs of a desk, with the continuations that the documents of the queued ones say. -/
def JobDesk.kept : JobDesk -> List (Instant × Continuation)
  | .notes jobs _ => jobs
  | .queue waiting _ => waiting.pending.filterMap (fun job =>
      (Continuation.decode job.payload).toOption.map (fun continuation => (job.runAt, continuation)))

/-- The jobs that a rehearsal keeps. -/
def Rehearsal.kept (world : Rehearsal) : List (Instant × Continuation) := world.jobs.kept

namespace Rehearsal

/-- A continuation that is taken is kept with its instant, and one that is refused is not. -/
theorem kept_schedule (runAt : Instant) (continuation : Continuation) (world : Rehearsal) :
    match (schedule runAt continuation world).1 with
    | .ok () => (schedule runAt continuation world).2.kept.Perm ((runAt, continuation) :: world.kept)
    | .error _ => (schedule runAt continuation world).2.kept = world.kept := by
  unfold schedule Faults.answer
  cases world.faults.lookup .schedule with
  | some cause => rfl
  | none =>
    unfold kept
    cases world.jobs with
    | notes jobs refuseNext =>
      cases refuseNext with
      | true => rfl
      | false => exact List.perm_append_singleton (runAt, continuation) jobs
    | queue waiting maxAttempts =>
      have placed := (Queue.place_perm
        (.ofContinuation (world.jobIdAt world.jobCount) continuation runAt maxAttempts)
        waiting.pending).filterMap (fun job => (Continuation.decode job.payload).toOption.map
          (fun continuation => (job.runAt, continuation)))
      have read : Continuation.decode continuation.toJson = .ok continuation :=
        Continuation.reads_decode continuation
      simpa [JobDesk.kept, Queue.push, Job.ofContinuation, Job.new, read, Except.toOption] using placed

/-- The services of a rehearsal keep jobs. -/
theorem services_keepJobs (lifetime : Span) : (services lifetime).KeepJobs kept where
  taken runAt continuation world taken := by
    have kept := kept_schedule runAt continuation world
    rw [show (schedule runAt continuation world).1 = .ok () from taken] at kept
    exact kept
  refused runAt continuation world cause refused := by
    have kept := kept_schedule runAt continuation world
    rw [show (schedule runAt continuation world).1 = .error cause from refused] at kept
    exact kept
  others := services_carries lifetime (fun left right => right.trans left) (fun _ _ _ _ => rfl)
    (fun _ => rfl)

end Rehearsal

end Rehearsals

/-- The second of two instants is not after the later one. -/
theorem Instant.le_later (left right : Instant) : right <= left.later right := by
  unfold later
  split
  · exact Int.le_refl right.rank
  · rename_i after
    exact Int.le_of_lt (Int.not_le.mp after)

/-- When what is below the current action is to run: the contact of the run is stored and not
deleted, and from the start that the options of the action say, or else from now, their offset leads
to an instant that has a date. It is to run then, or now if that is later. -/
def Context.DueAt (context : Context) (now runAt : Instant) : Prop :=
  context.hasLiveContact = true ∧ ∃ timing reached,
    context.currentAction.configuration = .ok (.schedule timing) ∧
      (timing.startDate.getD now).add? timing.offset = some reached ∧ runAt = reached.later now

/-- Whether an answer says that the actions below were handed over. -/
def suspends {ε : Type} : Except ε Outcome -> Bool
  | .ok outcome => outcome.flow = .suspend
  | .error _ => false

namespace Steps

/-- What becomes of a deferral. -/
structure Scheduled (services : Services σ) (jobsOf : σ -> List (Instant × Continuation))
    (before : Run σ) (answer : Except StepFault Outcome) (after : Run σ) : Prop where
  /-- It counts as failed. -/
  failed : ∃ outcome, answer = .ok outcome ∧ outcome.status = .failed ∧
    (outcome.flow = .suspend ∨ outcome.flow = .stop)
  context : after.context = before.context
  /-- It suspends exactly if one job was added. -/
  counted : suspends answer = true ↔ (jobsOf after.world).length = (jobsOf before.world).length + 1
  /-- The job is for the instant at which what is below is to run, which is not before now. It says
  what the context is at the action and what the children of the action are. -/
  handed : suspends answer = true -> ∃ runAt,
    before.context.DueAt (services.now before.world) runAt ∧ services.now before.world <= runAt ∧
      (jobsOf after.world).Perm
        ((runAt, { snapshot := before.context.snapshot before.context.currentAction.id
                   childIds := before.context.currentAction.childIds }) :: jobsOf before.world)
  /-- Otherwise nothing was added: what is below is not to run at any instant, or it was to be handed
  over for then, which was refused. -/
  kept : suspends answer = false -> jobsOf after.world = jobsOf before.world ∧
    forall runAt, before.context.DueAt (services.now before.world) runAt ->
      ∃ cause, (services.schedule runAt (continuationOf before.context) before.world).1 =
        .error cause

end Steps

/-- What an action is found to have come to when it is reached. -/
def Arrival.handsOver (executor : Executor σ) (arrival : Arrival σ) : Bool :=
  arrival.action.kind = .schedule && Outreach.suspends (arrival.visit executor).1

/-- What becomes of the deferrals of a run. -/
structure Executor.Defers (executor : Executor σ) (jobsOf : σ -> List (Instant × Continuation))
    (root : Action) (start : Run σ) : Prop where
  /-- As many jobs are added as there are deferrals that suspend, ... -/
  counted : (jobsOf (executor.execute root start).2.world).length =
    (jobsOf start.world).length +
      (executor.arrivals [(root, 0)] start).countP (fun arrival => arrival.handsOver executor)
  /-- ... each by one of them, for the children of its action. -/
  handed : ∀ arrival ∈ executor.arrivals [(root, 0)] start, arrival.handsOver executor = true ->
    ∃ runAt, (jobsOf (arrival.visit executor).2.world).Perm
      ((runAt, { snapshot := arrival.run.context.snapshot arrival.action.id
                 childIds := arrival.action.children.map Action.id }) :: jobsOf arrival.run.world)
  /-- The actions that are reached are some of those that the tree lists, in their order, if what is
  below deferrals is left out. -/
  pruned : ((executor.arrivals [(root, 0)] start).map Arrival.action).Sublist
    (root.upTo (fun action => action.kind = .schedule))
  /-- None of them is below a deferral. -/
  above : ∀ arrival ∈ executor.arrivals [(root, 0)] start, ∃ above,
    root.Under above arrival.action ∧ ∀ ancestor ∈ above, ancestor.kind ≠ .schedule

namespace Context

variable {context : Context} {now runAt : Instant}

/-- What is below is to run at one instant at most. -/
theorem DueAt.unique {other : Instant} (due : context.DueAt now runAt)
    (otherwise : context.DueAt now other) : other = runAt := by
  obtain ⟨-, timing, reached, said, isReached, rfl⟩ := due
  obtain ⟨-, timing', reached', said', isReached', rfl⟩ := otherwise
  rw [said] at said'
  cases said'
  rw [isReached] at isReached'
  cases isReached'
  rfl

theorem DueAt.now_le (due : context.DueAt now runAt) : now <= runAt := by
  obtain ⟨-, timing, reached, -, -, rfl⟩ := due
  exact Instant.le_later reached now

end Context

namespace Steps

section Step

variable (services : Services σ) (context : Context) (world : σ)

/-- A deferral hands over what is below if that is to run at some instant, and fails otherwise. -/
theorem schedule_cases :
    (∃ runAt, context.DueAt (services.now world) runAt ∧
      schedule services context world =
        match services.schedule runAt (continuationOf context) world with
        | (.ok (), world) => .finish .suspended context world
        | (.error cause, world) => .finish (.failedWith cause.message) context world) ∨
    (forall runAt, ¬ context.DueAt (services.now world) runAt) ∧
      ∃ outcome, outcome.status = .failed ∧ outcome.flow = .stop ∧
        schedule services context world = .finish outcome context world := by
  unfold schedule
  cases live : context.hasLiveContact with
  | false =>
    refine .inr ⟨fun runAt due => ?_, .failed, rfl, rfl, rfl⟩
    exact Bool.false_ne_true (live.symm.trans due.1)
  | true =>
    simp only [Context.configured, Bool.not_true, Bool.false_eq_true, if_false]
    cases said : context.currentAction.configuration with
    | error cause =>
      refine .inr ⟨?_, _, rfl, rfl, rfl⟩
      rintro runAt ⟨-, timing, reached, said', -⟩
      cases said.symm.trans said'
    | ok configuration =>
      cases configuration with
      | schedule timing =>
        cases reached : (timing.startDate.getD (services.now world)).add? timing.offset with
        | none =>
          simp only [Timing.target?, reached, Option.map_none]
          refine .inr ⟨?_, _, rfl, rfl, rfl⟩
          rintro runAt ⟨-, timing', reached', said', isReached, -⟩
          cases said.symm.trans said'
          cases reached.symm.trans isReached
        | some instant =>
          simp only [Timing.target?, reached, Option.map_some]
          exact .inl ⟨_, ⟨live, timing, instant, said, reached, rfl⟩, rfl⟩
      | _ =>
        refine .inr ⟨?_, _, rfl, rfl, rfl⟩
        rintro runAt ⟨-, timing, reached, said', -⟩
        cases said.symm.trans said'

/-- A deferral counts as failed and never lets the run go on to what is below. -/
theorem schedule_failed :
    ∃ outcome, (schedule services context world).outcome = .ok outcome ∧
      outcome.status = .failed ∧ outcome.descends = false := by
  rcases schedule_cases services context world with
    ⟨runAt, -, step⟩ | ⟨-, outcome, status, flow, step⟩
  · rw [step]
    cases services.schedule runAt (continuationOf context) world with
    | mk answer after => cases answer <;> exact ⟨_, rfl, rfl, rfl⟩
  · rw [step]
    exact ⟨outcome, rfl, status, by simp [Outcome.descends, flow]⟩

end Step

variable {services : Services σ} {jobsOf : σ -> List (Instant × Continuation)}

section Scheduled

variable {before after : Run σ} (context : after.context = before.context)

include context

theorem Scheduled.suspended {runAt : Instant}
    (due : before.context.DueAt (services.now before.world) runAt)
    (added : (jobsOf after.world).Perm
      ((runAt, continuationOf before.context) :: jobsOf before.world)) :
    Scheduled services jobsOf before (.ok .suspended) after where
  failed := ⟨.suspended, rfl, rfl, .inl rfl⟩
  context := context
  counted := ⟨fun _ => added.length_eq, fun _ => rfl⟩
  handed := fun _ => ⟨runAt, due, due.now_le, added⟩
  kept := nofun

theorem Scheduled.stopped {outcome : Outcome} (status : outcome.status = .failed)
    (flow : outcome.flow = .stop) (same : jobsOf after.world = jobsOf before.world)
    (refused : forall runAt, before.context.DueAt (services.now before.world) runAt ->
      ∃ cause, (services.schedule runAt (continuationOf before.context) before.world).1 =
        .error cause) :
    Scheduled services jobsOf before (.ok outcome) after := by
  have stays : suspends (.ok outcome : Except StepFault Outcome) = false := by
    simp [suspends, flow]
  refine ⟨⟨outcome, rfl, status, .inr flow⟩, context, ⟨fun suspended => ?_, fun longer => ?_⟩,
    fun suspended => ?_, fun _ => ⟨same, refused⟩⟩
  · exact absurd (stays.symm.trans suspended) Bool.false_ne_true
  · rw [same] at longer
    exact absurd longer (Nat.ne_of_lt (Nat.lt_succ_self _))
  · exact absurd (stays.symm.trans suspended) Bool.false_ne_true

end Scheduled

/-- What becomes of a deferral in a run that has not been cancelled. -/
theorem scheduled (keep : services.KeepJobs jobsOf) {run : Run σ}
    (working : run.cancelled = false) :
    Scheduled services jobsOf run ((forKind services .schedule).guarded run).1
      ((forKind services .schedule).guarded run).2 := by
  rw [Step.guarded_of_working _ working, show forKind services .schedule = schedule services from rfl]
  rcases schedule_cases services run.context run.world with
    ⟨runAt, due, step⟩ | ⟨undue, outcome, status, flow, step⟩
  · have taken := keep.taken runAt (continuationOf run.context) run.world
    have refused := keep.refused runAt (continuationOf run.context) run.world
    rw [step]
    cases reply : services.schedule runAt (continuationOf run.context) run.world with
    | mk answer after =>
      rw [reply] at taken refused
      cases answer with
      | ok done => exact .suspended rfl due (taken rfl)
      | error cause =>
        refine .stopped ?_ ?_ ?_ ?_ (fun other otherwise => ⟨cause, ?_⟩)
        · rfl
        · rfl
        · rfl
        · exact refused cause rfl
        · rw [due.unique otherwise, reply]
  · rw [step]
    refine .stopped ?_ status flow ?_ (fun other otherwise => absurd otherwise (undue other))
    · rfl
    · rfl

/-- What a step does to the jobs can be told from how it ends: it adds one if it suspends, which only
a deferral does, and leaves them alone otherwise. -/
theorem Ending.hands (keep : services.KeepJobs jobsOf) {context : Context} {world : σ}
    {kind : ActionKind} {result : StepResult σ}
    (ending : Ending services (fun before after => jobsOf after = jobsOf before) kind context world
      result) :
    suspends result.outcome = false ∧ jobsOf result.world = jobsOf world ∨
      kind = .schedule ∧ suspends result.outcome = true ∧ ∃ runAt,
        (jobsOf result.world).Perm ((runAt, continuationOf context) :: jobsOf world) := by
  have identifying (id : ContactId) :
      jobsOf (visitorId services context id world).2 = jobsOf world :=
    related_visitorId keep.others.keeps id
  cases ending with
  | fruitless answer after nothing asked ends =>
    subst ends
    refine .inl ⟨?_, asked⟩
    cases nothing <;> rfl
  | passed outcome after isKind status flow asked ends =>
    subst ends
    exact .inl ⟨by simp [StepResult.finish, suspends, flow], asked⟩
  | mailed between after project header template isKind asked accepted ends =>
    subst ends
    have same := keep.others.send project header template between
    rw [accepted] at same
    exact .inl ⟨rfl, same.trans asked⟩
  | authenticated id visitor expiresAt after isKind isId identified ends =>
    subst ends
    have same := identifying id
    rw [identified] at same
    exact .inl ⟨rfl, same⟩
  | overflowed id visitor after isKind isId identified ends =>
    subst ends
    have same := identifying id
    rw [identified] at same
    exact .inl ⟨rfl, same⟩
  | registered contact stored after isKind given accepted ends =>
    subst ends
    exact .inl ⟨rfl, keep.others.storeContact _ world _ accepted⟩
  | exhausted isKind exhausted ends =>
    subst ends
    exact .inl ⟨rfl, rfl⟩
  | unregistered id after isKind live accepted ends =>
    subst ends
    have same := keep.others.removeContact context.project.id id world
    rw [accepted] at same
    exact .inl ⟨rfl, same⟩
  | tagged id included excluded updated after isKind live accepted ends =>
    subst ends
    have same := keep.others.setTags id included excluded world
    rw [accepted] at same
    exact .inl ⟨rfl, same⟩
  | handedOver runAt after isKind accepted ends =>
    subst ends
    have taken := keep.taken runAt (continuationOf context) world
    rw [accepted] at taken
    exact .inr ⟨isKind, rfl, runAt, taken rfl⟩
  | turnedDown runAt cause after isKind refused ends =>
    subst ends
    have same := keep.refused runAt (continuationOf context) world cause
    rw [refused] at same
    exact .inl ⟨rfl, same rfl⟩

/-- What the step of a kind does to the jobs. -/
theorem hands_forKind (keep : services.KeepJobs jobsOf) (context : Context) (world : σ)
    (kind : ActionKind) :
    let result := forKind services kind context world
    suspends result.outcome = false ∧ jobsOf result.world = jobsOf world ∨
      kind = .schedule ∧ suspends result.outcome = true ∧ ∃ runAt,
        (jobsOf result.world).Perm ((runAt, continuationOf context) :: jobsOf world) :=
  (ending_forKind keep.others.keeps.spares context world kind).hands keep

end Steps

theorem suspends_absorb (answer : Except StepFault Outcome) :
    suspends (Executor.absorb answer) = suspends answer := by
  cases answer with
  | ok outcome => rfl
  | error fault => cases fault <;> rfl

namespace Executor

section Visits

variable {services : Services σ} {jobsOf : σ -> List (Instant × Continuation)}
  (keep : services.KeepJobs jobsOf) (early late : Run σ -> Bool) (maxDepth : Nat)
  (arrival : Arrival σ)

include keep in
/-- A visit adds the job for what is below a deferral that suspends, and leaves the jobs alone
otherwise. -/
theorem hands_visit :
    let visited := arrival.visit (exposed services early late maxDepth)
    arrival.handsOver (exposed services early late maxDepth) = false ∧
        jobsOf visited.2.world = jobsOf arrival.run.world ∨
      arrival.handsOver (exposed services early late maxDepth) = true ∧ ∃ runAt,
        (jobsOf visited.2.world).Perm
          ((runAt, { snapshot := arrival.run.context.snapshot arrival.action.id
                     childIds := arrival.action.children.map Action.id }) ::
            jobsOf arrival.run.world) := by
  intro visited
  obtain ⟨action, depth, run⟩ := arrival
  simp only [Arrival.handsOver, visited, Arrival.visit]
  rcases visit_exposed action depth run with
    ⟨outcome, came, -, stops⟩ | ⟨-, came⟩ | ⟨-, came⟩
  · rw [came]
    exact .inl ⟨by simp [suspends, stops], rfl⟩
  · rw [came]
    exact .inl ⟨Bool.and_false _, rfl⟩
  · rw [came, suspends_absorb]
    rcases Steps.hands_forKind keep (entering run action).context run.world action.kind with
      ⟨goesOn, same⟩ | ⟨isKind, suspended, runAt, added⟩
    · refine .inl ⟨?_, same⟩
      rw [show suspends (stepAt services action run).outcome = false from goesOn]
      exact Bool.and_false _
    · refine .inr ⟨?_, runAt, added⟩
      rw [show suspends (stepAt services action run).outcome = true from suspended]
      simp [isKind]

/-- No run goes on to what is below a deferral. -/
theorem stops_visit (isKind : arrival.action.kind = .schedule) {outcome : Outcome}
    (came : (arrival.visit (exposed services early late maxDepth)).1 = .ok outcome) :
    outcome.descends = false := by
  obtain ⟨action, depth, run⟩ := arrival
  simp only [Arrival.visit] at came
  rcases visit_exposed action depth run with
    ⟨failure, visited, -, stops⟩ | ⟨-, visited⟩ | ⟨-, visited⟩
  · rw [visited] at came
    cases came
    simp [Outcome.descends, stops]
  · rw [visited] at came
    cases came
  · rw [visited] at came
    obtain ⟨deferred, answered, -, stays⟩ :=
      Steps.schedule_failed services (entering run action).context run.world
    have isStep : stepAt services action run =
        Steps.schedule services (entering run action).context run.world :=
      congrArg (fun kind => Steps.forKind services kind _ _) isKind
    rw [isStep, answered] at came
    cases came
    exact stays

end Visits

/-- A run adds as many jobs as it has deferrals that suspend, whenever it may be cancelled, and it
reaches nothing that is below a deferral. -/
theorem defers_exposed {services : Services σ} {jobsOf : σ -> List (Instant × Continuation)}
    (keep : services.KeepJobs jobsOf) (early late : Run σ -> Bool) (maxDepth : Nat) (root : Action)
    (start : Run σ) : (exposed services early late maxDepth).Defers jobsOf root start := by
  have visits := hands_visit keep early late maxDepth
  have pruned : (((exposed services early late maxDepth).arrivals [(root, 0)] start).map
      Arrival.action).Sublist (root.upTo (fun action => action.kind = .schedule)) := by
    have listed := arrivals_sublist_upTo (fun action => action.kind = .schedule)
      (fun arrival (_ : arrival ∈ (exposed services early late maxDepth).arrivals [(root, 0)] start)
        isKind _ => stops_visit early late maxDepth arrival (of_decide_eq_true isKind))
    rwa [List.map_singleton, Action.upTo.upTos, Action.upTo.upTos, List.append_nil] at listed
  refine ⟨?_, ?_, pruned, ?_⟩
  · refine loop_counts (fun run => (jobsOf run.world).length) _ none (fun arrival _ => ?_)
    rcases visits arrival with ⟨goesOn, same⟩ | ⟨suspended, runAt, added⟩
    · simp only [goesOn, same]
      rfl
    · simp only [suspended, added.length_eq]
      rfl
  · intro arrival _ suspended
    rcases visits arrival with ⟨goesOn, -⟩ | ⟨-, added⟩
    · exact absurd (goesOn.symm.trans suspended) Bool.false_ne_true
    · exact added
  · intro arrival member
    obtain ⟨above, under, clear⟩ := Action.under_of_mem_upTo root .root
      (List.forall_mem_nil _) _ (pruned.subset (List.mem_map_of_mem member))
    exact ⟨above, under, fun ancestor isAbove => of_decide_eq_false (clear ancestor isAbove)⟩

end Executor

/-- A deferral that is not cancelled before counts as failed, and it suspends exactly if one job was
added, for what is below it and for the instant at which that is to run. A run adds as many jobs as it
has deferrals that suspend, whenever it may be cancelled, and reaches nothing that is below one. -/
theorem Services.KeepJobs.suspends_iff_added {services : Services σ}
    {jobsOf : σ -> List (Instant × Continuation)} (keep : services.KeepJobs jobsOf) :
    (forall run : Run σ, run.cancelled = false ->
      Steps.Scheduled services jobsOf run ((Steps.forKind services .schedule).guarded run).1
        ((Steps.forKind services .schedule).guarded run).2) ∧
    forall (early late : Run σ -> Bool) (maxDepth : Nat) (root : Action) (start : Run σ),
      (Executor.exposed services early late maxDepth).Defers jobsOf root start :=
  ⟨fun _ => Steps.scheduled keep, Executor.defers_exposed keep⟩

namespace Reminder

/-- Two hours later something is to be logged. -/
def root : Action :=
  ((Action.new 1 1 .schedule "" .epoch).withOptions
    (.object [("offsetTime", .string "02:00")])).withChildren [Action.new 2 1 .log "" .epoch]

/-- A run for a stored contact, with a queue that is empty. -/
def start : Run Rehearsal :=
  { context := { Context.start Sample.project 1 with
      contact := some { Sample.contact with id := some 1 } }
    world := { Rehearsal.start .epoch .empty with
      jobs := .queue (Queue.empty Queue.usualLease) 3 }
    cancelled := false }

def lifetime : Span := .ofSeconds32 3600

def executor : Executor Rehearsal :=
  .exposed (Rehearsal.services lifetime) (fun _ => false) (fun _ => false) 5

def after : Run Rehearsal := (executor.visit root 0 start).2

theorem arrivals_start : executor.arrivals [(root, 0)] start = [⟨root, 0, start⟩] := by
  have suspended : executor.visit root 0 start = (.ok .suspended, after) := rfl
  rw [Executor.arrivals_cons rfl suspended]
  change _ :: Executor.arrivals _ [] _ = _
  rw [Executor.arrivals]

/-- The deferral suspends, and that is the one job in the queue. -/
theorem added_once :
    let ended := (Steps.forKind (Rehearsal.services lifetime) .schedule).guarded
      (Executor.entering start root)
    Steps.Scheduled (Rehearsal.services lifetime) Rehearsal.kept (Executor.entering start root)
        ended.1 ended.2 ∧
      suspends ended.1 = true ∧ executor.Defers Rehearsal.kept root start ∧
      (Rehearsal.kept (executor.execute root start).2.world).length = 1 := by
  intro ended
  obtain ⟨step, run⟩ := (Rehearsal.services_keepJobs lifetime).suspends_iff_added
  have defers : executor.Defers Rehearsal.kept root start := run _ _ 5 root start
  refine ⟨step (Executor.entering start root) rfl, rfl, defers, ?_⟩
  rw [defers.counted, arrivals_start]
  rfl

end Reminder

end Outreach
