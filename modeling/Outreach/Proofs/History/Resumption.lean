import Outreach.Proofs.Document.Continuation
import Outreach.Proofs.History.Standing
import Outreach.Proofs.Run.Suspension

/-!
# From a suspended action to its continuation

The step that defers suspends its run only when its continuation has been handed over, and in a
queue the continuation is a pending job. A poll that claims this job gives it one turn, and the run
that the handler of the job resumes answers with an outcome, unless a date is out of range.
-/

namespace Outreach

section Suspending

variable {lifetime : Span} {maxDepth : Nat} {outcome : Outcome}

/-- The step that defers suspends the run only when the continuation has been taken, for the instant
at which it is to run. -/
theorem Steps.schedule_suspends {context : Context} {world : Rehearsal}
    (answered : (schedule (Rehearsal.services lifetime) context world).outcome = .ok outcome)
    (suspended : outcome.flow = .suspend) :
    ∃ runAt after, context.DueAt world.now runAt ∧
      Rehearsal.schedule runAt (continuationOf context) world = (.ok (), after) ∧
      schedule (Rehearsal.services lifetime) context world = .finish .suspended context after := by
  rcases schedule_cases (Rehearsal.services lifetime) context world with
    ⟨runAt, due, step⟩ | ⟨-, failure, -, stops, step⟩
  · rw [step] at answered ⊢
    cases handed : Rehearsal.schedule runAt (continuationOf context) world with
    | mk answer after =>
      cases answer with
      | error cause =>
        simp only [Rehearsal.services, handed] at answered
        cases answered
        cases suspended
      | ok _ =>
        simp only [Rehearsal.services, handed]
        exact ⟨runAt, after, due, handed, rfl⟩
  · rw [step] at answered
    cases answered
    cases stops.symm.trans suspended

/-- The context in which an action is carried out. -/
def Arrival.context (arrival : Arrival Rehearsal) : Context :=
  { arrival.run.context with currentAction := .of arrival.action }

/-- A deferring action that suspends its run is enabled, and has handed its continuation over for
the instant at which it is to run. -/
theorem Arrival.suspends {arrival : Arrival Rehearsal} (kind : arrival.action.kind = .schedule)
    (answered : (arrival.visit (.standard lifetime maxDepth)).1 = .ok outcome)
    (suspended : outcome.flow = .suspend) :
    arrival.action.enabled = true ∧
      ∃ runAt after, arrival.context.DueAt arrival.run.world.now runAt ∧
        Rehearsal.schedule runAt (Steps.continuationOf arrival.context) arrival.run.world =
          (.ok (), after) ∧
        (arrival.visit (.standard lifetime maxDepth)).2 = ⟨arrival.context, after, false⟩ := by
  unfold visit at answered ⊢
  rcases Executor.visit_cases lifetime maxDepth arrival.action arrival.depth arrival.run with
    ⟨other, kept, -, stops⟩ | ⟨-, cancelled⟩ | ⟨enabled, taken⟩
  · rw [kept] at answered
    cases answered
    exact nomatch stops.symm.trans suspended
  · rw [cancelled] at answered
    cases answered
  · have step : Executor.stepOf lifetime arrival.action arrival.run =
        Steps.schedule (Rehearsal.services lifetime) arrival.context arrival.run.world := by
      rw [Executor.stepOf, kind]
      rfl
    rw [taken] at answered ⊢
    rw [step] at answered ⊢
    have absorbed : (Steps.schedule (Rehearsal.services lifetime) arrival.context
        arrival.run.world).outcome = .ok outcome := by
      cases result : (Steps.schedule (Rehearsal.services lifetime) arrival.context
          arrival.run.world).outcome with
      | ok other =>
        rw [result] at answered
        exact congrArg Except.ok (Except.ok.inj answered)
      | error fault =>
        rw [result] at answered
        cases fault with
        | service cause =>
          cases answered
          cases suspended
        | cancelled => cases answered
        | overflow => cases answered
    obtain ⟨runAt, after, due, handed, result⟩ := Steps.schedule_suspends absorbed suspended
    rw [result]
    exact ⟨enabled, runAt, after, due, handed, rfl⟩

end Suspending

namespace Rehearsal

variable {world after : Rehearsal} {id : Uuid}

theorem whereabouts_of_notMem_works (unknown : id ∉ world.works.map Prod.fst) :
    world.whereabouts id = [] := by
  unfold works at unknown
  unfold whereabouts
  cases desk : world.jobs with
  | notes jobs refuseNext => rfl
  | queue queue maxAttempts =>
    rw [desk] at unknown
    refine List.filter_eq_nil_iff.mpr (fun entry member same => unknown ?_)
    exact List.mem_map.mpr
      ⟨entry.2.work, List.mem_map_of_mem member, of_decide_eq_true same⟩

/-- A continuation that a queue takes is a pending job there. -/
theorem standing_schedule {runAt : Instant} {continuation : Continuation} {queue : Queue}
    {maxAttempts : UInt32} (desk : world.jobs = .queue queue maxAttempts)
    (fresh : world.whereabouts (world.jobIdAt world.jobCount) = [])
    (handed : schedule runAt continuation world = (.ok (), after)) :
    after.Standing world.jobIdAt world.jobCount
      [(.pending,
        .ofContinuation (world.jobIdAt world.jobCount) continuation runAt maxAttempts)] := by
  simp only [schedule, Faults.answer, desk] at handed
  cases fault : world.faults.lookup .schedule with
  | some cause =>
    rw [fault] at handed
    cases handed
  | none =>
    rw [fault] at handed
    cases handed
    have unknown : queue.whereabouts (world.jobIdAt world.jobCount) = [] := by
      rwa [whereabouts, desk] at fresh
    let job :=
      Job.ofContinuation (world.jobIdAt world.jobCount) continuation runAt maxAttempts
    have pushed : (queue.push job).whereabouts job.id = [(.pending, job)] :=
      Queue.whereabouts_push unknown
    exact ⟨rfl, Nat.lt_succ_self _, fun _ => pushed⟩

end Rehearsal

namespace Executor

variable (lifetime : Span) (maxDepth : Nat)

/-- A visit in a run that has not been cancelled has an outcome, unless a date is out of range, and
does not cancel the run. -/
theorem visit_answers (action : Action) (depth : Nat) {run : Run Rehearsal}
    (working : run.cancelled = false) :
    ((∃ outcome, ((standard lifetime maxDepth).visit action depth run).1 = .ok outcome) ∨
        ((standard lifetime maxDepth).visit action depth run).1 = .error .overflow) ∧
      ((standard lifetime maxDepth).visit action depth run).2.cancelled = false := by
  rcases visit_cases lifetime maxDepth action depth run with
    ⟨outcome, kept, -⟩ | ⟨cancelled, -⟩ | ⟨-, taken⟩
  · rw [kept]
    exact ⟨.inl ⟨outcome, rfl⟩, working⟩
  · exact nomatch working.symm.trans cancelled
  · have sound := sound_stepOf lifetime action run
    rw [taken]
    refine ⟨?_, sound.goesOn⟩
    cases answered : (stepOf lifetime action run).outcome with
    | ok outcome => exact .inl ⟨outcome, rfl⟩
    | error fault =>
      cases fault with
      | cancelled => exact absurd answered sound.uncancelled
      | service cause => exact .inl ⟨_, rfl⟩
      | overflow => exact .inr rfl

/-- A run that has not been cancelled has an outcome, unless a date is out of range. -/
theorem loop_answers {stack : List Pending} {first : Option Outcome} {run : Run Rehearsal}
    (working : run.cancelled = false) :
    (∃ outcome, ((standard lifetime maxDepth).loop stack first run).1 = .ok outcome) ∨
      ((standard lifetime maxDepth).loop stack first run).1 = .error .overflow := by
  have goesOn : ∀ arrival ∈ (standard lifetime maxDepth).arrivals stack run,
      (arrival.visit (standard lifetime maxDepth)).2.cancelled = false := fun arrival member =>
    (visit_answers lifetime maxDepth arrival.action arrival.depth
      (working_of_mem_arrivals member)).2
  rcases loop_ends first working goesOn with
    fine | ⟨before, last, fault, split, faulty, ended⟩
  · exact .inl fine
  · have member := split ▸ List.mem_append_right before (List.mem_singleton_self last)
    rcases (visit_answers lifetime maxDepth last.action last.depth
      (working_of_mem_arrivals member)).1 with ⟨outcome, answered⟩ | overflow
    · cases faulty.symm.trans answered
    · exact .inr (ended.trans (faulty.symm.trans overflow))

end Executor

section Resuming

/-- The project and the action of a snapshot are found. -/
structure Rehearsal.Finds (world : Rehearsal) (snapshot : Snapshot) (project : Project)
    (action : Action) : Prop where
  projects : world.faults.lookup .findProject = none
  actions : world.faults.lookup .findAction = none
  project : world.catalog.project? snapshot.projectId = some project
  action : world.catalog.action? snapshot.actionId = some action

/-- What runs leave as it is suffices to find them. -/
theorem Rehearsal.Finds.of_frame {world next : Rehearsal} {snapshot : Snapshot} {project : Project}
    {action : Action} (finds : world.Finds snapshot project action) (frame : world.Frame next) :
    next.Finds snapshot project action where
  projects := frame.faults ▸ finds.projects
  actions := frame.faults ▸ finds.actions
  project := by
    rw [Catalog.project?, frame.projects]
    exact finds.project
  action := by
    rw [Catalog.action?, frame.actions]
    exact finds.action

/-- If they are found and there is something below the action, the handler carries the action out as
a sequence, in the context of the snapshot. It does not matter which actions the continuation says
were below. -/
theorem continuationHandler_eq (lifetime : Span) (executor : Executor Rehearsal) (job : Job)
    (shift : Shift Rehearsal) {continuation : Continuation} {project : Project} {action : Action}
    (decoded : Continuation.decode job.payload = .ok continuation)
    (finds : shift.world.Finds continuation.snapshot project action)
    (enabled : action.enabled = true) (parent : action.children ≠ []) :
    let ended := executor.execute (Executor.resumed action)
      ⟨.ofSnapshot continuation.snapshot project, shift.world, shift.cancelled⟩
    executor.continuationHandler (Rehearsal.services lifetime) job shift =
      ((ended.1.map (fun _ => ())).mapError (Executor.handlingFault job.kind), ended.2.shift) := by
  intro ended
  obtain ⟨answer, lookedUp, project⟩ :=
    Rehearsal.findProject_cases lifetime continuation.snapshot.projectId shift.world
  rw [project finds.projects, finds.project] at lookedUp
  obtain ⟨answer, found, action⟩ :=
    Rehearsal.findAction_cases lifetime continuation.snapshot.actionId shift.world
  rw [action finds.actions, finds.action] at found
  simp only [Executor.continuationHandler, decoded, Executor.resume, lookedUp, found, enabled,
    List.isEmpty_eq_false_iff.mpr parent, Bool.not_true, Bool.or_self, Bool.false_eq_true, if_false]
  rfl

end Resuming

section Delivering

variable {lifetime : Span} {maxDepth batchSize retryBase : Nat} {ids : Nat -> Uuid} {number : Nat}
  {job : Job} {found : Rehearsal}

/-- A poll claims a pending job only when it is due, and only once, and then it is under way. -/
theorem Rehearsal.Standing.claimed (standing : found.Standing ids number [(.pending, job)])
    (countable : job.full = false) (unrepeated : Rehearsal.Unrepeated ids number found.jobCount)
    (claims : ∃ other ∈ (Occurrence.poll batchSize retryBase false).batch found,
      other.id = ids number) :
    job.id = ids number ∧ job.runAt <= found.now ∧
      (found.claimed found.now batchSize).filter (fun other => other.id = ids number) =
        [job.attempted] ∧
      (jobSource.fetchDue found.now batchSize ⟨found, false⟩).2.world.whereabouts (ids number) =
        [(.inFlight, job.attempted)] := by
  obtain ⟨other, listed, same⟩ := claims
  rcases claimed_pending ⟨found, false⟩ found.now batchSize countable
    (standing.places unrepeated) with ⟨none, -⟩ | ⟨due, handed, underWay⟩
  · exact absurd (decide_eq_true same) (List.filter_eq_nil_iff.mp none other listed)
  · have member : job.attempted ∈ (found.claimed found.now batchSize).filter
        (fun other => other.id = ids number) := handed ▸ List.mem_singleton_self _
    exact ⟨of_decide_eq_true (List.mem_filter.mp member).2, due, handed, underWay⟩

/-- The only turn of a job in a poll. It finds the job under way and everything in place that runs
leave alone, and no date is out of range in it. -/
structure OneTurn (lifetime : Span) (maxDepth batchSize retryBase : Nat) (ids : Nat -> Uuid)
    (number : Nat) (found : Rehearsal) (job : Job) where
  before : List (Job × Shift Rehearsal)
  /-- What the turn finds. -/
  start : Shift Rehearsal
  after : List (Job × Shift Rehearsal)
  split : Occurrence.turns lifetime maxDepth batchSize retryBase false found =
    before ++ (job, start) :: after
  id : job.id = ids number
  others : ∀ turn ∈ before ++ after, turn.1.id ≠ ids number
  underWay : start.world.Standing ids number [(.inFlight, job)]
  frame : found.Frame start.world
  working : start.cancelled = false
  inRange : ((continuationWorker lifetime maxDepth batchSize retryBase).process job start).1 ≠
    .error .overflow

/-- A poll with nothing out of range that claims a pending job gives it one turn. -/
theorem Rehearsal.Standing.delivered (standing : found.Standing ids number [(.pending, job)])
    (countable : job.full = false) (unrepeated : Rehearsal.Unrepeated ids number found.jobCount)
    (claims : ∃ other ∈ (Occurrence.poll batchSize retryBase false).batch found,
      other.id = ids number)
    (inRange : ((continuationWorker lifetime maxDepth batchSize retryBase).runOnce
      ⟨found, false⟩).1 ≠ .error .overflow) :
    Nonempty (OneTurn lifetime maxDepth batchSize retryBase ids number found job.attempted) := by
  obtain ⟨id, -, handed, underWay⟩ := standing.claimed countable unrepeated claims
  obtain ⟨turns, polled⟩ :=
    (Occurrence.poll_cases lifetime maxDepth batchSize retryBase false found).resolve_right
      (fun broken => inRange (congrArg Prod.fst broken.2))
  rw [polled] at inRange
  obtain ⟨jobs, answers⟩ := Worker.turns_jobs inRange
  rw [← turns] at jobs answers
  -- The job is claimed once, and every job of the batch has a turn.
  rw [← jobs, List.filter_map] at handed
  obtain ⟨⟨first, start⟩, only, isJob⟩ := List.map_eq_singleton_iff.mp handed
  obtain rfl : first = job.attempted := isJob
  obtain ⟨before, after, split, noneBefore, -, noneAfter⟩ := List.filter_eq_cons_iff.mp only
  have others : ∀ turn ∈ before ++ after, turn.1.id ≠ ids number := by
    intro turn member isNumber
    rcases List.mem_append.mp member with earlier | later
    · exact noneBefore turn earlier (decide_eq_true isNumber)
    · exact List.filter_eq_nil_iff.mp noneAfter turn later (decide_eq_true isNumber)
  obtain ⟨begunJobs, begun⟩ : ∃ begunJobs,
      (jobSource.fetchDue found.now batchSize ⟨found, false⟩).2 =
        ⟨{ found with jobs := begunJobs }, false⟩ := askQueue_shift _ _ _
  rw [begun] at turns underWay
  have under : start.world.Standing ids number [(.inFlight, job.attempted)] :=
    Worker.holds_at_turn (fun shift => shift.world.Standing ids number [(.inFlight, job.attempted)])
      (turns ▸ split) ⟨standing.source, standing.given, fun _ => underWay⟩ (fun turn earlier =>
        (lasting_standing ids number _).afterTurn (others turn (List.mem_append_left _ earlier)))
  have framed : found.Frame start.world ∧ start.cancelled = false :=
    Worker.holds_at_turn (fun shift => found.Frame shift.world ∧ shift.cancelled = false)
      (turns ▸ split) ⟨⟨rfl, rfl, rfl, rfl, rfl⟩, rfl⟩ (fun turn _ =>
        (lasting_frame found).afterTurn trivial)
  have turn : (job.attempted, start) ∈
      Occurrence.turns lifetime maxDepth batchSize retryBase false found :=
    split ▸ List.mem_append_right _ List.mem_cons_self
  exact ⟨⟨before, start, after, split, id, others, under, framed.1, framed.2,
    answers _ turn framed.2⟩⟩

namespace OneTurn

variable {ended : Shift Rehearsal}

/-- The turn is the only one with the id. -/
theorem only (turn : OneTurn lifetime maxDepth batchSize retryBase ids number found job) :
    (Occurrence.turns lifetime maxDepth batchSize retryBase false found).filter
      (fun turn => turn.1.id = ids number) = [(job, turn.start)] := by
  have none : forall turns : List (Job × Shift Rehearsal),
      (∀ turn ∈ turns, turn.1.id ≠ ids number) ->
        turns.filter (fun turn => turn.1.id = ids number) = [] := fun turns apart =>
    List.filter_eq_nil_iff.mpr (fun turn member => by simpa using apart turn member)
  obtain ⟨noneBefore, noneAfter⟩ := List.forall_mem_append.mp turn.others
  rw [turn.split, List.filter_append, none _ noneBefore, List.filter_cons,
    if_pos (decide_eq_true turn.id), none _ noneAfter, List.nil_append]

/-- A job whose handler succeeds in its turn is done after the poll. -/
theorem completed (turn : OneTurn lifetime maxDepth batchSize retryBase ids number found job)
    (handled : (continuationWorker lifetime maxDepth batchSize retryBase).handlers.dispatch job
      turn.start = (.ok (), ended))
    (underWay : ended.world.Standing ids number [(.inFlight, job)])
    (unrepeated : Rehearsal.Unrepeated ids number
      ((Occurrence.poll batchSize retryBase false).after lifetime maxDepth found).jobCount) :
    ((continuationWorker lifetime maxDepth batchSize retryBase).process job turn.start).1 =
        .ok none ∧
      ((Occurrence.poll batchSize retryBase false).after lifetime maxDepth found).Standing ids
        number [] := by
  let told := Rehearsal.jobSource.complete job.id ended
  have processed : (continuationWorker lifetime maxDepth batchSize retryBase).process job
      turn.start = (told.1.map (fun _ => none), told.2) := by
    rw [Worker.process, handled]
    rfl
  have turned : (continuationWorker lifetime maxDepth batchSize retryBase).afterTurn
      (job, turn.start) = told.2 := by
    rw [Worker.afterTurn, turn.working, processed]
    rfl
  obtain ⟨source, same⟩ : told.2.world.jobIdAt = ended.world.jobIdAt ∧
      told.2.world.jobCount = ended.world.jobCount := by
    obtain ⟨jobs, only⟩ : ∃ jobs, told.2 = { ended with world := { ended.world with jobs } } :=
      Rehearsal.askQueue_shift _ _ _
    rw [only]
    exact ⟨rfl, rfl⟩
  have sofar : Rehearsal.Unrepeated ids number ended.world.jobCount := by
    refine unrepeated.mono ?_
    refine (lasting_count ended.world.jobCount).afterPoll
      (fun next => ended.world.jobCount <= next.jobCount) turn.split (fun _ _ => trivial) ?_
    rw [turned, same]
  have here : ended.world.whereabouts job.id = [(.inFlight, job)] := by
    rw [turn.id]
    exact underWay.places sofar
  obtain ⟨taken, gone⟩ : told.1 = .ok () ∧ told.2.world.whereabouts job.id = [] :=
    Rehearsal.whereabouts_complete here
  rw [turn.id] at gone
  have stands : told.2.world.Standing ids number [] :=
    ⟨source.trans underWay.source, same ▸ underWay.given, fun _ => gone⟩
  refine ⟨by rw [processed, taken]; rfl, ?_⟩
  refine (lasting_standing ids number []).afterPoll (Rehearsal.Standing ids number []) turn.split
    (fun later member => turn.others later (List.mem_append_right _ member)) ?_
  rw [turned]
  exact stands

end OneTurn

end Delivering

end Outreach
