import Outreach.Proofs.History.Resumption
import Outreach.Proofs.Tree.Lookup
import Outreach.Proofs.Tree.Walk
import Outreach.Rehearsal.Samples

/-!
# What is deferred is carried out once

An action defers what is below it; the continuation waits in the queue, is claimed by a poll, and is
handled in the surroundings of that time. `carried_out` follows it from end to end: no poll claims it
too early, and the first one that claims it carries out the present children of the action, in the
context in which they were deferred, and never again. This takes a poll with nothing out of range:
`not_carried_out`.
-/

namespace Outreach

/-- An occurrence in which an action defers what is below it. -/
structure Deferral (lifetime : Span) (maxDepth : Nat) (world : Rehearsal) (occurrence : Occurrence)
    where
  first : List Outing
  /-- The outing with the action that defers what is below it. -/
  outing : Outing
  last : List Outing
  outings : occurrence.outings lifetime maxDepth world = first ++ outing :: last
  before : List (Arrival Rehearsal)
  /-- The action that defers what is below it. -/
  arrival : Arrival Rehearsal
  after : List (Arrival Rehearsal)
  arrivals : outing.arrivals (.standard lifetime maxDepth) = before ++ arrival :: after
  kind : arrival.action.kind = .schedule
  parent : arrival.action.children ≠ []
  outcome : Outcome
  answered : (arrival.visit (.standard lifetime maxDepth)).1 = .ok outcome
  suspended : outcome.flow = .suspend
  queue : Queue
  /-- How often a continuation may be delivered. -/
  maxAttempts : UInt32
  desk : arrival.run.world.jobs = .queue queue maxAttempts
  /-- The id that the job of the continuation gets is not in use. -/
  fresh : arrival.run.world.jobIdAt arrival.run.world.jobCount ∉
    outing.presentJobs arrival.run.world

namespace Deferral

section

variable {lifetime : Span} {maxDepth : Nat} {world : Rehearsal} {occurrence : Occurrence}

/-- The action stands in the tree that the outing carries out. -/
theorem reached (deferral : Deferral lifetime maxDepth world occurrence) :
    deferral.arrival.action ∈ deferral.outing.tree.preorder := by
  have member : deferral.arrival ∈ deferral.outing.arrivals (.standard lifetime maxDepth) := by
    rw [deferral.arrivals]
    exact List.mem_append_right _ List.mem_cons_self
  refine Executor.mem_of_arrivals (fun action => action ∈ deferral.outing.tree.preorder)
    (fun action known child below => Action.child_mem_preorder below _ known) (fun pending only => ?_)
    deferral.arrival member
  rw [List.mem_singleton.mp only]
  exact deferral.outing.tree.self_mem_preorder

/-- The number of the job. -/
def number (deferral : Deferral lifetime maxDepth world occurrence) : Nat :=
  deferral.arrival.run.world.jobCount

/-- The ids of jobs. -/
def ids (deferral : Deferral lifetime maxDepth world occurrence) : Nat -> Uuid :=
  deferral.arrival.run.world.jobIdAt

/-- The id of the job. -/
def id (deferral : Deferral lifetime maxDepth world occurrence) : Uuid :=
  deferral.ids deferral.number

/-- The snapshot that the continuation carries. -/
def snapshot (deferral : Deferral lifetime maxDepth world occurrence) : Snapshot :=
  deferral.arrival.run.context.snapshot deferral.arrival.action.id

/-- The job of a continuation that says which actions were below. -/
def job (deferral : Deferral lifetime maxDepth world occurrence) (childIds : List ActionId)
    (runAt : Instant) : Job :=
  .ofContinuation deferral.id ⟨deferral.snapshot, childIds⟩ runAt deferral.maxAttempts

/-- The ids of the actions below. -/
def childIds (deferral : Deferral lifetime maxDepth world occurrence) : List ActionId :=
  deferral.arrival.action.children.map Action.id

/-- The context of the continuation: that of the run, but for the project and the place in the
tree. -/
def context (deferral : Deferral lifetime maxDepth world occurrence) (project : Project) :
    Context :=
  let action := deferral.arrival.action.id
  { deferral.arrival.run.context with
    project, rootAction := action, currentAction := .anchor action }

/-- It has not been delivered. -/
theorem countable (deferral : Deferral lifetime maxDepth world occurrence) (childIds : List ActionId)
    (runAt : Instant) : (deferral.job childIds runAt).full = false := Job.full_new _ _ _ _ _

/-- The action is enabled, its options name an instant, and after the occurrence the job is pending
until then. -/
theorem pending (deferral : Deferral lifetime maxDepth world occurrence) :
    deferral.arrival.action.enabled = true ∧
      ∃ runAt, deferral.arrival.context.DueAt deferral.arrival.run.world.now runAt ∧
        (occurrence.after lifetime maxDepth world).Standing deferral.ids deferral.number
          [(.pending, deferral.job deferral.childIds runAt)] := by
  obtain ⟨enabled, runAt, next, due, handed, visited⟩ :=
    Arrival.suspends deferral.kind deferral.answered deferral.suspended
  refine ⟨enabled, runAt, due, ?_⟩
  have fresh := deferral.fresh
  rw [Outing.presentJobs, List.mem_append, not_or] at fresh
  have unused := Rehearsal.whereabouts_of_notMem_works fresh.1
  have stands : next.Standing deferral.ids deferral.number
      [(.pending, deferral.job deferral.childIds runAt)] :=
    Rehearsal.standing_schedule deferral.desk unused handed
  refine (lasting_standing deferral.ids deferral.number _).rest (Rehearsal.Standing _ _ _)
    deferral.outings deferral.arrivals
    (fun job present same => fresh.2 (List.mem_map.mpr ⟨job, present, same⟩)) ?_
  rw [visited]
  exact stands

/-- What follows a deferral: a history in which no poll claims the job, one more poll, and a
history after that. None of the jobs that come after it gets its id. -/
structure Sequel (deferral : Deferral lifetime maxDepth world occurrence) where
  between : List Occurrence
  unclaimed : ∀ job ∈ Occurrence.batches lifetime maxDepth
    (occurrence.after lifetime maxDepth world) between, job.id ≠ deferral.id
  batchSize : Nat
  retryBase : Nat
  afterwards : List Occurrence
  once : Rehearsal.Unrepeated deferral.ids deferral.number
    (Occurrence.afterAll lifetime maxDepth (occurrence.after lifetime maxDepth world)
      (between ++ .poll batchSize retryBase false :: afterwards)).jobCount

namespace Sequel

variable {deferral : Deferral lifetime maxDepth world occurrence}

/-- The poll. -/
def poll (sequel : deferral.Sequel) : Occurrence := .poll sequel.batchSize sequel.retryBase false

/-- The surroundings that the poll finds. -/
def found (sequel : deferral.Sequel) : Rehearsal :=
  Occurrence.afterAll lifetime maxDepth (occurrence.after lifetime maxDepth world) sequel.between

/-- The surroundings after the poll. -/
def done (sequel : deferral.Sequel) : Rehearsal := sequel.poll.after lifetime maxDepth sequel.found

/-- The worker that polls. -/
def worker (sequel : deferral.Sequel) : Worker Rehearsal :=
  continuationWorker lifetime maxDepth sequel.batchSize sequel.retryBase

/-- Whether the poll claims the job. -/
def Claims (sequel : deferral.Sequel) : Prop :=
  ∃ job ∈ sequel.poll.batch sequel.found, job.id = deferral.id

/-- Nothing is out of range in the poll. -/
def InRange (sequel : deferral.Sequel) : Prop :=
  (sequel.worker.runOnce ⟨sequel.found, false⟩).1 ≠ .error .overflow

/-- The poll finds a project by the id of the one for which the run was made, and the action as a
catalog has it. -/
structure Unchanged (sequel : deferral.Sequel) (catalog : Catalog) (project : Project) : Prop where
  projects : sequel.found.faults.lookup .findProject = none
  actions : sequel.found.faults.lookup .findAction = none
  project : sequel.found.catalog.project? deferral.arrival.run.context.project.id = some project
  action : sequel.found.catalog.action? deferral.arrival.action.id =
    catalog.action? deferral.arrival.action.id

/-- What the action, as a sequence, comes to when it is carried out in surroundings. -/
def resumed (_ : deferral.Sequel) (project : Project) (start : Shift Rehearsal) :
    Except RunFault Outcome × Run Rehearsal :=
  (Executor.standard lifetime maxDepth).execute { deferral.arrival.action with kind := .sequence }
    ⟨deferral.context project, start.world, false⟩

/-- The poll carries out the present children of the action, once, and with that the job is done. -/
structure Delivery (sequel : deferral.Sequel) (runAt : Instant) (project : Project)
    (start : Shift Rehearsal) (outcome : Outcome) : Prop where
  /-- The job has one turn. -/
  turn : (Occurrence.turns lifetime maxDepth sequel.batchSize sequel.retryBase false
      sequel.found).filter (fun turn => turn.1.id = deferral.id) =
    [((deferral.job deferral.childIds runAt).attempted, start)]
  outcome : (sequel.resumed project start).1 = .ok outcome
  /-- What the handler does is to carry out the action, whichever actions the job says were
  below. -/
  handled : forall childIds, sequel.worker.handlers.dispatch (deferral.job childIds runAt).attempted
    start = (.ok (), (sequel.resumed project start).2.shift)
  /-- The queue takes the job as done. -/
  completed : (sequel.worker.process (deferral.job deferral.childIds runAt).attempted start).1 =
    .ok none
  gone : sequel.done.whereabouts deferral.id = []
  /-- No later poll claims the job. -/
  last : ∀ job ∈ Occurrence.batches lifetime maxDepth sequel.done sequel.afterwards,
    job.id ≠ deferral.id

/-- At no time has another job got the id of the job. -/
theorem once_later (sequel : deferral.Sequel) :
    Rehearsal.Unrepeated deferral.ids deferral.number
      (Occurrence.afterAll lifetime maxDepth sequel.done sequel.afterwards).jobCount := by
  have once := sequel.once
  rw [Occurrence.afterAll_append] at once
  exact once

/-- At no time before the poll has another job got the id of the job. -/
theorem once_found (sequel : deferral.Sequel) :
    Rehearsal.Unrepeated deferral.ids deferral.number sequel.found.jobCount :=
  sequel.once_later.mono
    (Rehearsal.Standing.jobCount_afterAll (sequel.poll :: sequel.afterwards) sequel.found)

/-- The job that is pending after the deferral is pending when the poll begins. -/
theorem standing_found (sequel : deferral.Sequel) {runAt : Instant}
    (pending : (occurrence.after lifetime maxDepth world).Standing deferral.ids deferral.number
      [(.pending, deferral.job deferral.childIds runAt)]) :
    sequel.found.Standing deferral.ids deferral.number
      [(.pending, deferral.job deferral.childIds runAt)] :=
  pending.afterAll_pending (deferral.countable _ _) sequel.unclaimed

/-- The handler of the job carries out the action in the surroundings of its turn. -/
theorem dispatch_eq (sequel : deferral.Sequel) {project : Project} {start : Shift Rehearsal}
    (working : start.cancelled = false)
    (finds : start.world.Finds deferral.snapshot project deferral.arrival.action)
    (childIds : List ActionId) (runAt : Instant) :
    sequel.worker.handlers.dispatch (deferral.job childIds runAt).attempted start =
      (((sequel.resumed project start).1.map (fun _ => ())).mapError
          (Executor.handlingFault Continuation.jobKind),
        (sequel.resumed project start).2.shift) := by
  have handled := continuationHandler_eq lifetime (.standard lifetime maxDepth)
    (deferral.job childIds runAt).attempted start
    (Continuation.reads_decode ⟨deferral.snapshot, childIds⟩) finds deferral.pending.1
    deferral.parent
  rw [worker, dispatch_continuation lifetime maxDepth _ _ rfl, handled, working]
  rfl

/-- A poll that claims the job, with nothing out of range, delivers it. -/
theorem delivered (sequel : deferral.Sequel) {project : Project} {runAt : Instant}
    (pending : (occurrence.after lifetime maxDepth world).Standing deferral.ids deferral.number
      [(.pending, deferral.job deferral.childIds runAt)])
    (finds : sequel.found.Finds deferral.snapshot project deferral.arrival.action)
    (claims : sequel.Claims) (inRange : sequel.InRange) :
    ∃ start outcome, sequel.Delivery runAt project start outcome := by
  obtain ⟨turn⟩ := (sequel.standing_found pending).delivered (deferral.countable _ _)
    sequel.once_found claims inRange
  have dispatched := sequel.dispatch_eq turn.working (finds.of_frame turn.frame)
  -- Had the run no outcome, the poll would have ended with it.
  obtain ⟨outcome, answered⟩ : ∃ outcome, (sequel.resumed project turn.start).1 = .ok outcome := by
    have either : (∃ outcome, (sequel.resumed project turn.start).1 = .ok outcome) ∨
        (sequel.resumed project turn.start).1 = .error .overflow :=
      Executor.loop_answers lifetime maxDepth rfl
    rcases either with answered | overflow
    · exact answered
    · have ends : sequel.worker.handlers.dispatch
          (deferral.job deferral.childIds runAt).attempted turn.start =
            (.error .overflow, (sequel.resumed project turn.start).2.shift) := by
        rw [dispatched, overflow]
        rfl
      exact absurd (congrArg Prod.fst (Worker.process_overflow ends)) turn.inRange
  have handled : forall childIds, sequel.worker.handlers.dispatch
      (deferral.job childIds runAt).attempted turn.start =
        (.ok (), (sequel.resumed project turn.start).2.shift) := by
    intro childIds
    rw [dispatched childIds runAt, answered]
    rfl
  have underWay : (sequel.resumed project turn.start).2.world.Standing deferral.ids deferral.number
      [(.inFlight, (deferral.job deferral.childIds runAt).attempted)] :=
    ((lasting_standing deferral.ids deferral.number _).loop turn.underWay [_] none).2
  have onceDone := sequel.once_later.mono
    (Rehearsal.Standing.jobCount_afterAll sequel.afterwards sequel.done)
  obtain ⟨completed, stands⟩ := turn.completed (handled deferral.childIds) underWay onceDone
  exact ⟨turn.start, outcome, turn.only, answered, handled, completed, stands.places onceDone,
    stands.batches_gone sequel.once_later⟩

end Sequel

/-- What an action of a stored tree defers is to run at some instant, and no poll claims it before
that. The first poll that claims it, and in which nothing is out of range, carries out the present
children of the action as a sequence, in the context of the deferral but for the project, which is the
present one, and the place in the tree. With that it is done, and no later poll claims it. -/
theorem carried_out (deferral : Deferral lifetime maxDepth world occurrence)
    (sequel : deferral.Sequel) {catalog : Catalog} {tree : Action} {depth count : Nat}
    (valid : tree.validate depth = .ok count)
    (unknown : ∀ id ∈ tree.ids, catalog.action? id = none)
    (node : deferral.arrival.action ∈ tree.preorder) :
    ∃ runAt, deferral.arrival.context.DueAt deferral.arrival.run.world.now runAt ∧
      (sequel.found.now < runAt -> ¬ sequel.Claims) ∧
      forall project, sequel.Unchanged (catalog.putAction tree) project -> sequel.Claims ->
        sequel.InRange -> ∃ start outcome, sequel.Delivery runAt project start outcome := by
  obtain ⟨-, runAt, due, pending⟩ := deferral.pending
  refine ⟨runAt, due, fun early claims => ?_, ?_⟩
  · obtain ⟨-, reached, -⟩ := (sequel.standing_found pending).claimed (deferral.countable _ _)
      sequel.once_found claims
    exact absurd early (Int.not_lt.mpr reached)
  · intro project unchanged claims inRange
    have stored := Catalog.action?_putAction valid unknown node
    exact sequel.delivered pending ⟨unchanged.projects, unchanged.actions, unchanged.project,
      unchanged.action.trans stored⟩ claims inRange

end

namespace TwoHours

/-- The day of the deferral: the first one that is counted, or the last one that has a date. -/
def day (final : Bool) : Int := if final then Instant.lastDay else 0

/-- A second of that day. -/
def time (final : Bool) (second : Nat) (short : second < 86400) : Instant :=
  ⟨day final, second, 0, by cases final <;> decide, short, .inl (by decide)⟩

/-- A second before ten in the evening. -/
def evening (final : Bool) : Instant := time final 79199 (by decide)

/-- The last second of the day. -/
def night (final : Bool) : Instant := time final 86399 (by decide)

/-- Two hours later the visitor gets a ticket. -/
def tree : Action :=
  ((Action.new 1 1 .schedule "" .epoch).withOptions
    (.object [("offsetTime", .string "02:00")])).withChildren
      [Action.new 2 1 .authenticate "" .epoch]

/-- A catalog with a project and nothing else. -/
def catalog : Catalog := { Catalog.empty with projects := Keyed.empty.insert 1 Sample.project }

/-- The context of a run for a contact. -/
def visitor : Context :=
  { Context.start Sample.project 1 with contact := some { Sample.contact with id := some 1 } }

/-- The surroundings in the evening. -/
def world (final : Bool) : Rehearsal :=
  { Rehearsal.start (evening final) (catalog.putAction tree) with
    jobs := .queue (Queue.empty Queue.usualLease) 3 }

/-- The action is reached first. -/
def first (final : Bool) : Arrival Rehearsal := ⟨tree, 0, ⟨visitor, world final, false⟩⟩

/-- The lifetime of tickets. -/
def lifetime : Span := .ofDays 30

/-- In the evening the ticket is deferred. -/
def deferral (final : Bool) : Deferral lifetime 5 (world final) (.run tree visitor false) where
  first := []
  outing := ⟨tree, (first final).run, none, []⟩
  last := []
  outings := rfl
  before := []
  arrival := first final
  after := []
  arrivals := by
    have suspended : (Executor.standard lifetime 5).visit tree 0 (first final).run =
        (.ok .suspended, ((first final).visit (.standard lifetime 5)).2) := by
      cases final <;> rfl
    rw [Outing.arrivals, Executor.arrivals_cons rfl suspended]
    change _ :: Executor.arrivals _ [] _ = _
    rw [Executor.arrivals]
    rfl
  kind := rfl
  parent := List.cons_ne_nil _ _
  outcome := .suspended
  answered := by cases final <;> rfl
  suspended := rfl
  queue := Queue.empty Queue.usualLease
  maxAttempts := 3
  desk := rfl
  fresh := List.not_mem_nil

/-- The job of the ticket. -/
def ticket (final : Bool) : Job := (deferral final).job [2] (night final)

/-- The surroundings when the poll begins. -/
def found (final : Bool) : Rehearsal :=
  { world final with
    now := night final, jobCount := 1, jobs := .queue ⟨[ticket final], [], Queue.usualLease⟩ 3 }

/-- Two hours after the deferral these are the surroundings. -/
theorem found_eq (final : Bool) :
    Occurrence.afterAll lifetime 5
      (Occurrence.after lifetime 5 (world final) (.run tree visitor false))
      [.change (night final) (catalog.putAction tree) []] = found final := by
  have deferred : Occurrence.after lifetime 5 (world final) (.run tree visitor false) =
      { found final with now := evening final } := by
    rw [Occurrence.after, Executor.execute_eq_walk]
    cases final <;> rfl
  rw [deferred]
  rfl

/-- The surroundings at the turn of the job. -/
def begun (final : Bool) : Shift Rehearsal :=
  let claims := [⟨(ticket final).attempted, night final⟩]
  ⟨{ found final with jobs := .queue ⟨[], claims, Queue.usualLease⟩ 3 }, false⟩

/-- The project and the tree are found as they were. -/
theorem finds (final : Bool) :
    (found final).Finds (deferral final).snapshot Sample.project tree := ⟨rfl, rfl, rfl, rfl⟩

/-- The surroundings after the poll. -/
def left (final : Bool) : Shift Rehearsal :=
  let jobs := if final then (begun final).world.jobs else .queue (Queue.empty Queue.usualLease) 3
  ⟨{ found final with idCount := 1, jobs }, false⟩

/-- A ticket that would expire after the last day is out of range, and its job stays under way. -/
theorem processed (final : Bool) :
    (continuationWorker lifetime 5 1 0).process (ticket final).attempted (begun final) =
      (if final then .error .overflow else .ok none, left final) := by
  have handled := continuationHandler_eq lifetime (.standard lifetime 5) (ticket final).attempted
    (begun final) (Continuation.reads_decode ⟨(deferral final).snapshot, [2]⟩)
    ((finds final).of_frame ⟨rfl, rfl, rfl, rfl, rfl⟩) rfl (List.cons_ne_nil _ _)
  rw [Executor.execute_eq_walk] at handled
  rw [Worker.process, dispatch_continuation lifetime 5 1 0 rfl, handled]
  cases final <;> rfl

/-- The poll takes the job up, and a ticket out of range breaks it off. -/
theorem polled (final : Bool) :
    (continuationWorker lifetime 5 1 0).runOnce ⟨found final, false⟩ =
      (if final then .error .overflow else .ok ⟨1, 0, 0, 0⟩, left final) := by
  have batch : (continuationWorker lifetime 5 1 0).runOnce ⟨found final, false⟩ =
      (continuationWorker lifetime 5 1 0).processAll .none (begun final)
        [(ticket final).attempted] := by
    cases final <;> rfl
  have working : ¬ (begun final).cancelled = true := Bool.false_ne_true
  rw [batch, Worker.processAll, if_neg working, processed]
  cases final <;> rfl

/-- Two hours pass, and a worker polls. -/
def sequel (final : Bool) : (deferral final).Sequel where
  between := [.change (night final) (catalog.putAction tree) []]
  unclaimed := fun job none => absurd none List.not_mem_nil
  batchSize := 1
  retryBase := 0
  afterwards := [.poll 1 0 false]
  once := by
    rw [Occurrence.afterAll_append, found_eq, Occurrence.afterAll, Occurrence.after, polled]
    exact Rehearsal.unrepeated_countedIds (by cases final <;> decide)

theorem claims (final : Bool) : (sequel final).Claims := by
  refine ⟨(ticket final).attempted, ?_, rfl⟩
  rw [Sequel.found, sequel, found_eq]
  cases final <;> exact List.mem_singleton_self _

theorem unchanged (final : Bool) :
    (sequel final).Unchanged (catalog.putAction tree) Sample.project := by
  have same : (sequel final).found = found final := found_eq final
  constructor <;> rw [same] <;> rfl

/-- What the poll leaves is what its worker leaves. -/
theorem done_eq (final : Bool) : (sequel final).done = (left final).world := by
  have same : (sequel final).found = found final := found_eq final
  rw [Sequel.done, same, Sequel.poll, Occurrence.after]
  exact congrArg (fun polled => polled.2.world) (polled final)

theorem inRange : (sequel false).InRange := by
  have same : (sequel false).found = found false := found_eq false
  have answered : ((sequel false).worker.runOnce ⟨found false, false⟩).1 = .ok ⟨1, 0, 0, 0⟩ :=
    congrArg Prod.fst (polled false)
  rw [Sequel.InRange, same, answered]
  nofun

theorem valid : tree.validate 5 = .ok 2 := by rfl

theorem unknown : ∀ id ∈ tree.ids, catalog.action? id = none := fun _ _ => rfl

theorem due (final : Bool) :
    (deferral final).arrival.context.DueAt (evening final) (night final) :=
  ⟨rfl, ⟨none, Span.ofSeconds32 7200⟩, night final, by rfl, by cases final <;> rfl,
    by cases final <;> rfl⟩

end TwoHours

open TwoHours in
/-- The ticket is given out two hours later, once. -/
theorem carried_out_ticket :
    ∃ start outcome, (sequel false).Delivery (night false) Sample.project start outcome := by
  obtain ⟨runAt, due, -, delivered⟩ :=
    carried_out (deferral false) (sequel false) valid unknown (deferral false).reached
  rw [← due.unique (TwoHours.due false)] at delivered
  exact delivered Sample.project (unchanged false) (claims false) inRange

open TwoHours in
/-- Not every poll that claims the job carries it out: a ticket that would expire when there are no
dates any more ends the poll, and the job stays under way. -/
theorem not_carried_out :
    ¬ forall (lifetime : Span) (maxDepth : Nat) (world : Rehearsal) (occurrence : Occurrence)
        (deferral : Deferral lifetime maxDepth world occurrence) (sequel : deferral.Sequel)
        (catalog : Catalog) (tree : Action) (depth count : Nat),
      tree.validate depth = .ok count -> (∀ id ∈ tree.ids, catalog.action? id = none) ->
      deferral.arrival.action ∈ tree.preorder ->
      ∃ runAt, deferral.arrival.context.DueAt deferral.arrival.run.world.now runAt ∧
        forall project, sequel.Unchanged (catalog.putAction tree) project -> sequel.Claims ->
          ∃ start outcome, sequel.Delivery runAt project start outcome := by
  intro law
  obtain ⟨runAt, -, delivered⟩ :=
    law _ _ _ _ (deferral true) (sequel true) catalog tree 5 2 valid unknown (deferral true).reached
  obtain ⟨start, outcome, delivery⟩ := delivered Sample.project (unchanged true) (claims true)
  have underWay : (left true).world.whereabouts (deferral true).id =
      [(.inFlight, (ticket true).attempted)] := by rfl
  have gone := delivery.gone
  rw [done_eq, underWay] at gone
  cases gone

end Deferral

end Outreach
