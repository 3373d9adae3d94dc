import Outreach.Proofs.Queue.Handover
import Outreach.Proofs.Run.Effect
import Outreach.Proofs.Tree.Arrivals
import Outreach.Queue.Resume

/-!
# Histories

Runs are started, a worker polls the queue for continuations, and in between time passes and the
catalog is edited. An *outing* carries out a tree in such a history: a run that somebody starts, or
a continuation that the worker resumes.
-/

namespace Outreach

section Resuming

variable (lifetime : Span)

/-- Looking a project or an action up leaves a rehearsal as it is. -/
theorem Rehearsal.findProject_cases (id : ProjectId) (world : Rehearsal) :
    ∃ answer, (services lifetime).findProject id world = (answer, world) ∧
      (world.faults.lookup .findProject = none -> answer = .ok (world.catalog.project? id)) :=
  ask_cases .findProject (fun catalog => catalog.project? id) world

theorem Rehearsal.findAction_cases (id : ActionId) (world : Rehearsal) :
    ∃ answer, (services lifetime).findAction id world = (answer, world) ∧
      (world.faults.lookup .findAction = none -> answer = .ok (world.catalog.action? id)) :=
  ask_cases .findAction (fun catalog => catalog.action? id) world

/-- The tree that the job of a continuation carries out, and the run that it starts; nothing if the
job is none of a continuation, or what it is to resume is gone. -/
def resumption? (job : Job) (shift : Shift Rehearsal) : Option (Action × Run Rehearsal) :=
  match Continuation.decode job.payload with
  | .error _ => none
  | .ok continuation =>
    let snapshot := continuation.snapshot
    match ((Rehearsal.services lifetime).findProject snapshot.projectId shift.world).1,
      ((Rehearsal.services lifetime).findAction snapshot.actionId shift.world).1 with
    | .ok (some project), .ok (some action) =>
      if !action.enabled || action.children.isEmpty then none
      else
        some (Executor.resumed action, ⟨.ofSnapshot snapshot project, shift.world, shift.cancelled⟩)
    | _, _ => none

/-- What a job resumes it resumes in the surroundings that it finds, in a context that its payload
restores. -/
theorem resumption?_some {job : Job} {shift : Shift Rehearsal} {tree : Action}
    {start : Run Rehearsal} (resumed : resumption? lifetime job shift = some (tree, start)) :
    ∃ continuation project, Continuation.decode job.payload = .ok continuation ∧
      start = ⟨.ofSnapshot continuation.snapshot project, shift.world, shift.cancelled⟩ := by
  unfold resumption? at resumed
  split at resumed
  · cases resumed
  · rename_i continuation decoded
    dsimp only at resumed
    split at resumed
    · rename_i project action _ _
      split at resumed
      · cases resumed
      · cases resumed
        exact ⟨continuation, project, decoded, rfl⟩
    · cases resumed

/-- The handler of continuations carries out the tree of a job, and does nothing without one. -/
theorem continuationHandler_cases (executor : Executor Rehearsal) (job : Job)
    (shift : Shift Rehearsal) :
    let handled := executor.continuationHandler (Rehearsal.services lifetime) job shift
    (resumption? lifetime job shift = none ∧ handled.2 = shift ∧ handled.1 ≠ .error .overflow) ∨
      ∃ tree start, resumption? lifetime job shift = some (tree, start) ∧
        handled.1 = ((executor.execute tree start).1.map (fun _ => ())).mapError
          (Executor.handlingFault job.kind) ∧
        handled.2 =
          ⟨(executor.execute tree start).2.world, (executor.execute tree start).2.cancelled⟩ := by
  intro handled
  cases decoded : Continuation.decode job.payload with
  | error cause =>
    left
    simp [handled, resumption?, Executor.continuationHandler, decoded]
  | ok continuation =>
    obtain ⟨project, foundProject, -⟩ :=
      Rehearsal.findProject_cases lifetime continuation.snapshot.projectId shift.world
    obtain ⟨action, foundAction, -⟩ :=
      Rehearsal.findAction_cases lifetime continuation.snapshot.actionId shift.world
    simp only [handled, resumption?, Executor.continuationHandler, decoded, Executor.resume,
      foundProject, foundAction]
    rcases project with cause | _ | project
    · exact .inl ⟨rfl, rfl, by simp [Except.mapError, Executor.handlingFault]⟩
    · exact .inl ⟨rfl, rfl, by simp [Except.mapError]⟩
    · simp only [foundAction]
      rcases action with cause | _ | action
      · exact .inl ⟨rfl, rfl, by simp [Except.mapError, Executor.handlingFault]⟩
      · exact .inl ⟨rfl, rfl, by simp [Except.mapError]⟩
      · by_cases idle : (!action.enabled || action.children.isEmpty) = true
        · simp only [idle, if_true]
          exact .inl ⟨trivial, trivial, by simp [Except.mapError]⟩
        · simp only [idle, if_false, Bool.false_eq_true]
          exact .inr ⟨_, _, rfl, rfl, rfl⟩

end Resuming

/-- A worker that handles nothing but continuations. -/
def continuationWorker (lifetime : Span) (maxDepth batchSize retryBase : Nat) : Worker Rehearsal :=
  { source := Rehearsal.jobSource
    handlers := Keyed.empty.insert Continuation.jobKind
      ((Executor.standard lifetime maxDepth).continuationHandler (Rehearsal.services lifetime))
    now := Rehearsal.now
    batchSize
    retryBase }

/-- A tree that is carried out in a history. -/
structure Outing where
  tree : Action
  start : Run Rehearsal
  /-- The job of the continuation; `none` for a run that somebody starts. -/
  job : Option Job
  /-- The jobs of the same batch that have their turns afterwards. -/
  waiting : List Job

/-- The actions that an outing reaches. -/
def Outing.arrivals (executor : Executor Rehearsal) (outing : Outing) : List (Arrival Rehearsal) :=
  executor.arrivals [(outing.tree, 0)] outing.start

/-- The jobs that are there when an outing has come to a point: those in the queue, the one that the
outing resumes, and those of the same batch that have their turns afterwards. -/
def Outing.presentJobs (outing : Outing) (world : Rehearsal) : List Uuid :=
  world.works.map Prod.fst ++ (outing.job.toList ++ outing.waiting).map Job.id

/-- What happens around a catalog and a queue. -/
inductive Occurrence where
  /-- A tree is carried out from a context. -/
  | run (tree : Action) (context : Context) (cancelled : Bool)
  /-- A worker polls the queue for continuations. -/
  | poll (batchSize retryBase : Nat) (cancelled : Bool)
  /-- Time passes, the catalog is edited, and services fail or work again. -/
  | change (now : Instant) (catalog : Catalog) (faults : Faults)

section Turns

variable (lifetime : Span) (maxDepth batchSize retryBase : Nat)

/-- The tree that is carried out when a job has its turn, and the run that it starts. -/
def turnOuting? (turn : Job × Shift Rehearsal) : Option (Action × Run Rehearsal) :=
  if turn.2.cancelled || turn.1.kind ≠ Continuation.jobKind then none
  else resumption? lifetime turn.1 turn.2

/-- The outings of a batch, by the turns of its jobs. -/
def turnOutings : List (Job × Shift Rehearsal) -> List Outing
  | [] => []
  | turn :: rest =>
    (turnOuting? lifetime turn).toList.map (fun outing =>
      ⟨outing.1, outing.2, some turn.1, rest.map Prod.fst⟩) ++ turnOutings rest

theorem turnOuting?_some {turn : Job × Shift Rehearsal} {tree : Action} {start : Run Rehearsal}
    (resumed : turnOuting? lifetime turn = some (tree, start)) :
    ∃ continuation project, Continuation.decode turn.1.payload = .ok continuation ∧
      start = ⟨.ofSnapshot continuation.snapshot project, turn.2.world, turn.2.cancelled⟩ := by
  unfold turnOuting? at resumed
  split at resumed
  · cases resumed
  · exact resumption?_some lifetime resumed

/-- The outings of a batch are those of its turns. -/
theorem mem_turnOutings {turns : List (Job × Shift Rehearsal)} {outing : Outing}
    (member : outing ∈ turnOutings lifetime turns) :
    ∃ turn ∈ turns, turnOuting? lifetime turn = some (outing.tree, outing.start) ∧
      outing.job = some turn.1 := by
  induction turns with
  | nil => cases member
  | cons turn rest ih =>
    rcases List.mem_append.mp member with here | later
    · obtain ⟨⟨tree, start⟩, resumed, rfl⟩ := List.mem_map.mp here
      exact ⟨turn, List.mem_cons_self, Option.mem_toList.mp resumed, rfl⟩
    · obtain ⟨other, listed, resumed, job⟩ := ih later
      exact ⟨other, List.mem_cons_of_mem _ listed, resumed, job⟩

/-- The outing of a turn is one of its batch. -/
theorem outing_mem_turnOutings {turns : List (Job × Shift Rehearsal)}
    {turn : Job × Shift Rehearsal} (member : turn ∈ turns) {tree : Action} {start : Run Rehearsal}
    (resumed : turnOuting? lifetime turn = some (tree, start)) :
    ∃ waiting, ⟨tree, start, some turn.1, waiting⟩ ∈ turnOutings lifetime turns := by
  induction turns with
  | nil => cases member
  | cons other rest ih =>
    rcases List.mem_cons.mp member with rfl | later
    · refine ⟨rest.map Prod.fst, List.mem_append_left _ (List.mem_map.mpr ⟨(tree, start), ?_, rfl⟩)⟩
      exact Option.mem_toList.mpr resumed
    · obtain ⟨waiting, listed⟩ := ih later
      exact ⟨waiting, List.mem_append_right _ listed⟩

/-- An outing of a batch is that of one turn, and the outings after it are those of the turns after
that one. -/
theorem turnOutings_split {turns : List (Job × Shift Rehearsal)} {earlier later : List Outing}
    {outing : Outing} (split : turnOutings lifetime turns = earlier ++ outing :: later) :
    ∃ before turn after, turns = before ++ turn :: after ∧
      turnOuting? lifetime turn = some (outing.tree, outing.start) ∧ outing.job = some turn.1 ∧
      outing.waiting = after.map Prod.fst ∧ later = turnOutings lifetime after := by
  induction turns generalizing earlier with
  | nil => exact absurd split.symm (by simp [turnOutings])
  | cons turn rest ih =>
    rw [turnOutings] at split
    cases resumed : turnOuting? lifetime turn with
    | none =>
      rw [resumed] at split
      obtain ⟨before, found, after, parts, facts⟩ := ih split
      exact ⟨turn :: before, found, after, by rw [parts]; rfl, facts⟩
    | some start =>
      rw [resumed] at split
      cases earlier with
      | nil =>
        obtain ⟨rfl, rfl⟩ := List.cons.inj split
        exact ⟨[], turn, rest, rfl, resumed, rfl, rfl, rfl⟩
      | cons first earlier =>
        obtain ⟨before, found, after, parts, facts⟩ := ih (List.cons.inj split).2
        exact ⟨turn :: before, found, after, by rw [parts]; rfl, facts⟩

/-- What the source may be told of a job. -/
def Rehearsal.Told (id : Uuid) (before after : Shift Rehearsal) : Prop :=
  after = before ∨ after = (jobSource.complete id before).2 ∨
    ∃ detail retryAt, after = (jobSource.fail id detail retryAt before).2

theorem dispatch_continuation {job : Job} (kind : job.kind = Continuation.jobKind)
    (shift : Shift Rehearsal) :
    (continuationWorker lifetime maxDepth batchSize retryBase).handlers.dispatch job shift =
      (Executor.standard lifetime maxDepth).continuationHandler (Rehearsal.services lifetime) job
        shift := by
  simp [Handlers.dispatch, continuationWorker, Keyed.get?, Keyed.insert, Keyed.insertEntry,
    Keyed.empty, kind]

theorem dispatch_other {job : Job} (kind : job.kind ≠ Continuation.jobKind)
    (shift : Shift Rehearsal) :
    (continuationWorker lifetime maxDepth batchSize retryBase).handlers.dispatch job shift =
      (.error (.unknownKind job.kind), shift) := by
  simp [Handlers.dispatch, continuationWorker, Keyed.get?, Keyed.insert, Keyed.insertEntry,
    Keyed.empty, kind.symm]

/-- A turn carries out the tree of its job, if there is one, and tells the source what came of
it. -/
theorem afterTurn_cases (turn : Job × Shift Rehearsal) :
    let worker := continuationWorker lifetime maxDepth batchSize retryBase
    let executor := Executor.standard lifetime maxDepth
    (turnOuting? lifetime turn = none ∧
      Rehearsal.Told turn.1.id turn.2 (worker.afterTurn turn)) ∨
      ∃ tree start, turnOuting? lifetime turn = some (tree, start) ∧
        Rehearsal.Told turn.1.id
          ⟨(executor.execute tree start).2.world, (executor.execute tree start).2.cancelled⟩
          (worker.afterTurn turn) := by
  intro worker executor
  obtain ⟨job, found⟩ := turn
  unfold turnOuting? Worker.afterTurn
  cases working : found.cancelled with
  | true =>
    simp only [Bool.true_or, if_true]
    exact .inl ⟨trivial, .inr (.inr ⟨_, _, rfl⟩)⟩
  | false =>
    have told : Rehearsal.Told job.id (worker.handlers.dispatch job found).2
        (worker.process job found).2 := worker.process_shift job found
    by_cases kind : job.kind = Continuation.jobKind
    · simp only [kind, ne_eq, not_true_eq_false, decide_false, Bool.or_self, if_false,
        Bool.false_eq_true]
      rw [dispatch_continuation lifetime maxDepth batchSize retryBase kind] at told
      rcases continuationHandler_cases lifetime executor job found with
        ⟨idle, same, -⟩ | ⟨tree, start, resumed, -, same⟩
      · rw [same] at told
        exact .inl ⟨idle, told⟩
      · rw [same] at told
        exact .inr ⟨tree, start, resumed, told⟩
    · simp only [kind, ne_eq, not_false_eq_true, decide_true, Bool.or_true, if_true, if_false,
        Bool.false_eq_true]
      rw [dispatch_other lifetime maxDepth batchSize retryBase kind] at told
      exact .inl ⟨trivial, told⟩

end Turns

namespace Occurrence

variable (lifetime : Span) (maxDepth : Nat)

/-- The turns of a poll. -/
def turns (batchSize retryBase : Nat) (cancelled : Bool) (world : Rehearsal) :
    List (Job × Shift Rehearsal) :=
  let worker := continuationWorker lifetime maxDepth batchSize retryBase
  match worker.source.fetchDue world.now batchSize ⟨world, cancelled⟩ with
  | (.error _, _) => []
  | (.ok jobs, shift) => worker.turns shift jobs

/-- The surroundings after an occurrence. -/
def after (world : Rehearsal) : Occurrence -> Rehearsal
  | .run tree context cancelled =>
    ((Executor.standard lifetime maxDepth).execute tree ⟨context, world, cancelled⟩).2.world
  | .poll batchSize retryBase cancelled =>
    ((continuationWorker lifetime maxDepth batchSize retryBase).runOnce ⟨world, cancelled⟩).2.world
  | .change now catalog faults => { world with now, catalog, faults }

/-- A poll fetches a batch and handles it, unless the fetch breaks off. -/
theorem poll_cases (batchSize retryBase : Nat) (cancelled : Bool) (world : Rehearsal) :
    let worker := continuationWorker lifetime maxDepth batchSize retryBase
    let begun := (Rehearsal.jobSource.fetchDue world.now batchSize ⟨world, cancelled⟩).2
    let jobs := world.claimed world.now batchSize
    (turns lifetime maxDepth batchSize retryBase cancelled world = worker.turns begun jobs ∧
        worker.runOnce ⟨world, cancelled⟩ = worker.processAll .none begun jobs) ∨
      (turns lifetime maxDepth batchSize retryBase cancelled world = [] ∧
        worker.runOnce ⟨world, cancelled⟩ = (.error .overflow, begun)) := by
  intro worker begun jobs
  have asked : worker.source.fetchDue (worker.now world) worker.batchSize ⟨world, cancelled⟩ =
      ((Rehearsal.jobSource.fetchDue world.now batchSize ⟨world, cancelled⟩).1, begun) := rfl
  have listed : turns lifetime maxDepth batchSize retryBase cancelled world =
      match worker.source.fetchDue (worker.now world) worker.batchSize ⟨world, cancelled⟩ with
      | (.error _, _) => []
      | (.ok jobs, shift) => worker.turns shift jobs := rfl
  rcases Rehearsal.fetchDue_cases world.now batchSize ⟨world, cancelled⟩ with handed | broken
  · rw [handed] at asked
    exact .inl ⟨by rw [listed, asked], by rw [Worker.runOnce, asked]⟩
  · rw [broken] at asked
    exact .inr ⟨by rw [listed, asked], by rw [Worker.runOnce, asked]⟩

/-- A poll in which a job has its turn has fetched a batch. -/
theorem poll_of_turns {batchSize retryBase : Nat} {cancelled : Bool} {world : Rehearsal}
    (turned : turns lifetime maxDepth batchSize retryBase cancelled world ≠ []) :
    let worker := continuationWorker lifetime maxDepth batchSize retryBase
    let begun := (Rehearsal.jobSource.fetchDue world.now batchSize ⟨world, cancelled⟩).2
    let jobs := world.claimed world.now batchSize
    turns lifetime maxDepth batchSize retryBase cancelled world = worker.turns begun jobs ∧
      worker.runOnce ⟨world, cancelled⟩ = worker.processAll .none begun jobs :=
  (poll_cases lifetime maxDepth batchSize retryBase cancelled world).resolve_right
    (fun broken => turned broken.1)

/-- The outings of an occurrence. -/
def outings (world : Rehearsal) : Occurrence -> List Outing
  | .run tree context cancelled => [⟨tree, ⟨context, world, cancelled⟩, none, []⟩]
  | .poll batchSize retryBase cancelled =>
    turnOutings lifetime (turns lifetime maxDepth batchSize retryBase cancelled world)
  | .change _ _ _ => []

/-- The outings of a history. -/
def allOutings (world : Rehearsal) : List Occurrence -> List Outing
  | [] => []
  | occurrence :: rest =>
    occurrence.outings lifetime maxDepth world ++
      allOutings (occurrence.after lifetime maxDepth world) rest

end Occurrence

end Outreach
