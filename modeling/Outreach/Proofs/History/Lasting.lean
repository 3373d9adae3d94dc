import Outreach.Proofs.History.Occurrence

/-!
# Properties that outlast runs and batches

What the visit of any action preserves, and whatever the source is told of a job, holds at the end
of a run, of a batch and of an occurrence if it holds at the beginning. The jobs that the source is
told of may be restricted to known ones.
-/

namespace Outreach

/-- The surroundings of a run, and whether it has been cancelled. -/
def Run.shift (run : Run Rehearsal) : Shift Rehearsal := ⟨run.world, run.cancelled⟩

/-- A property that every visit preserves, and everything that the source is told of a known job. -/
structure Lasting (lifetime : Span) (maxDepth : Nat) (Known : Uuid -> Prop)
    (Holds : Shift Rehearsal -> Prop) : Prop where
  visit : forall arrival : Arrival Rehearsal, Holds arrival.run.shift ->
    Holds (arrival.visit (.standard lifetime maxDepth)).2.shift
  told : forall {id before after}, Known id -> Rehearsal.Told id before after -> Holds before ->
    Holds after

/-- The jobs of an occurrence: those that a poll claims. -/
def Occurrence.batch (world : Rehearsal) : Occurrence -> List Job
  | .poll batchSize _ _ => world.claimed world.now batchSize
  | .run _ _ _ => []
  | .change _ _ _ => []

/-- The surroundings with which an occurrence begins: a poll has claimed its batch, and a change has
been made. -/
def Occurrence.begun (world : Rehearsal) : Occurrence -> Rehearsal
  | .poll batchSize _ cancelled =>
    (Rehearsal.jobSource.fetchDue world.now batchSize ⟨world, cancelled⟩).2.world
  | .run _ _ _ => world
  | .change now catalog faults => { world with now, catalog, faults }

namespace Lasting

variable {lifetime : Span} {maxDepth batchSize retryBase : Nat} {Known : Uuid -> Prop}
  {Holds : Shift Rehearsal -> Prop}

/-- A lasting property holds of everything that a run reaches, and of its end. -/
theorem loop (lasting : Lasting lifetime maxDepth Known Holds) {run : Run Rehearsal}
    (start : Holds run.shift) (stack : List Executor.Pending) (first : Option Outcome) :
    (∀ arrival ∈ (Executor.standard lifetime maxDepth).arrivals stack run,
        Holds arrival.run.shift) ∧
      Holds ((Executor.standard lifetime maxDepth).loop stack first run).2.shift :=
  Executor.loop_preserves (fun run => Holds run.shift) start
    (fun arrival _ here => lasting.visit arrival here)

/-- A lasting property that holds after a visit holds at the end of the run. -/
theorem outing (lasting : Lasting lifetime maxDepth Known Holds) {outing : Outing}
    {before after : List (Arrival Rehearsal)} {arrival : Arrival Rehearsal}
    (split : outing.arrivals (.standard lifetime maxDepth) = before ++ arrival :: after)
    (here : Holds (arrival.visit (.standard lifetime maxDepth)).2.shift) :
    Holds ((Executor.standard lifetime maxDepth).execute outing.tree outing.start).2.shift := by
  obtain ⟨-, ⟨fault, -, -, ends⟩ | ⟨outcome, rest, held, -, -, ends⟩⟩ :=
    Executor.arrivals_split none split
  · rw [Executor.execute, ends]
    exact here
  · rw [Executor.execute, ends]
    exact (lasting.loop here rest held).2

/-- A lasting property outlasts the turn of a known job. -/
theorem afterTurn (lasting : Lasting lifetime maxDepth Known Holds)
    {turn : Job × Shift Rehearsal} (known : Known turn.1.id) (start : Holds turn.2) :
    Holds ((continuationWorker lifetime maxDepth batchSize retryBase).afterTurn turn) := by
  rcases afterTurn_cases lifetime maxDepth batchSize retryBase turn with
    ⟨-, told⟩ | ⟨tree, run, resumed, told⟩
  · exact lasting.told known told start
  · obtain ⟨continuation, project, -, rfl⟩ := turnOuting?_some lifetime resumed
    refine lasting.told known told (lasting.loop ?_ [(tree, 0)] none).2
    exact start

/-- A lasting property holds at every turn of a batch of known jobs, and at its end. -/
theorem processAll (lasting : Lasting lifetime maxDepth Known Holds) {shift : Shift Rehearsal}
    {jobs : List Job} (stats : PollStats)
    (known : ∀ turn ∈ (continuationWorker lifetime maxDepth batchSize retryBase).turns shift jobs,
      Known turn.1.id)
    (start : Holds shift) :
    (∀ turn ∈ (continuationWorker lifetime maxDepth batchSize retryBase).turns shift jobs,
        Holds turn.2) ∧
      Holds ((continuationWorker lifetime maxDepth batchSize retryBase).processAll stats shift
        jobs).2 :=
  Worker.processAll_preserves Holds stats start
    (fun turn member here => lasting.afterTurn (known turn member) here)

variable {world : Rehearsal} (Persists : Rehearsal -> Prop)

/-- A lasting property of the surroundings with which an occurrence begins holds after it. -/
theorem after
    (lasting : Lasting lifetime maxDepth Known (fun shift => Persists shift.world))
    {occurrence : Occurrence} (known : ∀ job ∈ occurrence.batch world, Known job.id)
    (start : Persists (occurrence.begun world)) :
    Persists (occurrence.after lifetime maxDepth world) := by
  cases occurrence with
  | run tree context cancelled =>
    have begins : Persists (Run.shift ⟨context, world, cancelled⟩).world := start
    exact (lasting.loop begins [(tree, 0)] none).2
  | poll batchSize retryBase cancelled =>
    rcases Occurrence.poll_cases lifetime maxDepth batchSize retryBase cancelled world with
      ⟨-, polled⟩ | ⟨-, broken⟩
    · rw [Occurrence.after, polled]
      refine (lasting.processAll .none (fun turn member => known turn.1 ?_) start).2
      exact (Worker.turns_prefix _ _).subset (List.mem_map_of_mem member)
    · rw [Occurrence.after, broken]
      exact start
  | change now catalog faults => exact start

/-- A lasting property that holds after a turn of a poll holds after the poll, if the jobs that have
their turns afterwards are known. -/
theorem afterPoll
    (lasting : Lasting lifetime maxDepth Known (fun shift => Persists shift.world))
    {cancelled : Bool} {before after : List (Job × Shift Rehearsal)} {turn : Job × Shift Rehearsal}
    (split : Occurrence.turns lifetime maxDepth batchSize retryBase cancelled world =
      before ++ turn :: after)
    (known : ∀ later ∈ after, Known later.1.id)
    (here : Persists
      ((continuationWorker lifetime maxDepth batchSize retryBase).afterTurn turn).world) :
    Persists ((Occurrence.poll batchSize retryBase cancelled).after lifetime maxDepth world) := by
  have turned : Occurrence.turns lifetime maxDepth batchSize retryBase cancelled world ≠ [] := by
    simp [split]
  obtain ⟨turns, polled⟩ := Occurrence.poll_of_turns lifetime maxDepth turned
  rw [turns] at split
  rw [Occurrence.after, polled]
  rcases Worker.turns_split .none split with ⟨-, ends⟩ | ⟨rest, counted, -, later, goesOn⟩
  · rw [ends]
    exact here
  · rw [goesOn]
    exact (lasting.processAll counted (fun turn member => known turn (later ▸ member)) here).2

/-- A lasting property that holds after a visit holds at the end of the occurrence, if the jobs of
the same batch from that one on are known. -/
theorem rest
    (lasting : Lasting lifetime maxDepth Known (fun shift => Persists shift.world))
    {occurrence : Occurrence} {first last : List Outing} {outing : Outing}
    {before after : List (Arrival Rehearsal)} {arrival : Arrival Rehearsal}
    (outings : occurrence.outings lifetime maxDepth world = first ++ outing :: last)
    (arrivals : outing.arrivals (.standard lifetime maxDepth) = before ++ arrival :: after)
    (known : ∀ job ∈ outing.job.toList ++ outing.waiting, Known job.id)
    (here : Persists (arrival.visit (.standard lifetime maxDepth)).2.world) :
    Persists (occurrence.after lifetime maxDepth world) := by
  have ended := lasting.outing arrivals here
  cases occurrence with
  | run tree context cancelled =>
    cases first with
    | nil =>
      obtain ⟨rfl, -⟩ := List.cons.inj outings
      exact ended
    | cons other first => exact absurd (List.cons.inj outings).2.symm (by simp)
  | poll batchSize retryBase cancelled =>
    obtain ⟨earlier, turn, others, batch, resumed, job, waits, -⟩ :=
      turnOutings_split lifetime outings
    rw [job, waits] at known
    obtain ⟨knownHere, knownLater⟩ := List.forall_mem_cons.mp known
    have turned : Persists ((continuationWorker lifetime maxDepth batchSize retryBase).afterTurn
        turn).world := by
      rcases afterTurn_cases lifetime maxDepth batchSize retryBase turn with
        ⟨idle, -⟩ | ⟨tree, start, same, told⟩
      · exact nomatch resumed.symm.trans idle
      · cases resumed.symm.trans same
        exact lasting.told knownHere told ended
    exact lasting.afterPoll Persists batch
      (fun later member => knownLater later.1 (List.mem_map_of_mem member)) turned
  | change now catalog faults => exact absurd outings.symm (by simp [Occurrence.outings])

end Lasting

end Outreach
