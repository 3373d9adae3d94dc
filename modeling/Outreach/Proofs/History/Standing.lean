import Mathlib.Algebra.Group.Nat.Defs
import Outreach.Proofs.History.Lasting
import Outreach.Proofs.Queue.Fetching

/-!
# The standing of a job in a history

Jobs are numbered, and a job gets the next id of the source of ids. As long as the source does not
give out the id of a job again (`Unrepeated`), what happens to the job is up to the polls that claim
it: until then it is pending, and once it is done it is nowhere, and no poll claims it any more.
-/

namespace Outreach

namespace Rehearsal

/-- The id with a number is not given out again before the one with another number. -/
def Unrepeated (ids : Nat -> Uuid) (number count : Nat) : Prop :=
  forall later, number < later -> later < count -> ids later ≠ ids number

theorem Unrepeated.mono {ids : Nat -> Uuid} {number count earlier : Nat}
    (unrepeated : Unrepeated ids number count) (atMost : earlier <= count) :
    Unrepeated ids number earlier :=
  fun later after before => unrepeated later after (Nat.lt_of_lt_of_le before atMost)

/-- The ids that are counted repeat themselves only after all of them have been given out. -/
theorem unrepeated_countedIds {number count : Nat} (few : count <= 2 ^ 128 - 1) :
    Unrepeated countedIds number count := by
  intro later after before same
  have bits := congrArg (fun id : Uuid => id.bits.toNat) same
  simp only [countedIds, Uuid.ofNat, BitVec.toNat_ofNat] at bits
  omega

/-- What is known of the job with a number: it has got its id from this source, and unless the id has
been given out again, these are the entries of it. -/
structure Standing (ids : Nat -> Uuid) (number : Nat) (places : List (Place × Job))
    (world : Rehearsal) : Prop where
  source : world.jobIdAt = ids
  given : number < world.jobCount
  places : Unrepeated ids number world.jobCount -> world.whereabouts (ids number) = places

section

variable {ids : Nat -> Uuid} {number : Nat} {places : List (Place × Job)} {world next : Rehearsal}

/-- A job stands as before if nothing but a job with another id has been put in. -/
theorem Standing.of_step (standing : world.Standing ids number places)
    (source : next.jobIdAt = world.jobIdAt) (grown : world.jobCount <= next.jobCount)
    (same : Unrepeated ids number next.jobCount ->
      next.whereabouts (ids number) = world.whereabouts (ids number)) :
    next.Standing ids number places where
  source := source.trans standing.source
  given := Nat.lt_of_lt_of_le standing.given grown
  places unrepeated := (same unrepeated).trans (standing.places (unrepeated.mono grown))

/-- A continuation that is handed over becomes the job with the next id, or no job at all. -/
theorem schedule_cases (runAt : Instant) (continuation : Continuation) (world : Rehearsal) :
    let next := (schedule runAt continuation world).2
    (next.jobCount = world.jobCount ∧ ∀ id, next.whereabouts id = world.whereabouts id) ∨
      (next.jobCount = world.jobCount + 1 ∧
        ∀ id, world.jobIdAt world.jobCount ≠ id ->
          next.whereabouts id = world.whereabouts id) := by
  intro next
  simp only [next, schedule, Faults.answer]
  cases world.faults.lookup .schedule with
  | some cause => exact .inl ⟨rfl, fun id => rfl⟩
  | none =>
    cases desk : world.jobs with
    | notes jobs refuseNext =>
      left
      cases refuseNext <;> exact ⟨rfl, fun id => by simp [whereabouts, desk]⟩
    | queue queue maxAttempts =>
      right
      refine ⟨rfl, fun id apart => ?_⟩
      simp only [whereabouts, desk]
      exact Queue.whereabouts_push_other apart

/-- Handing a continuation over is nothing to a job that has its id already. -/
theorem Standing.schedule (standing : world.Standing ids number places) (runAt : Instant)
    (continuation : Continuation) :
    (Rehearsal.schedule runAt continuation world).2.Standing ids number places := by
  have source := (frame_schedule world runAt continuation).jobIdAt
  rcases schedule_cases runAt continuation world with ⟨count, same⟩ | ⟨count, same⟩
  · exact standing.of_step source (Nat.le_of_eq count.symm) (fun _ => same _)
  · refine standing.of_step source (by omega) (fun unrepeated => same _ ?_)
    rw [standing.source]
    exact unrepeated _ standing.given (count ▸ Nat.lt_succ_self _)

end

/-- What the source is told of a job changes nothing but the queue, and there no other job. -/
theorem Told.others {id : Uuid} {before after : Shift Rehearsal} (told : Told id before after) :
    (∃ jobs, after = { before with world := { before.world with jobs } }) ∧
      ∀ other, id ≠ other -> after.world.whereabouts other = before.world.whereabouts other := by
  rcases told with rfl | rfl | ⟨detail, retryAt, rfl⟩
  · exact ⟨⟨_, rfl⟩, fun other _ => rfl⟩
  · exact ⟨askQueue_shift _ _ _, fun other apart => whereabouts_complete_other apart⟩
  · exact ⟨askQueue_shift _ _ _, fun other apart => whereabouts_fail_other apart _ _⟩

end Rehearsal

section Lasting

variable {lifetime : Span} {maxDepth : Nat}

/-- The visit of an action leaves the surroundings as they are, or as its step leaves them. -/
theorem Arrival.visit_shift (lifetime : Span) (maxDepth : Nat) (arrival : Arrival Rehearsal) :
    let next := (arrival.visit (.standard lifetime maxDepth)).2
    next.shift = arrival.run.shift ∨
      (arrival.run.world.Frame next.world ∧ next.cancelled = false ∧
        ((next.world.jobs = arrival.run.world.jobs ∧
            next.world.jobCount = arrival.run.world.jobCount) ∨
          ∃ runAt continuation,
            next.world = (Rehearsal.schedule runAt continuation arrival.run.world).2)) := by
  unfold Arrival.visit
  rcases Executor.visit_cases lifetime maxDepth arrival.action arrival.depth arrival.run with
    ⟨outcome, kept, -⟩ | ⟨-, cancelled⟩ | ⟨-, taken⟩
  · rw [kept]
    exact .inl rfl
  · rw [cancelled]
    exact .inl rfl
  · rw [taken]
    have sound := Executor.sound_stepOf lifetime arrival.action arrival.run
    refine .inr ⟨sound.frame, sound.goesOn, ?_⟩
    cases sound.effect with
    | quiet contact state quiet => exact .inl ⟨quiet.jobs, quiet.jobCount⟩
    | stored contact held filed alive quiet => exact .inl ⟨quiet.jobs, quiet.jobCount⟩
    | removed state quiet => exact .inl ⟨quiet.jobs, quiet.jobCount⟩
    | deferred runAt same handed => exact .inr ⟨runAt, _, handed.symm⟩

/-- The standing of a job lasts as long as the source of jobs is told of other ones only. -/
theorem lasting_standing (ids : Nat -> Uuid) (number : Nat) (places : List (Place × Job)) :
    Lasting lifetime maxDepth (fun id => id ≠ ids number)
      (fun shift => shift.world.Standing ids number places) where
  visit arrival standing := by
    rcases arrival.visit_shift lifetime maxDepth with
      same | ⟨frame, -, ⟨jobs, count⟩ | ⟨runAt, continuation, handed⟩⟩
    · rw [same]
      exact standing
    · refine standing.of_step frame.jobIdAt (Nat.le_of_eq count.symm) (fun _ => ?_)
      simp only [Rehearsal.whereabouts, Run.shift, jobs]
    · rw [Run.shift, handed]
      exact standing.schedule runAt continuation
  told := by
    intro id before after apart told standing
    obtain ⟨⟨jobs, rfl⟩, same⟩ := told.others
    exact standing.of_step rfl (Nat.le_refl _) (fun _ => same _ apart)

/-- Jobs only become more. -/
theorem lasting_count (count : Nat) :
    Lasting lifetime maxDepth (fun _ => True) (fun shift => count <= shift.world.jobCount) where
  visit arrival atLeast := by
    rcases arrival.visit_shift lifetime maxDepth with
      same | ⟨-, -, ⟨-, same⟩ | ⟨runAt, continuation, handed⟩⟩
    · rw [same]
      exact atLeast
    · rw [Run.shift, same]
      exact atLeast
    · rw [Run.shift, handed]
      have before : count <= arrival.run.world.jobCount := atLeast
      change count <= (Rehearsal.schedule runAt continuation arrival.run.world).2.jobCount
      rcases Rehearsal.schedule_cases runAt continuation arrival.run.world with
        ⟨same, -⟩ | ⟨more, -⟩ <;> omega
  told := by
    intro id before after _ told atLeast
    obtain ⟨⟨jobs, rfl⟩, -⟩ := told.others
    exact atLeast

/-- No run changes the projects and the trees of the catalog, and none is cancelled. -/
theorem lasting_frame (world : Rehearsal) :
    Lasting lifetime maxDepth (fun _ => True)
      (fun shift => world.Frame shift.world ∧ shift.cancelled = false) where
  visit arrival framed := by
    rcases arrival.visit_shift lifetime maxDepth with
      same | ⟨frame, working, -⟩
    · rw [same]
      exact framed
    · exact ⟨framed.1.trans frame, working⟩
  told := by
    intro id before after _ told framed
    obtain ⟨⟨jobs, rfl⟩, -⟩ := told.others
    exact ⟨⟨framed.1.now, framed.1.projects, framed.1.actions, framed.1.faults,
      framed.1.jobIdAt⟩, framed.2⟩

end Lasting

namespace Occurrence

variable (lifetime : Span) (maxDepth : Nat)

/-- The surroundings after a history. -/
def afterAll (world : Rehearsal) : List Occurrence -> Rehearsal
  | [] => world
  | occurrence :: rest => afterAll (occurrence.after lifetime maxDepth world) rest

theorem afterAll_append (world : Rehearsal) (first last : List Occurrence) :
    afterAll lifetime maxDepth world (first ++ last) =
      afterAll lifetime maxDepth (afterAll lifetime maxDepth world first) last := by
  induction first generalizing world with
  | nil => rfl
  | cons occurrence rest ih => exact ih _

/-- The jobs that are claimed in a history. -/
def batches (world : Rehearsal) : List Occurrence -> List Job
  | [] => []
  | occurrence :: rest =>
    occurrence.batch world ++ batches (occurrence.after lifetime maxDepth world) rest

end Occurrence

namespace Rehearsal.Standing

variable {lifetime : Span} {maxDepth : Nat} {ids : Nat -> Uuid} {number : Nat} {job : Job}
  {world : Rehearsal}

/-- What an occurrence begins with gives out no ids for jobs. -/
theorem ids_begun (occurrence : Occurrence) (world : Rehearsal) :
    (occurrence.begun world).jobIdAt = world.jobIdAt ∧
      (occurrence.begun world).jobCount = world.jobCount := by
  cases occurrence with
  | run tree context cancelled => exact ⟨rfl, rfl⟩
  | poll batchSize retryBase cancelled =>
    obtain ⟨jobs, same⟩ : ∃ jobs, (jobSource.fetchDue world.now batchSize ⟨world, cancelled⟩).2 =
        ⟨{ world with jobs }, cancelled⟩ := askQueue_shift _ _ _
    rw [Occurrence.begun, same]
    exact ⟨rfl, rfl⟩
  | change now catalog faults => exact ⟨rfl, rfl⟩

/-- So a job stands as the entries of its id do. -/
theorem begun {places after : List (Place × Job)} (standing : world.Standing ids number places)
    {occurrence : Occurrence}
    (found : Unrepeated ids number world.jobCount ->
      (occurrence.begun world).whereabouts (ids number) = after) :
    (occurrence.begun world).Standing ids number after where
  source := (ids_begun occurrence world).1.trans standing.source
  given := (ids_begun occurrence world).2 ▸ standing.given
  places unrepeated := found ((ids_begun occurrence world).2 ▸ unrepeated)

/-- A pending job that no poll claims goes on pending. -/
theorem after_pending (standing : world.Standing ids number [(.pending, job)])
    (countable : job.full = false) {occurrence : Occurrence}
    (unclaimed : ∀ other ∈ occurrence.batch world, other.id ≠ ids number) :
    (occurrence.after lifetime maxDepth world).Standing ids number [(.pending, job)] := by
  refine (lasting_standing ids number _).after (Standing ids number _) unclaimed ?_
  refine standing.begun (fun unrepeated => ?_)
  have here := standing.places unrepeated
  cases occurrence with
  | run tree context cancelled => exact here
  | poll batchSize retryBase cancelled =>
    rcases claimed_pending ⟨world, cancelled⟩ world.now batchSize countable here with
      ⟨-, waits⟩ | ⟨-, handed, -⟩
    · exact waits
    · have claimed : job.attempted ∈ (world.claimed world.now batchSize).filter
          (fun other => other.id = ids number) := handed ▸ List.mem_singleton_self _
      obtain ⟨listed, id⟩ := List.mem_filter.mp claimed
      exact absurd (of_decide_eq_true id) (unclaimed _ listed)
  | change now catalog faults => exact here

/-- A job that is nowhere is claimed by no poll and goes on being nowhere. -/
theorem after_gone (standing : world.Standing ids number [])
    (unrepeated : Unrepeated ids number world.jobCount) (occurrence : Occurrence) :
    (∀ other ∈ occurrence.batch world, other.id ≠ ids number) ∧
      (occurrence.after lifetime maxDepth world).Standing ids number [] := by
  have gone := standing.places unrepeated
  have begins : (∀ other ∈ occurrence.batch world, other.id ≠ ids number) ∧
      (occurrence.begun world).whereabouts (ids number) = [] := by
    cases occurrence with
    | run tree context cancelled => exact ⟨fun other none => absurd none List.not_mem_nil, gone⟩
    | poll batchSize retryBase cancelled =>
      obtain ⟨none, still⟩ :=
        claimed_absent ⟨world, cancelled⟩ world.now batchSize gone
      refine ⟨fun other listed same => ?_, still⟩
      exact List.filter_eq_nil_iff.mp none other listed (decide_eq_true same)
    | change now catalog faults => exact ⟨fun other none => absurd none List.not_mem_nil, gone⟩
  exact ⟨begins.1, (lasting_standing ids number _).after (Standing ids number _) begins.1
    (standing.begun (fun _ => begins.2))⟩

/-- In a history jobs only become more. -/
theorem jobCount_afterAll (history : List Occurrence) (world : Rehearsal) :
    world.jobCount <= (Occurrence.afterAll lifetime maxDepth world history).jobCount := by
  induction history generalizing world with
  | nil => exact Nat.le_refl _
  | cons occurrence rest ih =>
    have lasting : Lasting lifetime maxDepth (fun _ => True)
        (fun shift => world.jobCount <= shift.world.jobCount) := lasting_count world.jobCount
    have grown : world.jobCount <= (occurrence.after lifetime maxDepth world).jobCount :=
      lasting.after (fun next => world.jobCount <= next.jobCount) (fun _ _ => trivial)
        (Nat.le_of_eq (ids_begun occurrence world).2.symm)
    exact Nat.le_trans grown (ih (occurrence.after lifetime maxDepth world))

/-- A pending job that no poll of a history claims is pending after it. -/
theorem afterAll_pending (standing : world.Standing ids number [(.pending, job)])
    (countable : job.full = false) {history : List Occurrence}
    (unclaimed : ∀ other ∈ Occurrence.batches lifetime maxDepth world history,
      other.id ≠ ids number) :
    (Occurrence.afterAll lifetime maxDepth world history).Standing ids number [(.pending, job)] := by
  induction history generalizing world with
  | nil => exact standing
  | cons occurrence rest ih =>
    obtain ⟨here, later⟩ := List.forall_mem_append.mp unclaimed
    exact ih (standing.after_pending countable here) later

/-- A job that is nowhere is claimed by no poll of a history. -/
theorem batches_gone (standing : world.Standing ids number []) {history : List Occurrence}
    (unrepeated : Unrepeated ids number
      (Occurrence.afterAll lifetime maxDepth world history).jobCount) :
    ∀ other ∈ Occurrence.batches lifetime maxDepth world history, other.id ≠ ids number := by
  induction history generalizing world with
  | nil => exact fun other none => absurd none List.not_mem_nil
  | cons occurrence rest ih =>
    have now := unrepeated.mono (jobCount_afterAll (occurrence :: rest) world)
    obtain ⟨here, after⟩ : _ ∧ (occurrence.after lifetime maxDepth world).Standing ids number [] :=
      standing.after_gone now occurrence
    exact List.forall_mem_append.mpr ⟨here, ih after unrepeated⟩

end Rehearsal.Standing

end Outreach
