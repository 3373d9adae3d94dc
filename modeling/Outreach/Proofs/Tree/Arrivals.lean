import Outreach.Tree.Execution

/-!
# The actions that a run reaches

A run arrives at one action after the other, each with the context and the surroundings that the
ones before have left. What every visit preserves holds of all arrivals and of the end of the run,
and from any arrival on the run goes on like one that starts there.
-/

namespace Outreach

variable {σ : Type}

/-- An action that a run reaches, and the run as the action finds it. -/
structure Arrival (σ : Type) where
  action : Action
  depth : Nat
  run : Run σ

/-- What the visit of an action comes to. -/
def Arrival.visit (executor : Executor σ) (arrival : Arrival σ) : Except RunFault Outcome × Run σ :=
  executor.visit arrival.action arrival.depth arrival.run

/-- The activity of a step in a run that has been cancelled. -/
theorem Step.guarded_of_cancelled (step : Step σ) {run : Run σ} (cancelled : run.cancelled = true) :
    step.guarded run = (.error .cancelled, run) := if_pos cancelled

/-- The activity of a step in a run that has not been cancelled. -/
theorem Step.guarded_of_working (step : Step σ) {run : Run σ} (working : run.cancelled = false) :
    step.guarded run =
      ((step run.context run.world).outcome,
        ⟨(step run.context run.world).context, (step run.context run.world).world,
          (step run.context run.world).cancels⟩) :=
  if_neg (Bool.eq_false_iff.mp working)

namespace Executor

variable {executor : Executor σ}

/-- An action is handed to the activity for its kind if it is enabled and not too far down. -/
theorem barred_eq_ok_iff {action : Action} {depth : Nat} {activity : Activity σ} :
    executor.barred action depth = .ok activity ↔
      action.enabled = true ∧ depth <= executor.maxDepth ∧
        executor.registry.activityFor action.kind = some activity := by
  unfold barred
  by_cases enabled : action.enabled = true
  · by_cases deep : executor.maxDepth < depth
    · simp [enabled, deep, Nat.not_le_of_lt deep]
    · cases executor.registry.activityFor action.kind <;>
        simp [enabled, deep, Nat.le_of_not_lt deep]
  · simp [enabled]

/-- An action that is kept from its activity fails and prunes what is below it. -/
theorem barred_failed {action : Action} {depth : Nat} {outcome : Outcome}
    (barred : executor.barred action depth = .error outcome) :
    outcome.status = .failed ∧ outcome.flow = .stop := by
  unfold Executor.barred at barred
  split at barred
  · cases barred
    exact ⟨rfl, rfl⟩
  · split at barred
    · cases barred
      exact ⟨rfl, rfl⟩
    · split at barred
      · cases barred
      · cases barred
        exact ⟨rfl, rfl⟩

/-- The visit of an action that is handed to an activity. -/
theorem visit_of_barred {action : Action} {depth : Nat} {activity : Activity σ}
    (barred : executor.barred action depth = .ok activity) (run : Run σ) :
    executor.visit action depth run =
      (absorb (activity (entering run action)).1, (activity (entering run action)).2) := by
  unfold visit
  rw [barred]

/-- The actions that are reached from a stack, in their order. -/
def arrivals (executor : Executor σ) (stack : List Pending) (run : Run σ) : List (Arrival σ) :=
  match stack with
  | [] => []
  | (action, depth) :: rest =>
    if run.cancelled then []
    else
      ⟨action, depth, run⟩ ::
        match executor.visit action depth run with
        | (.error _, _) => []
        | (.ok outcome, run) => arrivals executor (following outcome action depth ++ rest) run
termination_by pendingSize stack
decreasing_by exact pendingSize_following_lt outcome action depth rest

/-- The first action of a stack is reached, and then what its outcome leaves of the stack. -/
theorem arrivals_cons {action : Action} {depth : Nat} {rest : List Pending} {run next : Run σ}
    {outcome : Outcome} (working : run.cancelled = false)
    (visited : executor.visit action depth run = (.ok outcome, next)) :
    executor.arrivals ((action, depth) :: rest) run =
      ⟨action, depth, run⟩ :: executor.arrivals (following outcome action depth ++ rest) next := by
  rw [arrivals, if_neg (by simp [working]), visited]

/-- What every visit preserves holds of every action that is reached and of the run at the end. -/
theorem loop_preserves (Holds : Run σ -> Prop) {stack : List Pending} {first : Option Outcome}
    {run : Run σ} (start : Holds run)
    (preserved : ∀ arrival ∈ executor.arrivals stack run,
      Holds arrival.run -> Holds (arrival.visit executor).2) :
    (∀ arrival ∈ executor.arrivals stack run, Holds arrival.run) ∧
      Holds (executor.loop stack first run).2 := by
  induction stack, first, run using loop.induct executor with
  | case1 first run =>
    rw [arrivals, loop]
    exact ⟨fun arrival none => absurd none List.not_mem_nil, start⟩
  | case2 first run action depth rest cancelled =>
    rw [arrivals, if_pos cancelled, loop, if_pos cancelled]
    exact ⟨fun arrival none => absurd none List.not_mem_nil, start⟩
  | case3 first run action depth rest working fault after visited =>
    rw [arrivals, if_neg working, visited] at preserved ⊢
    rw [loop, if_neg working, visited]
    have next := preserved _ List.mem_cons_self start
    rw [Arrival.visit, visited] at next
    exact ⟨fun arrival only => List.mem_singleton.mp only ▸ start, next⟩
  | case4 first run action depth rest working outcome after visited ih =>
    rw [arrivals, if_neg working, visited] at preserved ⊢
    rw [loop, if_neg working, visited]
    have next := preserved _ List.mem_cons_self start
    rw [Arrival.visit, visited] at next
    obtain ⟨later, last⟩ := ih next (fun arrival member =>
      preserved arrival (List.mem_cons_of_mem _ member))
    refine ⟨fun arrival member => ?_, last⟩
    rcases List.mem_cons.mp member with rfl | below
    · exact start
    · exact later arrival below

/-- What is counted of a run, and goes up by one with some visits and stays with the others, has gone
up by the number of those visits in the end. -/
theorem loop_counts (count : Run σ -> Nat) (counted : Arrival σ -> Bool) {stack : List Pending}
    (first : Option Outcome) {run : Run σ}
    (visits : ∀ arrival ∈ executor.arrivals stack run,
      count (arrival.visit executor).2 = count arrival.run + if counted arrival then 1 else 0) :
    count (executor.loop stack first run).2 =
      count run + (executor.arrivals stack run).countP counted := by
  induction stack, first, run using loop.induct executor with
  | case1 first run =>
    rw [arrivals, loop]
    rfl
  | case2 first run action depth rest cancelled =>
    rw [arrivals, if_pos cancelled, loop, if_pos cancelled]
    rfl
  | case3 first run action depth rest working fault next visited =>
    rw [arrivals, if_neg working, visited] at visits ⊢
    rw [loop, if_neg working, visited]
    have here := visits _ List.mem_cons_self
    rw [Arrival.visit, visited] at here
    rw [List.countP_singleton]
    exact here
  | case4 first run action depth rest working outcome next visited ih =>
    rw [arrivals, if_neg working, visited] at visits ⊢
    rw [loop, if_neg working, visited]
    have here := visits _ List.mem_cons_self
    rw [Arrival.visit, visited] at here
    have later := ih (fun arrival below => visits arrival (List.mem_cons_of_mem _ below))
    simp only [List.countP_cons, later, here]
    omega

/-- From an action that is reached on, the run goes on like one from what its visit has left, unless
that ends the run. -/
theorem arrivals_split (first : Option Outcome) {stack : List Pending} {run : Run σ}
    {before after : List (Arrival σ)} {arrival : Arrival σ}
    (split : executor.arrivals stack run = before ++ arrival :: after) :
    arrival.run.cancelled = false ∧
    ((∃ fault, (arrival.visit executor).1 = .error fault ∧ after = [] ∧
        executor.loop stack first run = (.error fault, (arrival.visit executor).2)) ∨
      ∃ outcome rest held, (arrival.visit executor).1 = .ok outcome ∧
        after = executor.arrivals rest (arrival.visit executor).2 ∧
        executor.loop stack first run = executor.loop rest held (arrival.visit executor).2) := by
  induction stack, first, run using loop.induct executor generalizing before with
  | case1 first run =>
    rw [arrivals] at split
    exact absurd split.symm (by simp)
  | case2 first run action depth rest cancelled =>
    rw [arrivals, if_pos cancelled] at split
    exact absurd split.symm (by simp)
  | case3 first run action depth rest working fault next visited =>
    rw [arrivals, if_neg working, visited] at split
    rw [loop, if_neg working, visited]
    cases before with
    | nil =>
      obtain ⟨rfl, rfl⟩ := List.cons.inj split
      rw [Arrival.visit, visited]
      exact ⟨by simpa using working, .inl ⟨fault, rfl, rfl, rfl⟩⟩
    | cons other before => exact absurd (List.cons.inj split).2.symm (by simp)
  | case4 first run action depth rest working outcome next visited ih =>
    rw [arrivals, if_neg working, visited] at split
    rw [loop, if_neg working, visited]
    cases before with
    | nil =>
      obtain ⟨rfl, rfl⟩ := List.cons.inj split
      rw [Arrival.visit, visited]
      exact ⟨by simpa using working, .inr ⟨outcome, _, _, rfl, rfl, rfl⟩⟩
    | cons other before => exact ih (List.cons.inj split).2

/-- No action is reached in a run that has been cancelled. -/
theorem working_of_mem_arrivals {stack : List Pending} {run : Run σ} {arrival : Arrival σ}
    (member : arrival ∈ executor.arrivals stack run) : arrival.run.cancelled = false := by
  obtain ⟨before, after, split⟩ := List.append_of_mem member
  exact (arrivals_split none split).1

/-- Whatever is known of the actions on the stack at their depths, and passes from an action to its
children, is known of what a run reaches. -/
theorem known_of_arrivals (known : Action -> Nat -> Prop)
    (closed : forall action depth, known action depth ->
      ∀ child ∈ action.children, known child (depth + 1))
    {stack : List Pending} {run : Run σ} (start : ∀ pending ∈ stack, known pending.1 pending.2) :
    ∀ arrival ∈ executor.arrivals stack run, known arrival.action arrival.depth := by
  fun_induction arrivals executor stack run with
  | case1 run => exact fun arrival none => absurd none List.not_mem_nil
  | case2 run action depth rest cancelled => exact fun arrival none => absurd none List.not_mem_nil
  | case3 run action depth rest working ih =>
    have here := start _ List.mem_cons_self
    intro arrival member
    rcases List.mem_cons.mp member with rfl | below
    · exact here
    · cases visited : executor.visit action depth run with
      | mk answer next =>
        rw [visited] at below
        cases answer with
        | error fault => exact absurd below List.not_mem_nil
        | ok outcome =>
          refine ih outcome next (fun pending listed => ?_) arrival below
          rcases List.mem_append.mp listed with below | later
          · unfold following at below
            split at below
            · obtain ⟨child, isChild, rfl⟩ := List.mem_map.mp below
              exact closed action depth here child isChild
            · cases below
          · exact start pending (List.mem_cons_of_mem _ later)

/-- A run reaches nothing but what is on the stack and what is below it. -/
theorem mem_of_arrivals (known : Action -> Prop)
    (closed : forall action, known action -> ∀ child ∈ action.children, known child)
    {stack : List Pending} {run : Run σ} (start : ∀ pending ∈ stack, known pending.1) :
    ∀ arrival ∈ executor.arrivals stack run, known arrival.action :=
  known_of_arrivals (fun action _ => known action) (fun action _ => closed action) start

/-- A run that is never cancelled has an outcome, or it ends with the fault of the last action that
it reaches. -/
theorem loop_ends (first : Option Outcome) {stack : List Pending} {run : Run σ}
    (working : run.cancelled = false)
    (goesOn : ∀ arrival ∈ executor.arrivals stack run,
      (arrival.visit executor).2.cancelled = false) :
    (∃ outcome, (executor.loop stack first run).1 = .ok outcome) ∨
      ∃ before last fault, executor.arrivals stack run = before ++ [last] ∧
        (last.visit executor).1 = .error fault ∧
        (executor.loop stack first run).1 = .error fault := by
  induction stack, first, run using loop.induct executor with
  | case1 first run =>
    rw [loop]
    exact .inl ⟨_, rfl⟩
  | case2 first run action depth rest cancelled =>
    rw [working] at cancelled
    cases cancelled
  | case3 first run action depth rest running fault next visited =>
    refine .inr ⟨[], ⟨action, depth, run⟩, fault, ?_, ?_, ?_⟩
    · rw [arrivals, if_neg running, visited]
      rfl
    · rw [Arrival.visit, visited]
    · rw [loop, if_neg running, visited]
  | case4 first run action depth rest running outcome next visited ih =>
    rw [arrivals_cons working visited] at goesOn ⊢
    rw [loop, if_neg running, visited]
    have here := goesOn _ List.mem_cons_self
    rw [Arrival.visit, visited] at here
    rcases ih here (fun arrival member => goesOn arrival (List.mem_cons_of_mem _ member)) with
      ended | ⟨before, last, fault, isLast, faulty, ended⟩
    · exact .inl ended
    · exact .inr ⟨_ :: before, last, fault, congrArg _ isLast, faulty, ended⟩

/-- A run with an outcome reaches all actions of its stack, and the children of every action that
lets it go on. -/
theorem reached_of_ok {stack : List Pending} {first : Option Outcome} {run : Run σ}
    {last : Outcome} (ended : (executor.loop stack first run).1 = .ok last) :
    (∀ pending ∈ stack, ∃ arrival ∈ executor.arrivals stack run,
      arrival.action = pending.1 ∧ arrival.depth = pending.2) ∧
    ∀ arrival ∈ executor.arrivals stack run, ∀ outcome,
      (arrival.visit executor).1 = .ok outcome -> outcome.descends = true ->
        ∀ child ∈ arrival.action.children, ∃ later ∈ executor.arrivals stack run,
          later.action = child ∧ later.depth = arrival.depth + 1 := by
  induction stack, first, run using loop.induct executor with
  | case1 first run =>
    rw [arrivals]
    exact ⟨fun pending none => absurd none List.not_mem_nil,
      fun arrival none => absurd none List.not_mem_nil⟩
  | case2 first run action depth rest cancelled =>
    rw [loop, if_pos cancelled] at ended
    cases ended
  | case3 first run action depth rest working fault next visited =>
    rw [loop, if_neg working, visited] at ended
    cases ended
  | case4 first run action depth rest working outcome next visited ih =>
    rw [loop, if_neg working, visited] at ended
    obtain ⟨waiting, below⟩ := ih ended
    rw [arrivals_cons (by simpa using working) visited]
    have soon : ∀ pending ∈ following outcome action depth ++ rest,
        ∃ arrival ∈ ⟨action, depth, run⟩ ::
          executor.arrivals (following outcome action depth ++ rest) next,
          arrival.action = pending.1 ∧ arrival.depth = pending.2 := by
      intro pending listed
      obtain ⟨arrival, member, found⟩ := waiting pending listed
      exact ⟨arrival, List.mem_cons_of_mem _ member, found⟩
    refine ⟨fun pending listed => ?_, fun arrival member answer answered goesOn child isChild => ?_⟩
    · rcases List.mem_cons.mp listed with rfl | later
      · exact ⟨_, List.mem_cons_self, rfl, rfl⟩
      · exact soon pending (List.mem_append_right _ later)
    · rcases List.mem_cons.mp member with rfl | later
      · rw [Arrival.visit, visited] at answered
        cases answered
        have listed : (child, depth + 1) ∈ following outcome action depth := by
          rw [following, if_pos goesOn]
          exact List.mem_map.mpr ⟨child, isChild, rfl⟩
        exact soon _ (List.mem_append_left _ listed)
      · obtain ⟨next, member, found⟩ := below arrival later answer answered goesOn child isChild
        exact ⟨next, List.mem_cons_of_mem _ member, found⟩

end Executor

end Outreach
