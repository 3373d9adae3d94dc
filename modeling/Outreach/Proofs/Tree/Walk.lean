import Outreach.Tree.Execution

/-!
# The stack and the walk

`Executor.loop` keeps the siblings of several levels on one stack; `Executor.walk` recurses over
the tree. `execute_eq_walk` joins the two for every registry and every run, whatever the
activities do to the context, to the surroundings and to the cancellation. The induction is over
the tree on top of the stack, with any stack below it.
-/

namespace Outreach.Executor

variable {σ : Type}

mutual

/-- A stack first walks the tree of the action on top of it, then goes on with what is below. -/
theorem loop_eq_walk (executor : Executor σ) :
    forall (action : Action) (depth : Nat) (rest : List Pending) (first : Option Outcome)
      (run : Run σ),
      executor.loop ((action, depth) :: rest) first run =
        match executor.walk depth run action with
        | (.error fault, run) => (.error fault, run)
        | (.ok outcome, run) => executor.loop rest (first.or (some outcome)) run
  | ⟨id, parentId, projectId, kind, enabled, modifiedAt, name, options, children⟩, depth, rest,
      first, run => by
    rw [loop, walk]
    by_cases cancelled : run.cancelled
    · simp only [cancelled, if_true]
    · simp only [cancelled, if_false, Bool.false_eq_true]
      obtain ⟨answer, after⟩ := executor.visit
        ⟨id, parentId, projectId, kind, enabled, modifiedAt, name, options, children⟩ depth run
      cases answer with
      | error fault => rfl
      | ok outcome =>
        unfold following
        by_cases descends : outcome.descends
        · simp only [descends, if_true]
          have held : (first.or (some outcome)).isSome := by cases first <;> rfl
          rw [loop_eq_walks executor children (depth + 1) rest _ after held]
          obtain ⟨answer, after⟩ := walk.walks executor (depth + 1) after children
          cases answer <;> rfl
        · simp only [descends, if_false, Bool.false_eq_true, List.nil_append]

/-- A stack first walks the trees of the children on top of it. An outcome is held by then: that
of the action they are the children of, or an earlier one. -/
theorem loop_eq_walks (executor : Executor σ) :
    forall (children : List Action) (depth : Nat) (rest : List Pending) (first : Option Outcome)
      (run : Run σ), first.isSome ->
      executor.loop (children.map (fun child => (child, depth)) ++ rest) first run =
        match walk.walks executor depth run children with
        | (.error fault, run) => (.error fault, run)
        | (.ok (), run) => executor.loop rest first run
  | [], depth, rest, first, run, _ => rfl
  | child :: children, depth, rest, first, run, held => by
    rw [List.map_cons, List.cons_append, loop_eq_walk executor child, walk.walks]
    obtain ⟨answer, after⟩ := executor.walk depth run child
    cases answer with
    | error fault => rfl
    | ok outcome =>
      have kept : first.or (some outcome) = first := by
        obtain ⟨kept, rfl⟩ := Option.isSome_iff_exists.mp held
        rfl
      simp only [kept]
      exact loop_eq_walks executor children depth rest first after held

end

/-- Carrying out a tree with the stack is walking it. -/
theorem execute_eq_walk (executor : Executor σ) (root : Action) (run : Run σ) :
    executor.execute root run = executor.walk 0 run root := by
  rw [execute, loop_eq_walk]
  obtain ⟨answer, after⟩ := executor.walk 0 run root
  cases answer with
  | error fault => rfl
  | ok outcome => simp [loop]

end Outreach.Executor
