import Outreach.Proofs.Tree.Passage

/-!
# What a run never reaches

Some actions never let a run go on to what is below them. Without what is below those, a tree lists
all that a run can reach (`arrivals_sublist_upTo`), and above an action that it lists there is none
of them (`under_of_mem_upTo`).
-/

namespace Outreach

variable {σ : Type}

namespace Action

/-- The actions of a tree, each before its children, without what is below an action that stops. -/
def upTo (stops : Action -> Bool) : Action -> List Action
  | ⟨id, parentId, projectId, kind, enabled, modifiedAt, name, options, children⟩ =>
    let action : Action :=
      ⟨id, parentId, projectId, kind, enabled, modifiedAt, name, options, children⟩
    action :: if stops action then [] else upTos stops children
where
  /-- The actions of a list of trees in the same way. -/
  upTos (stops : Action -> Bool) : List Action -> List Action
    | [] => []
    | action :: rest => upTo stops action ++ upTos stops rest

variable {stops : Action -> Bool}

/-- An action is listed, and what is below it unless it stops the listing. -/
theorem upTo_eq (action : Action) :
    action.upTo stops =
      action :: if stops action then [] else upTo.upTos stops action.children := by
  cases action
  rfl

theorem upTos_append (left right : List Action) :
    upTo.upTos stops (left ++ right) = upTo.upTos stops left ++ upTo.upTos stops right := by
  induction left with
  | nil => rfl
  | cons action left ih =>
    rw [List.cons_append, upTo.upTos, upTo.upTos, ih, List.append_assoc]

section Above

variable {root : Action}

mutual

/-- Above what is listed below an action there is none that stops if there is none above the
action. -/
theorem under_of_mem_upTo :
    forall (action : Action) {above : List Action}, root.Under above action ->
      (∀ ancestor ∈ above, stops ancestor = false) ->
      ∀ listed ∈ action.upTo stops, ∃ above, root.Under above listed ∧
        ∀ ancestor ∈ above, stops ancestor = false
  | ⟨id, parentId, projectId, kind, enabled, modifiedAt, name, options, children⟩, above, under,
      clear, listed, member => by
    rw [upTo] at member
    rcases List.mem_cons.mp member with rfl | below
    · exact ⟨above, under, clear⟩
    · split at below
      · cases below
      · rename_i passes
        refine under_of_mem_upTos children (fun child isChild => ⟨_, .child under isChild, ?_⟩)
          listed below
        exact List.forall_mem_cons.mpr ⟨Bool.eq_false_iff.mpr passes, clear⟩

/-- What is listed of trees under a root stands below actions that do not stop the listing. -/
theorem under_of_mem_upTos :
    forall actions : List Action,
      (∀ action ∈ actions, ∃ above, root.Under above action ∧
        ∀ ancestor ∈ above, stops ancestor = false) ->
      ∀ listed ∈ upTo.upTos stops actions, ∃ above, root.Under above listed ∧
        ∀ ancestor ∈ above, stops ancestor = false
  | [], _, listed, member => absurd member List.not_mem_nil
  | action :: rest, known, listed, member => by
    rcases List.mem_append.mp member with here | later
    · obtain ⟨above, under, clear⟩ := known action List.mem_cons_self
      exact under_of_mem_upTo action under clear listed here
    · exact under_of_mem_upTos rest (fun other isOther => known other (List.mem_cons_of_mem _ isOther))
        listed later

end

end Above

end Action

namespace Executor

/-- If no run goes on below an action that stops, runs reach only what is listed without that: in
the order of the list, and no place of the tree twice. -/
theorem arrivals_sublist_upTo {executor : Executor σ} (stops : Action -> Bool)
    {stack : List Pending} {run : Run σ}
    (stopped : ∀ arrival ∈ executor.arrivals stack run, stops arrival.action = true ->
      forall outcome, (arrival.visit executor).1 = .ok outcome -> outcome.descends = false) :
    ((executor.arrivals stack run).map Arrival.action).Sublist
      (Action.upTo.upTos stops (stack.map Prod.fst)) := by
  fun_induction arrivals executor stack run with
  | case1 run => exact List.Sublist.slnil
  | case2 run action depth rest cancelled => exact List.nil_sublist _
  | case3 run action depth rest working ih =>
    rw [List.map_cons, List.map_cons, Action.upTo.upTos, Action.upTo_eq, List.cons_append]
    refine List.Sublist.cons_cons _ ?_
    have here := stopped _ List.mem_cons_self
    have later := fun arrival below => stopped arrival (List.mem_cons_of_mem _ below)
    simp only [Arrival.visit] at here
    cases visited : executor.visit action depth run with
    | mk answer next =>
      rw [visited] at here later
      cases answer with
      | error fault => exact List.nil_sublist _
      | ok outcome =>
        refine (ih outcome next later).trans ?_
        rw [List.map_append, Action.upTos_append]
        refine List.Sublist.append_right ?_ _
        unfold following
        by_cases descends : outcome.descends = true
        · have goesOn : ¬ stops action = true := fun isStop =>
            Bool.false_ne_true ((here isStop outcome rfl).symm.trans descends)
          rw [if_pos descends, if_neg goesOn, List.map_map]
          exact (List.map_id action.children).symm ▸ List.Sublist.refl _
        · rw [if_neg descends]
          exact List.nil_sublist _

end Executor

end Outreach
