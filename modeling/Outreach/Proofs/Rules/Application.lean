import Mathlib.Data.List.Basic
import Mathlib.Logic.Function.Iterate
import Outreach.Rules.Matching

/-!
# What rules come to

Rules run one after the other, and each one meets an event that the rules before it have marked. No
condition looks at a mark, so every rule matches exactly if it matches the event as it came:
`foldl_applyNext`. What is left is one list of actions, those of the matching rules in their order,
and `foldl_applyTo` says what a list of actions makes of an event. The main results are `applied`,
what rules come to, and `reapplied`, that to apply them again changes nothing.
-/

namespace Outreach

namespace RuleAction

/-- The category that an action puts events into. -/
def category? : RuleAction -> Option CategoryId
  | .remove => none
  | .categorize category => some category

/-- The last category that actions put an event into before they first remove it. -/
def lastCategory? (actions : List RuleAction) : Option CategoryId :=
  ((actions.takeWhile (fun action => action ≠ .remove)).filterMap category?).getLast?

/-- An event with the marks of actions: it is deleted if it was so before or one of them removes it.
If it was not deleted before, it is in the category that they put it into last before that. -/
def outcome (actions : List RuleAction) (event : Event) : Event :=
  { event with
    deleted := event.deleted || decide (.remove ∈ actions)
    categoryId :=
      if event.deleted then event.categoryId else (lastCategory? actions).or event.categoryId }

@[simp]
theorem lastCategory?_nil : lastCategory? [] = none := rfl

@[simp]
theorem lastCategory?_remove (rest : List RuleAction) :
    lastCategory? (.remove :: rest) = none := rfl

@[simp]
theorem lastCategory?_categorize (category : CategoryId) (rest : List RuleAction) :
    lastCategory? (.categorize category :: rest) = (lastCategory? rest).or (some category) := by
  have kept : (RuleAction.categorize category :: rest).takeWhile (fun action => action ≠ .remove) =
      .categorize category :: rest.takeWhile (fun action => action ≠ .remove) := rfl
  have read : category? (.categorize category) = some category := rfl
  rw [lastCategory?, kept, List.filterMap_cons_some read, List.getLast?_cons, ← lastCategory?]
  cases lastCategory? rest <;> rfl

example : lastCategory? [.categorize 1, .categorize 2, .remove, .categorize 3] = some 2 := by decide

/-- Actions that are carried out one after the other come to their marks. -/
theorem foldl_applyTo (actions : List RuleAction) (event : Event) :
    actions.foldl (fun event action => action.applyTo event) event = outcome actions event := by
  induction actions generalizing event with
  | nil => simp [outcome]
  | cons action rest ih =>
    rw [List.foldl_cons, ih]
    cases action with
    | remove => simp [outcome, applyTo]
    | categorize category =>
      cases deleted : event.deleted with
      | true => simp [outcome, applyTo, deleted]
      | false => simp [outcome, applyTo, deleted]

theorem outcome_append (first second : List RuleAction) (event : Event) :
    outcome (first ++ second) event = outcome second (outcome first event) := by
  simp only [← foldl_applyTo, List.foldl_append]

/-- Marks that an event has already are left as they are. -/
theorem outcome_outcome (actions : List RuleAction) (event : Event) :
    outcome actions (outcome actions event) = outcome actions event := by
  cases deleted : event.deleted with
  | true => simp [outcome, deleted]
  | false =>
    by_cases removes : .remove ∈ actions
    · simp [outcome, deleted, removes]
    · simp [outcome, deleted, removes, ← Option.or_assoc]

end RuleAction

section Matching

/-- No condition looks at a mark. -/
@[simp]
theorem RuleCondition.holdsOf_outcome (condition : RuleCondition) (actions : List RuleAction)
    (event : Event) :
    condition.holdsOf (RuleAction.outcome actions event) = condition.holdsOf event := by
  obtain ⟨code, operand⟩ := condition
  cases code <;> rfl

@[simp]
theorem Rule.matches_outcome (rule : Rule) (actions : List RuleAction) (event : Event) :
    rule.matches (RuleAction.outcome actions event) = rule.matches event := by
  simp only [Rule.matches, RuleCondition.holdsOf_outcome]

end Matching

namespace Rule

/-- Whether a rule is enabled and all of its conditions hold of an event. -/
def hits (event : Event) (rule : Rule) : Bool := rule.enabled && rule.matches event

/-- The rules that have an id. -/
def withId (id : RuleId) (rules : List Rule) : List Rule := rules.filter (fun rule => rule.id = id)

/-- Rules in the order in which they are applied: their ids ascend, and rules with one id stand as
they are listed. -/
structure Sorted (rules sorted : List Rule) : Prop where
  ascending : sorted.Pairwise (fun left right => left.id <= right.id)
  stable : forall id, withId id sorted = withId id rules

section Order

theorem pairwise_inOrder (rules : List Rule) :
    (inOrder rules).Pairwise (fun left right => left.id <= right.id) := by
  have sorted : (inOrder rules).Pairwise
      (fun left right => decide (left.id <= right.id) = true) :=
    List.pairwise_mergeSort (fun first second third => by simpa using Int64.le_trans)
      (fun left right => by simpa using Int64.le_total left.id right.id) rules
  simpa using sorted

/-- Rules with one id stay in their order. -/
theorem withId_inOrder (rules : List Rule) (id : RuleId) :
    withId id (inOrder rules) = withId id rules := by
  have ascending : (withId id rules).Pairwise
      (fun left right => decide (left.id <= right.id) = true) := by
    refine List.Pairwise.imp_of_mem (fun {left right} isLeft isRight _ => ?_)
      (List.pairwise_of_forall (R := fun _ _ : Rule => True) (fun _ _ => trivial))
    have leftId : left.id = id := by simpa using (List.mem_filter.mp isLeft).2
    have rightId : right.id = id := by simpa using (List.mem_filter.mp isRight).2
    simp [leftId, rightId]
  have kept : (withId id rules).Sublist (inOrder rules) :=
    List.sublist_mergeSort (fun first second third => by simpa using Int64.le_trans)
      (fun left right => by simpa using Int64.le_total left.id right.id) ascending
      List.filter_sublist
  -- What is kept are rules with the id, and there are no more of them than before.
  have among : (withId id rules).Sublist (withId id (inOrder rules)) := by
    have filtered := kept.filter (fun rule => rule.id = id)
    simpa only [withId, List.filter_filter, Bool.and_self] using filtered
  refine (among.eq_of_length ?_).symm
  exact ((List.mergeSort_perm rules _).filter _).length_eq.symm

/-- The rules that a test accepts stand in the order of all rules. -/
theorem sorted_inOrder (accepts : Rule -> Bool) (rules : List Rule) :
    Sorted (rules.filter accepts) ((inOrder rules).filter accepts) where
  ascending := (pairwise_inOrder rules).filter accepts
  stable := fun id => by
    have same := withId_inOrder rules id
    unfold withId at same ⊢
    rw [List.filter_comm, same, List.filter_comm]

end Order

section Application

/-- One rule after the other: noted are those that match the event as it came, and their actions
are carried out in one go. -/
theorem foldl_applyNext (rules : List Rule) (noted : List RuleId) (event : Event) :
    rules.foldl applyNext (noted, event) =
      (noted ++ (rules.filter (fun rule => rule.matches event)).map Rule.id,
        RuleAction.outcome ((rules.filter (fun rule => rule.matches event)).flatMap Rule.actions)
          event) := by
  induction rules generalizing noted event with
  | nil => simp [RuleAction.outcome]
  | cons rule rest ih =>
    rw [List.foldl_cons]
    cases isMatch : rule.matches event with
    | true =>
      have next : applyNext (noted, event) rule =
          (noted ++ [rule.id], RuleAction.outcome rule.actions event) := by
        rw [applyNext, if_pos isMatch, RuleAction.foldl_applyTo]
      rw [next, ih]
      simp [isMatch, RuleAction.outcome_append]
    | false =>
      have next : applyNext (noted, event) rule = (noted, event) := by
        rw [applyNext, isMatch, if_neg Bool.false_ne_true]
      rw [next, ih]
      simp [isMatch]

/-- The rules of a list that hit an event, in the order in which they are applied. -/
def hitting (rules : List Rule) (event : Event) : List Rule := (inOrder rules).filter (hits event)

theorem hitting_outcome (rules : List Rule) (actions : List RuleAction) (event : Event) :
    hitting rules (RuleAction.outcome actions event) = hitting rules event := by
  have same : hits (RuleAction.outcome actions event) = hits event := by
    funext rule
    rw [hits, hits, matches_outcome]
  rw [hitting, hitting, same]

/-- What rules come to: the actions of the rules that hit the event. -/
theorem applyAll_eq (rules : List Rule) (event : Event) :
    applyAll rules event =
      let marked := RuleAction.outcome ((hitting rules event).flatMap Rule.actions) event
      (⟨(hitting rules event).map Rule.id, marked.deleted, marked.categoryId⟩, marked) := by
  have both : ((inOrder rules).filter Rule.enabled).filter (fun rule => rule.matches event) =
      hitting rules event := by
    rw [hitting, List.filter_filter]
    congr 1
    funext rule
    exact Bool.and_comm _ _
  simp only [applyAll, foldl_applyNext, both, List.nil_append]

end Application

/-- What rules come to. The rules that match are the enabled ones all of whose conditions hold of
the event as it came; they are noted in ascending order of their ids, and as they are listed where
ids are the same. The event is deleted if it was so before or one of them removes it. An event that
was deleted before keeps its category; any other is in the last category that their actions put it
into before the first of them that removes it. Nothing else is changed. -/
theorem applied (rules : List Rule) (event : Event) :
    ∃ matching, Sorted (rules.filter (hits event)) matching ∧
      let deleted := event.deleted || matching.any (fun rule => .remove ∈ rule.actions)
      let categoryId :=
        if event.deleted then event.categoryId
        else (RuleAction.lastCategory? (matching.flatMap Rule.actions)).or event.categoryId
      applyAll rules event =
        (⟨matching.map Rule.id, deleted, categoryId⟩, { event with deleted, categoryId }) := by
  refine ⟨hitting rules event, sorted_inOrder (hits event) rules, ?_⟩
  have removes : decide (RuleAction.remove ∈ (hitting rules event).flatMap Rule.actions) =
      (hitting rules event).any (fun rule => .remove ∈ rule.actions) := by
    rw [Bool.eq_iff_iff]
    simp
  simp only [applyAll_eq, RuleAction.outcome, removes]

/-- To apply rules again, however often, leaves the event as it is and comes to the same. -/
theorem reapplied (rules : List Rule) (event : Event) (times : Nat) :
    let marked := (applyAll rules event).2
    let again := (fun event => (applyAll rules event).2)^[times] marked
    again = marked ∧ applyAll rules again = applyAll rules event := by
  intro marked again
  have once : applyAll rules marked = applyAll rules event := by
    simp only [marked, applyAll_eq, hitting_outcome, RuleAction.outcome_outcome]
  have fixed : again = marked :=
    Function.iterate_fixed (congrArg Prod.snd once) times
  exact ⟨fixed, fixed ▸ once⟩

end Rule

end Outreach
