import Outreach.Proofs.Rules.Application
import Outreach.Rules.Store

/-!
# What rules mark

Rules mark an event as deleted or put it into a category, and do nothing else to it. They are
applied to a copy of a stored event; `RuleOutcome.mark` does to the stored event what their outcome
says.
-/

namespace Outreach

/-- The event that an outcome leaves in the store: a removed one keeps the category that it was
stored with. -/
def RuleOutcome.mark (outcome : RuleOutcome) (event : Event) : Event :=
  if outcome.removed then { event with deleted := true }
  else { event with categoryId := outcome.categoryId }

/-- The event that is in the store after the storage has been asked for what an outcome changed, if
the caller's copy was in the category `before`. -/
def RuleOutcome.patch (outcome : RuleOutcome) (before : Option CategoryId) (held : Event) : Event :=
  if outcome.removed then { held with deleted := true }
  else
    match outcome.categoryId with
    | some category => if some category = before then held else { held with categoryId := category }
    | none => held

/-- A stored event after the rules of its owner. -/
def RuleStore.mark (store : RuleStore) (event : Event) : Event :=
  match event.ownerId with
  | some owner => (Rule.applyAll (store.rulesFor owner) event).1.mark event
  | none => event

@[simp]
theorem RuleOutcome.mark_id (outcome : RuleOutcome) (event : Event) :
    (outcome.mark event).id = event.id := by
  unfold mark
  split <;> rfl

@[simp]
theorem RuleOutcome.mark_correlationUri (outcome : RuleOutcome) (event : Event) :
    (outcome.mark event).correlationUri = event.correlationUri := by
  unfold mark
  split <;> rfl

@[simp]
theorem RuleStore.mark_id (store : RuleStore) (event : Event) :
    (store.mark event).id = event.id := by
  unfold mark
  split
  · exact RuleOutcome.mark_id _ event
  · rfl

@[simp]
theorem RuleStore.mark_correlationUri (store : RuleStore) (event : Event) :
    (store.mark event).correlationUri = event.correlationUri := by
  unfold mark
  split
  · exact RuleOutcome.mark_correlationUri _ event
  · rfl

namespace Rule

/-- No rule takes a deletion back. -/
theorem deleted_applyAll (rules : List Rule) {event : Event} (deleted : event.deleted = true) :
    (applyAll rules event).2.deleted = true := by
  simp [applyAll_eq, RuleAction.outcome, deleted]

/-- No rule takes an event out of all categories. -/
theorem isSome_categoryId_applyAll (rules : List Rule) {event : Event}
    (categorized : event.categoryId.isSome = true) :
    (applyAll rules event).2.categoryId.isSome = true := by
  rw [applyAll_eq]
  cases deleted : event.deleted <;> simp [RuleAction.outcome, deleted, categorized]

/-- An event that rules leave alive was not deleted before. -/
theorem alive_of_not_removed {rules : List Rule} {event : Event}
    (alive : (applyAll rules event).1.removed = false) : event.deleted = false := by
  cases deleted : event.deleted with
  | false => rfl
  | true => exact (deleted_applyAll rules deleted).symm.trans alive

/-- An event that rules leave without a category had none before. -/
theorem uncategorized_of_applyAll {rules : List Rule} {event : Event}
    (uncategorized : (applyAll rules event).1.categoryId = none) : event.categoryId = none := by
  cases categorized : event.categoryId with
  | none => rfl
  | some category =>
    have some : event.categoryId.isSome = true := by rw [categorized]; rfl
    have kept : (applyAll rules event).1.categoryId.isSome = true :=
      isSome_categoryId_applyAll rules some
    rw [uncategorized] at kept
    cases kept

/-- What rules did to a copy of an event is what the storage does to the event. -/
theorem patch_applyAll (rules : List Rule) (event : Event) :
    (applyAll rules event).1.patch event.categoryId event = (applyAll rules event).1.mark event := by
  unfold RuleOutcome.patch RuleOutcome.mark
  split
  · rfl
  · split
    · rename_i category isCategory
      rw [isCategory]
      split
      · rename_i same
        rw [same]
      · rfl
    · rename_i uncategorized
      rw [uncategorized, ← uncategorized_of_applyAll uncategorized]

/-- An event that rules did not remove is alive, in the category that they left it in. -/
theorem mark_applyAll (rules : List Rule) (event : Event) :
    (applyAll rules event).1.mark event =
      if (applyAll rules event).1.removed then { event with deleted := true }
      else { event with categoryId := (applyAll rules event).1.categoryId, deleted := false } := by
  unfold RuleOutcome.mark
  cases removed : (applyAll rules event).1.removed with
  | true => rfl
  | false =>
    simp only [Bool.false_eq_true, if_false]
    rw [alive_of_not_removed removed]

end Rule

end Outreach
