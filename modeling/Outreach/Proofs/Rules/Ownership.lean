import Mathlib.Data.List.Nodup
import Outreach.Proofs.Rules.Application
import Outreach.Rehearsal.Basic

/-!
# Whose rules count

An event is judged by the enabled rules of its owner. `undisturbed` says that nothing else about the
stored rules makes a difference: not the rules of others, not the disabled ones, and not the order
in which rules were added. The rules at a desk are exchanged for others, and every request that the
recording of an event makes is answered as before: `create_withRules`.
-/

namespace Outreach

namespace Rule

/-- Enabled rules with different ids are applied in one order, however they are listed. -/
theorem enabled_inOrder_congr {left right : List Rule}
    (same : (left.filter Rule.enabled).Perm (right.filter Rule.enabled))
    (distinct : ((left.filter Rule.enabled).map Rule.id).Nodup) :
    (inOrder left).filter Rule.enabled = (inOrder right).filter Rule.enabled := by
  have listed : forall rules : List Rule,
      ((inOrder rules).filter Rule.enabled).Perm (rules.filter Rule.enabled) := fun rules =>
    (List.mergeSort_perm rules _).filter _
  refine List.Perm.eq_of_pairwise (fun first second isFirst isSecond below above => ?_)
    ((pairwise_inOrder left).filter _) ((pairwise_inOrder right).filter _)
    ((listed left).trans (same.trans (listed right).symm))
  have firstMember := (listed left).mem_iff.mp isFirst
  have secondMember := same.mem_iff.mpr ((listed right).mem_iff.mp isSecond)
  exact List.inj_on_of_nodup_map distinct firstMember secondMember
    (Int64.le_antisymm below above)

/-- Lists with the same enabled rules come to the same. -/
theorem applyAll_congr {left right : List Rule}
    (same : (left.filter Rule.enabled).Perm (right.filter Rule.enabled))
    (distinct : ((left.filter Rule.enabled).map Rule.id).Nodup) (event : Event) :
    applyAll left event = applyAll right event := by
  simp only [applyAll, enabled_inOrder_congr same distinct]

end Rule

/-- The enabled rules of an owner. -/
def RuleStore.enabledFor (store : RuleStore) (owner : UserId) : List Rule :=
  store.rules.filter (fun rule => rule.ownerId = owner ∧ rule.enabled = true)

theorem RuleStore.enabledFor_eq (store : RuleStore) (owner : UserId) :
    store.enabledFor owner = (store.rulesFor owner).filter Rule.enabled := by
  rw [enabledFor, rulesFor, List.filter_filter]
  congr 1
  funext rule
  simp [Bool.and_comm]

namespace RuledEvents

/-- A desk with other rules. -/
def withRules (rules : RuleStore) (desk : RuledEvents) : RuledEvents := { desk with rules }

/-- What a desk replies if it has other rules afterwards. -/
def exchange {α : Type} (rules : RuleStore) (reply : Reply RuledEvents α) : Reply RuledEvents α :=
  (reply.1, reply.2.withRules rules)

section Exchange

variable (rules : RuleStore) (desk : RuledEvents)

/-- Events are stored whatever the rules are. -/
theorem insert_withRules (event : Event) :
    storage.insert event (desk.withRules rules) = exchange rules (storage.insert event desk) := by
  simp only [storage, RuledEvents.insert, Faults.answer, withRules]
  split
  · rfl
  · split <;> rfl

theorem update_withRules (request : Request) (change : EventStore -> Reply EventStore Unit) :
    (desk.withRules rules).update request change = exchange rules (desk.update request change) := by
  simp only [RuledEvents.update, Faults.answer, withRules]
  split <;> rfl

theorem settle_withRules (id : EventId) (before : Option CategoryId) (outcome : RuleOutcome) :
    EventLog.settle storage id before outcome (desk.withRules rules) =
      exchange rules (EventLog.settle storage id before outcome desk) := by
  unfold EventLog.settle
  split
  · exact update_withRules rules desk .removeEvent (fun events => events.remove id)
  · split
    · rename_i category _
      split
      · rfl
      · exact update_withRules rules desk .setCategory
          (fun events => events.setCategory id category)
    · rfl

/-- An event is stored as one of its owner, and no rule is touched. -/
theorem insert_keeps {event stored : Event} {after : RuledEvents}
    (inserted : storage.insert event desk = (.ok stored, after)) :
    stored.ownerId = event.ownerId ∧ after.rules = desk.rules := by
  simp only [storage, RuledEvents.insert, Faults.answer] at inserted
  split at inserted
  · cases inserted
    exact ⟨rfl, rfl⟩
  · split at inserted
    · cases inserted
    · cases inserted
      exact ⟨rfl, rfl⟩

variable {owner : UserId}

/-- An event is judged alike by rules that come to the same. -/
theorem judge_withRules
    (same : forall event, Rule.applyAll (rules.rulesFor owner) event =
      Rule.applyAll (desk.rules.rulesFor owner) event) (id : EventId) (stored : Event) :
    EventLog.judge storage owner id stored (desk.withRules rules) =
      exchange rules (EventLog.judge storage owner id stored desk) := by
  simp only [EventLog.judge, storage, Faults.answer, withRules]
  cases desk.faults.lookup .rulesFor with
  | some cause => rfl
  | none =>
    simp only [same]
    exact settle_withRules rules desk id _ _

/-- An event is recorded alike with rules that come to the same for its owner. -/
theorem create_withRules
    (same : forall event, Rule.applyAll (rules.rulesFor owner) event =
      Rule.applyAll (desk.rules.rulesFor owner) event) {event : Event}
    (owned : event.ownerId = some owner) :
    EventLog.create storage event (desk.withRules rules) =
      exchange rules (EventLog.create storage event desk) := by
  unfold EventLog.create
  split
  · rfl
  · rw [insert_withRules]
    simp only [owned]
    cases inserted : storage.insert event desk with
    | mk answer after =>
      cases answer with
      | error cause => rfl
      | ok stored =>
        obtain ⟨ownerKept, rulesKept⟩ := insert_keeps desk inserted
        have kept : stored.ownerId = some owner := ownerKept.trans owned
        cases numbered : stored.id with
        | none => simp only [exchange, numbered, kept]
        | some id =>
          have judged : EventLog.judge storage owner id stored (after.withRules rules) =
              exchange rules (EventLog.judge storage owner id stored after) :=
            judge_withRules rules after (rulesKept ▸ same) id stored
          simp only [exchange, numbered, kept, judged]
          cases EventLog.judge storage owner id stored after with
          | mk answer judgedDesk => cases answer <;> rfl

end Exchange

end RuledEvents

namespace RuleStore

open RuledEvents EventLog

/-- Of all the rules in a store the enabled ones of an event's owner alone decide what becomes of
it, in whatever order they were added: two stores that have them in common judge it alike, and with
either the recording of it answers the same and leaves the same events. -/
theorem undisturbed {left right : RuleStore} {owner : UserId} {event : Event}
    (owned : event.ownerId = some owner)
    (same : (left.enabledFor owner).Perm (right.enabledFor owner))
    (distinct : ((left.enabledFor owner).map Rule.id).Nodup) :
    (∃ judged, left.judge event = .ok judged ∧ right.judge event = .ok judged) ∧
      forall (events : EventStore) (faults : Faults),
        let first := create storage event ⟨events, left, faults⟩
        let second := create storage event ⟨events, right, faults⟩
        first.1 = second.1 ∧ first.2.events = second.2.events := by
  have alike : forall event, Rule.applyAll (right.rulesFor owner) event =
      Rule.applyAll (left.rulesFor owner) event := by
    rw [enabledFor_eq] at same distinct
    rw [enabledFor_eq] at same
    exact fun event => (Rule.applyAll_congr same distinct event).symm
  constructor
  · refine ⟨Rule.applyAll (left.rulesFor owner) event, ?_, ?_⟩
    · rw [judge, owned]
    · rw [judge, owned, ← alike]
  · intro events faults first second
    have exchanged : second = exchange right first :=
      create_withRules right ⟨events, left, faults⟩ alike owned
    rw [exchanged]
    exact ⟨rfl, rfl⟩

/-- A rule that puts every event of a user into a category. -/
def categorizing (id : RuleId) (category : CategoryId) : Rule :=
  (Rule.new id "owner-1" "every event").andThen (.categorize category)

/-- Two rules of the user, and one of somebody else that removes every event. -/
def shared : RuleStore :=
  ⟨[categorizing 7 70, (Rule.new 5 "owner-2" "drop").andThen .remove, categorizing 3 30]⟩

/-- The two rules of the user the other way round, and a disabled one that has the id of one of
them. -/
def rearranged : RuleStore :=
  ⟨[{ (Rule.new 7 "owner-1" "drop").andThen .remove with enabled := false }, categorizing 3 30,
    categorizing 7 70]⟩

/-- An event of the user. -/
def visit : Event :=
  { Event.blank with ownerId := some "owner-1", projectId := some 1, name := some "visit" }

theorem undisturbed_visit :
    (shared.enabledFor "owner-1").Perm (rearranged.enabledFor "owner-1") ∧
      ((shared.enabledFor "owner-1").map Rule.id).Nodup ∧
      (∃ judged, shared.judge visit = .ok judged ∧ rearranged.judge visit = .ok judged) ∧
      forall (events : EventStore) (faults : Faults),
        let first := create storage visit ⟨events, shared, faults⟩
        let second := create storage visit ⟨events, rearranged, faults⟩
        first.1 = second.1 ∧ first.2.events = second.2.events := by
  have same : (shared.enabledFor "owner-1").Perm (rearranged.enabledFor "owner-1") := by
    decide +kernel
  have distinct : ((shared.enabledFor "owner-1").map Rule.id).Nodup := by decide +kernel
  exact ⟨same, distinct, undisturbed rfl same distinct⟩

end RuleStore

end Outreach
