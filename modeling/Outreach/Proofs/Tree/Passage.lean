import Outreach.Proofs.Run.Performance
import Outreach.Proofs.Tree.Arrivals
import Outreach.Proofs.Tree.Validity
import Outreach.Proofs.Tree.Walk
import Outreach.Rehearsal.Basic
import Outreach.Rehearsal.Samples

/-!
# Runs of well-formed trees

A tree that has passed the check gives a run nothing to stumble over. The check and the run each
count the levels of the tree and read the options of its actions; `unhindered` says that they come
to the same: the actions that the run reaches are kept from their steps only if they are disabled,
their options say what their steps ask for, and in a run that nothing out of range breaks off every
enabled action to which all actions above it let the run go on is carried out exactly once. What can
be out of range is the instant at which a ticket expires, and the id of a new contact.
-/

namespace Outreach

variable {σ : Type}

/-- The actions above an action of a tree, the nearest first. -/
inductive Action.Under (tree : Action) : List Action -> Action -> Prop where
  | root : Under tree [] tree
  | child {above : List Action} {parent child : Action} (under : Under tree above parent)
      (isChild : child ∈ parent.children) : Under tree (parent :: above) child

namespace Executor

/-- The executor with the standard steps. -/
def equipped (services : Services σ) (maxDepth : Nat) : Executor σ := ⟨.standard services, maxDepth⟩

/-- The ids of the actions that a run hands to an activity, in their order. -/
def carriedOut (executor : Executor σ) (root : Action) (start : Run σ) : List ActionId :=
  ((executor.arrivals [(root, 0)] start).filter
    (fun arrival => (executor.barred arrival.action arrival.depth).isOk)).map
      (fun arrival => arrival.action.id)

/-- The run goes on to what is below an action. -/
def Passes (executor : Executor σ) (root : Action) (start : Run σ) (action : Action) : Prop :=
  ∃ arrival ∈ executor.arrivals [(root, 0)] start, arrival.action = action ∧
    ∃ outcome, (arrival.visit executor).1 = .ok outcome ∧ outcome.flow = .proceed

end Executor

/-- The action is an authentication, or a registration with no id left for the contact. -/
def Arrival.AtTheEnd (arrival : Arrival σ) (services : Services σ) : Prop :=
  arrival.action.kind = .authenticate ∨
    arrival.action.kind = .register ∧
      Steps.Exhausted services (Executor.entering arrival.run arrival.action).context
        arrival.run.world

/-- The run ends at an authentication whose ticket would expire at an instant out of range, or at a
registration with no id left for the contact. -/
def Executor.BreaksOff (services : Services σ) (maxDepth : Nat) (root : Action) (start : Run σ) :
    Prop :=
  ((equipped services maxDepth).execute root start).1 = .error .overflow ∧
    ∃ before last, (equipped services maxDepth).arrivals [(root, 0)] start = before ++ [last] ∧
      last.action.enabled = true ∧ last.AtTheEnd services ∧
      (last.visit (equipped services maxDepth)).1 = .error .overflow

/-- The action is handed to the step of its kind unless it is disabled: it is not too far down, and
there is an activity for its kind. -/
def Arrival.Admitted (arrival : Arrival σ) (services : Services σ) (maxDepth : Nat) : Prop :=
  (Executor.equipped services maxDepth).barred arrival.action arrival.depth =
    if arrival.action.enabled then .ok (Steps.forKind services arrival.action.kind).guarded
    else .error .failed

/-- The options of the action say a configuration of its kind, and its visit does what a step of the
kind does with a configuration. -/
def Arrival.Performed (arrival : Arrival σ) (services : Services σ) (maxDepth : Nat) : Prop :=
  ∃ configuration,
    let context := (Executor.entering arrival.run arrival.action).context
    let result := Steps.perform services configuration context arrival.run.world
    context.currentAction.configuration = .ok configuration ∧
      configuration.kind = arrival.action.kind ∧
      arrival.visit (Executor.equipped services maxDepth) =
        (Executor.absorb result.outcome, ⟨result.context, result.world, false⟩)

namespace Executor

/-- A run with nothing to stumble over in its tree. -/
structure Unhindered (services : Services σ) (maxDepth : Nat) (root : Action) (start : Run σ) :
    Prop where
  /-- No action that is reached is kept from its step for another reason than that it is
  disabled. -/
  admitted : ∀ arrival ∈ (equipped services maxDepth).arrivals [(root, 0)] start,
    arrival.Admitted services maxDepth
  /-- No step finds fault with the options of its action or meets a configuration of another
  kind. -/
  performed : ∀ arrival ∈ (equipped services maxDepth).arrivals [(root, 0)] start,
    arrival.action.enabled = true -> arrival.Performed services maxDepth
  /-- No action is carried out twice. -/
  atMostOnce : ((equipped services maxDepth).carriedOut root start).Nodup
  /-- The run has an outcome, or it breaks off. -/
  ended : (∃ outcome, ((equipped services maxDepth).execute root start).1 = .ok outcome) ∨
    BreaksOff services maxDepth root start
  /-- Unless it breaks off, the run carries out every enabled action that it is let go on to. -/
  exactlyOnce : ¬ BreaksOff services maxDepth root start ->
    forall above action, root.Under above action -> action.enabled = true ->
      (∀ ancestor ∈ above, (equipped services maxDepth).Passes root start ancestor) ->
        ((equipped services maxDepth).carriedOut root start).count action.id = 1

section Order

/-- A run reaches actions in the order in which the trees of its stack list them, and none twice. -/
theorem arrivals_sublist (executor : Executor σ) (stack : List Pending) (run : Run σ) :
    ((executor.arrivals stack run).map Arrival.action).Sublist
      (Action.preorder.preorders (stack.map Prod.fst)) := by
  fun_induction arrivals executor stack run with
  | case1 run => exact List.Sublist.slnil
  | case2 run action depth rest cancelled => exact List.nil_sublist _
  | case3 run action depth rest working ih =>
    rw [List.map_cons, List.map_cons, Action.preorder.preorders, Action.preorder_eq,
      List.cons_append]
    refine List.Sublist.cons_cons _ ?_
    cases visited : executor.visit action depth run with
    | mk answer next =>
      cases answer with
      | error fault => exact List.nil_sublist _
      | ok outcome =>
        refine (ih outcome next).trans ?_
        rw [List.map_append, Action.preorders_append]
        refine List.Sublist.append_right ?_ _
        unfold following
        split
        · rw [List.map_map]
          exact (List.map_id action.children).symm ▸ List.Sublist.refl _
        · exact List.nil_sublist _

end Order

/-- What ends a run without an outcome is a cancellation or something out of range. -/
theorem absorb_error {outcome : Except StepFault Outcome} {fault : RunFault}
    (faulty : absorb outcome = .error fault) :
    outcome = .error .cancelled ∨ outcome = .error .overflow ∧ fault = .overflow := by
  cases outcome with
  | ok outcome => cases faulty
  | error cause =>
    cases cause with
    | cancelled => exact .inl rfl
    | service cause => cases faulty
    | overflow =>
      cases faulty
      exact .inr ⟨rfl, rfl⟩

section Passage

variable {services : Services σ} {maxDepth : Nat} {root : Action} {start : Run σ}

/-- Every action that is reached stands in the tree, at the depth at which it is reached. -/
theorem holds_of_arrivals {executor : Executor σ} :
    ∀ arrival ∈ executor.arrivals [(root, 0)] start, root.Holds arrival.depth arrival.action :=
  known_of_arrivals (fun action depth => root.Holds depth action)
    (fun _ _ holds _ isChild => holds.child isChild)
    (List.forall_mem_singleton.mpr (.root root))

section Arriving

variable (formed : root.WellFormed maxDepth) {arrival : Arrival σ}
  (member : arrival ∈ (equipped services maxDepth).arrivals [(root, 0)] start)

include formed member

/-- Nothing but being disabled keeps an action of a well-formed tree from its step. -/
theorem admitted_of_wellFormed : arrival.Admitted services maxDepth := by
  unfold Arrival.Admitted
  have shallow := formed.shallow _ _ (holds_of_arrivals arrival member)
  cases enabled : arrival.action.enabled with
  | false => simp [barred, enabled]
  | true => exact barred_eq_ok_iff.mpr ⟨enabled, shallow, rfl⟩

/-- An enabled action of a well-formed tree is performed as it is configured. -/
theorem performed_of_wellFormed (enabled : arrival.action.enabled = true) :
    arrival.Performed services maxDepth := by
  have admitted := admitted_of_wellFormed formed member
  rw [Arrival.Admitted, if_pos enabled] at admitted
  obtain ⟨configuration, said⟩ := formed.configured _ _ (holds_of_arrivals arrival member)
  have isKind : configuration.kind = arrival.action.kind := Configuration.kind_of_parse said
  have found : (entering arrival.run arrival.action).context.currentAction.configuration =
      .ok configuration := said
  refine ⟨configuration, found, isKind, ?_⟩
  have running : (entering arrival.run arrival.action).cancelled = false :=
    working_of_mem_arrivals member
  have conduct := Steps.conduct_perform services found arrival.run.world
  rw [Arrival.visit, visit_of_barred admitted, Step.guarded_of_working _ running, ← isKind,
    Steps.forKind_eq_perform services found]
  exact congrArg (fun cancelled => (_, Run.mk _ _ cancelled)) conduct.goesOn

/-- No visit in a well-formed tree cancels the run. -/
theorem goesOn_of_wellFormed : (arrival.visit (equipped services maxDepth)).2.cancelled = false := by
  cases enabled : arrival.action.enabled with
  | true =>
    obtain ⟨configuration, -, -, visited⟩ := performed_of_wellFormed formed member enabled
    rw [visited]
  | false =>
    have admitted := admitted_of_wellFormed formed member
    rw [Arrival.Admitted, enabled, if_neg Bool.false_ne_true] at admitted
    rw [Arrival.visit, visit, admitted]
    exact working_of_mem_arrivals member

/-- The only faults of a visit are that of an authentication whose ticket would expire at an instant
out of range and that of a registration with no id left. -/
theorem overflow_of_wellFormed {fault : RunFault}
    (faulty : (arrival.visit (equipped services maxDepth)).1 = .error fault) :
    fault = .overflow ∧ arrival.action.enabled = true ∧ arrival.AtTheEnd services := by
  cases enabled : arrival.action.enabled with
  | true =>
    obtain ⟨configuration, said, isKind, visited⟩ :=
      performed_of_wellFormed formed member enabled
    rw [visited] at faulty
    have conduct := Steps.conduct_perform services said arrival.run.world
    rcases absorb_error faulty with cancelled | ⟨overflow, rfl⟩
    · exact absurd cancelled conduct.uncancelled
    · refine ⟨rfl, rfl, ?_⟩
      rw [Arrival.AtTheEnd, ← isKind]
      exact conduct.overflows overflow
  | false =>
    have admitted := admitted_of_wellFormed formed member
    rw [Arrival.Admitted, enabled, if_neg Bool.false_ne_true] at admitted
    rw [Arrival.visit, visit, admitted] at faulty
    cases faulty

end Arriving

/-- The actions that are carried out are some of those of the tree, in their order. -/
theorem carriedOut_sublist (executor : Executor σ) :
    (executor.carriedOut root start).Sublist root.ids := by
  have filtered : (executor.carriedOut root start).Sublist
      ((executor.arrivals [(root, 0)] start).map (fun arrival => arrival.action.id)) :=
    List.filter_sublist.map _
  have listed := (arrivals_sublist executor [(root, 0)] start).map Action.id
  rw [List.map_map, List.map_singleton, Action.preorder.preorders, Action.preorder.preorders,
    List.append_nil] at listed
  exact filtered.trans listed

/-- A run with an outcome reaches every action that it is let go on to. -/
theorem reached_of_under {executor : Executor σ} {last : Outcome}
    (ended : (executor.execute root start).1 = .ok last) {above : List Action} {action : Action}
    (under : root.Under above action)
    (passes : ∀ ancestor ∈ above, executor.Passes root start ancestor) :
    ∃ arrival ∈ executor.arrivals [(root, 0)] start, arrival.action = action := by
  obtain ⟨waiting, below⟩ := reached_of_ok ended
  cases under with
  | root =>
    obtain ⟨arrival, member, isRoot, -⟩ := waiting _ List.mem_cons_self
    exact ⟨arrival, member, isRoot⟩
  | child _ isChild =>
    obtain ⟨arrival, member, rfl, outcome, visited, goesOn⟩ := passes _ List.mem_cons_self
    obtain ⟨later, reached, isAction, -⟩ :=
      below arrival member outcome visited (decide_eq_true goesOn) _ isChild
    exact ⟨later, reached, isAction⟩

/-- A tree that has passed the check gives no run anything to stumble over. -/
theorem unhindered {count : Nat} (valid : root.validate maxDepth = .ok count)
    (working : start.cancelled = false) : Unhindered services maxDepth root start := by
  obtain ⟨formed, -⟩ := Action.wellFormed_of_validate valid
  have once : ((equipped services maxDepth).carriedOut root start).Nodup :=
    (carriedOut_sublist (equipped services maxDepth)).nodup formed.distinct
  have ended : (∃ outcome, ((equipped services maxDepth).execute root start).1 = .ok outcome) ∨
      BreaksOff services maxDepth root start := by
    rcases loop_ends none working (fun arrival => goesOn_of_wellFormed formed) with
      fine | ⟨before, last, fault, split, faulty, broken⟩
    · exact .inl fine
    · have member := split ▸ List.mem_append_right before (List.mem_singleton_self last)
      obtain ⟨rfl, enabled, atTheEnd⟩ := overflow_of_wellFormed formed member faulty
      exact .inr ⟨broken, before, last, split, enabled, atTheEnd, faulty⟩
  refine ⟨fun arrival => admitted_of_wellFormed formed,
    fun arrival => performed_of_wellFormed formed, once, ended, ?_⟩
  intro unbroken above action under enabled passes
  obtain ⟨last, fine⟩ := ended.resolve_right unbroken
  obtain ⟨arrival, member, rfl⟩ := reached_of_under fine under passes
  refine List.count_eq_one_of_mem once (List.mem_map.mpr ⟨arrival, ?_, rfl⟩)
  refine List.mem_filter.mpr ⟨member, ?_⟩
  have admitted := admitted_of_wellFormed formed member
  rw [Arrival.Admitted, if_pos enabled] at admitted
  rw [admitted]
  rfl

end Passage

namespace Greeting

/-- The visitor gets a ticket. -/
def ticket : Action := { Action.new 2 1 .authenticate "" .epoch with parentId := some 1 }

/-- What follows. -/
def next : Action := { Action.new 3 1 .control "" .epoch with parentId := some 1 }

def root : Action := { Action.new 1 1 .sequence "" .epoch with children := [ticket, next] }

theorem lastDay_inRange :
    Instant.firstDay <= Instant.lastDay ∧ Instant.lastDay <= Instant.lastDay := by decide

/-- The first instant that is counted, or midnight before the last day that has a date. -/
def instant (final : Bool) : Instant :=
  if final then { Instant.epoch with day := Instant.lastDay, day_inRange := lastDay_inRange }
  else .epoch

/-- The services with tickets that last for thirty days. -/
def services : Services Rehearsal := Rehearsal.services (.ofSeconds32 2592000)

/-- A run for a stored contact. -/
def start (final : Bool) : Run Rehearsal :=
  { context := { Context.start Sample.project 1 with
      contact := some { Sample.contact with id := some 1 } }
    world := Rehearsal.start (instant final) .empty
    cancelled := false }

/-- The run when the visitor is to get the ticket, and after that. -/
def opened (final : Bool) : Run Rehearsal := ((equipped services 5).visit root 0 (start final)).2

def greeted (final : Bool) : Run Rehearsal :=
  ((equipped services 5).visit ticket 1 (opened final)).2

theorem valid : root.validate 5 = .ok 3 := by rfl

theorem under : root.Under [root] next :=
  .child .root (List.mem_cons_of_mem _ (List.mem_singleton_self next))

theorem arrivals_start (final : Bool) :
    (equipped services 5).arrivals [(root, 0)] (start final) =
      ⟨root, 0, start final⟩ ::
        (equipped services 5).arrivals [(ticket, 1), (next, 1)] (opened final) := by
  have first : (equipped services 5).visit root 0 (start final) = (.ok .success, opened final) := rfl
  rw [arrivals_cons rfl first]
  rfl

theorem passes (final : Bool) :
    ∀ ancestor ∈ [root], (equipped services 5).Passes root (start final) ancestor := by
  refine List.forall_mem_singleton.mpr ⟨⟨root, 0, start final⟩, ?_, rfl, .success, rfl, rfl⟩
  rw [arrivals_start]
  exact List.mem_cons_self

theorem outcome : ((equipped services 5).execute root (start false)).1 = .ok .success := by
  rw [execute_eq_walk]
  rfl

/-- On the last day the run breaks off at the ticket. -/
theorem carriedOut_final : (equipped services 5).carriedOut root (start true) = [1, 2] := by
  have broken : (equipped services 5).visit ticket 1 (opened true) =
      (.error .overflow, greeted true) := rfl
  have working : ¬ (opened true).cancelled = true := Bool.false_ne_true
  rw [carriedOut, arrivals_start, arrivals, if_neg working, broken]
  rfl

end Greeting

open Greeting in
/-- In an ordinary run what follows the ticket is carried out once. -/
theorem unhindered_greeting :
    Unhindered services 5 root (start false) ∧
      ((equipped services 5).carriedOut root (start false)).count next.id = 1 := by
  have free : Unhindered services 5 root (start false) := unhindered valid rfl
  have unbroken : ¬ BreaksOff services 5 root (start false) := by
    rintro ⟨broken, -⟩
    rw [outcome] at broken
    cases broken
  exact ⟨free, free.exactlyOnce unbroken [root] next under rfl (passes false)⟩

open Greeting in
/-- Not every run carries out every enabled action that it is let go on to: a ticket that would
expire when there are no dates any more breaks it off. -/
theorem not_unhindered :
    ¬ forall (services : Services Rehearsal) (maxDepth count : Nat) (root : Action)
        (start : Run Rehearsal), root.validate maxDepth = .ok count -> start.cancelled = false ->
      forall above action, root.Under above action -> action.enabled = true ->
        (∀ ancestor ∈ above, (equipped services maxDepth).Passes root start ancestor) ->
          ((equipped services maxDepth).carriedOut root start).count action.id = 1 := by
  intro law
  have once := law services 5 3 root (start true) valid rfl [root] next under rfl (passes true)
  rw [carriedOut_final] at once
  revert once
  decide

end Executor

end Outreach
