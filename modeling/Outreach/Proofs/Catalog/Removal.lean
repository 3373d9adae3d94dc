import Outreach.Proofs.Catalog.Replacement
import Outreach.Proofs.History.Occurrence

/-!
# What is found after an action has been taken out

A removal takes out what stands at one place: a tree, or the children with an id of one action. An
id may have several places in a catalog, and a removal always makes them one fewer
(`places_removeAction`). So an action is gone after its removal exactly if there was no second place
for its id, and only then a second removal changes nothing: `withdrawn`, `not_withdrawn`.
-/

namespace Outreach

namespace Action

/-- Whether an action with an id stands among some actions beside each other, counted as 0 or 1. -/
def standing (id : ActionId) (actions : List Action) : Nat :=
  if actions.any (fun action => action.id = id) then 1 else 0

/-- The number of places below an action at which actions with an id stand. The children of one
action are one place, and what is below an action with the id goes with it and does not count. -/
def placesOf (id : ActionId) : Action -> Nat
  | ⟨_, _, _, _, _, _, _, _, children⟩ => standing id children + placesBelow id children
where
  /-- The number of places below the actions of a list that have another id. -/
  placesBelow (id : ActionId) : List Action -> Nat
    | [] => 0
    | action :: rest => (if action.id = id then 0 else placesOf id action) + placesBelow id rest

/-- The number of places among and below some actions beside each other. -/
def placesAmong (id : ActionId) (actions : List Action) : Nat :=
  standing id actions + placesOf.placesBelow id actions

variable {id : ActionId}

section Counting

theorem placesOf_eq (tree : Action) : tree.placesOf id = placesAmong id tree.children := by
  cases tree
  rfl

theorem placesBelow_append (left right : List Action) :
    placesOf.placesBelow id (left ++ right) =
      placesOf.placesBelow id left + placesOf.placesBelow id right := by
  induction left with
  | nil => simp [placesOf.placesBelow]
  | cons action left ih =>
    rw [List.cons_append, placesOf.placesBelow, placesOf.placesBelow, ih]
    omega

theorem standing_of_apart {actions : List Action} (apart : ∀ action ∈ actions, action.id ≠ id) :
    standing id actions = 0 := by
  simpa [standing] using apart

/-- Without the actions with the id, a list is one place shorter at most: what is below the others
still counts. -/
theorem placesAmong_filter (actions : List Action) :
    placesAmong id (actions.filter (fun action => action.id ≠ id)) =
      placesOf.placesBelow id actions := by
  have apart : ∀ action ∈ actions.filter (fun action => action.id ≠ id), action.id ≠ id := by
    simp
  rw [placesAmong, standing_of_apart apart, Nat.zero_add]
  induction actions with
  | nil => rfl
  | cons action rest ih =>
    by_cases same : action.id = id
    · simpa [placesOf.placesBelow, same] using ih
    · simpa [placesOf.placesBelow, same] using ih

/-- Where one tree that has another id has one place fewer, all have one place fewer. -/
theorem placesAmong_of_fewer {tree changed : Action} (apart : tree.id ≠ id)
    (sameId : changed.id = tree.id) (fewer : tree.placesOf id = changed.placesOf id + 1)
    {before after : List Action} :
    placesAmong id (before ++ tree :: after) = placesAmong id (before ++ changed :: after) + 1 := by
  have stands : standing id (before ++ changed :: after) = standing id (before ++ tree :: after) :=
    by simp [standing, sameId]
  rw [placesAmong, placesAmong, stands, placesBelow_append, placesBelow_append,
    placesOf.placesBelow, placesOf.placesBelow, sameId, if_neg apart, if_neg apart, fewer]
  omega

mutual

/-- There is no place below an action exactly if none of its children has the id or is above it. -/
theorem placesOf_eq_zero_iff :
    forall tree : Action,
      tree.placesOf id = 0 ↔ ∀ child ∈ tree.children, child.find? id = none
  | ⟨_, _, _, _, _, _, _, _, children⟩ => by
    rw [placesOf_eq]
    exact placesAmong_eq_zero_iff children

/-- An id has no place among trees exactly if it is found in none of them. -/
theorem placesAmong_eq_zero_iff :
    forall actions : List Action,
      placesAmong id actions = 0 ↔ ∀ action ∈ actions, action.find? id = none
  | [] => by simp [placesAmong, standing, placesOf.placesBelow]
  | action :: rest => by
    have here := placesOf_eq_zero_iff action
    have later := placesAmong_eq_zero_iff rest
    unfold placesAmong standing at later ⊢
    rw [List.forall_mem_cons, ← later, find?_eq, placesOf.placesBelow]
    by_cases same : action.id = id
    · simp [same]
    · simp only [List.any_cons, same, decide_false, Bool.false_or, if_false,
        List.findSome?_eq_none_iff, ← here]
      omega

end

end Counting

section Removal

mutual

/-- There is no place below a tree to remove anything from, or the first one is removed. -/
theorem removeBelow?_cases :
    forall tree : Action,
      (removeBelow? id tree = none ∧ tree.placesOf id = 0) ∨
        ∃ changed, removeBelow? id tree = some changed ∧
          tree.placesOf id = changed.placesOf id + 1
  | ⟨own, parentId, projectId, kind, enabled, modifiedAt, name, options, children⟩ => by
    rw [removeBelow?]
    dsimp only
    split
    · rename_i stands
      refine .inr ⟨_, rfl, ?_⟩
      rw [placesOf_eq, placesOf_eq, placesAmong_filter, placesAmong, standing, if_pos stands]
      exact Nat.add_comm _ _
    · rename_i stands
      have apart : ∀ child ∈ children, child.id ≠ id := by simpa using stands
      rw [placesOf_eq, placesAmong, standing_of_apart apart, Nat.zero_add]
      rcases removeIn?_cases children apart with ⟨unchanged, none⟩ | ⟨others, changed, fewer, kept⟩
      · rw [unchanged]
        exact .inl ⟨rfl, none⟩
      · rw [changed]
        refine .inr ⟨_, rfl, ?_⟩
        rw [placesOf_eq, placesAmong, standing_of_apart kept, Nat.zero_add]
        exact fewer

/-- Among trees whose roots have other ids nothing is removed, or one place is. -/
theorem removeIn?_cases :
    forall actions : List Action, (∀ action ∈ actions, action.id ≠ id) ->
      (removeBelow?.removeIn? id actions = none ∧ placesOf.placesBelow id actions = 0) ∨
        ∃ changed, removeBelow?.removeIn? id actions = some changed ∧
          placesOf.placesBelow id actions = placesOf.placesBelow id changed + 1 ∧
          ∀ action ∈ changed, action.id ≠ id
  | [], _ => .inl ⟨rfl, rfl⟩
  | action :: rest, apart => by
    obtain ⟨here, later⟩ := List.forall_mem_cons.mp apart
    rw [removeBelow?.removeIn?, placesOf.placesBelow, if_neg here]
    rcases removeBelow?_cases action with ⟨unchanged, none⟩ | ⟨new, changed, fewer⟩
    · rw [unchanged]
      rcases removeIn?_cases rest later with ⟨unchanged, none'⟩ | ⟨others, changed, fewer, kept⟩
      · rw [unchanged, none, none']
        exact .inl ⟨rfl, rfl⟩
      · rw [changed]
        refine .inr ⟨action :: others, rfl, ?_, List.forall_mem_cons.mpr ⟨here, kept⟩⟩
        rw [placesOf.placesBelow, if_neg here, fewer]
        omega
    · rw [changed]
      have apart' : new.id ≠ id := by
        rw [id_of_removeBelow? changed]
        exact here
      refine .inr ⟨new :: rest, rfl, ?_, List.forall_mem_cons.mpr ⟨apart', later⟩⟩
      rw [placesOf.placesBelow, if_neg apart', fewer]
      omega

end

end Removal

end Action

namespace Catalog

variable {catalog : Catalog} {id : ActionId}

/-- The number of places at which actions with an id stand in the trees of a catalog. -/
def places (catalog : Catalog) (id : ActionId) : Nat :=
  Action.placesAmong id catalog.actions.values

section Places

/-- An action is not found exactly if it has no place in the catalog. -/
theorem action?_eq_none_iff : catalog.action? id = none ↔ catalog.places id = 0 := by
  rw [action?, List.findSome?_eq_none_iff, places, Action.placesAmong_eq_zero_iff]

/-- A catalog has no place for an id and stays as it is, or it has one fewer after a removal. -/
theorem removeAction_cases (rooted : catalog.Rooted) (id : ActionId) :
    (catalog.removeAction id = catalog ∧ catalog.places id = 0) ∨
      catalog.places id = (catalog.removeAction id).places id + 1 := by
  unfold removeAction
  by_cases isRoot : catalog.actions.contains id = true
  · have others : (catalog.actions.erase id).values =
        catalog.actions.values.filter (fun action => action.id ≠ id) := by
      rw [Keyed.values, Keyed.values, List.filter_map]
      apply congrArg (List.map Prod.snd)
      apply List.filter_congr
      intro entry listed
      simp [rooted entry listed]
    have stands : catalog.actions.values.any (fun action => action.id = id) = true := by
      obtain ⟨entry, listed, rfl⟩ := List.mem_map.mp (Keyed.contains_iff.mp isRoot)
      rw [List.any_eq_true]
      exact ⟨entry.2, List.mem_map_of_mem listed, by simpa using rooted entry listed⟩
    right
    rw [if_pos isRoot, places, places, others, Action.placesAmong_filter, Action.placesAmong,
      Action.standing, if_pos stands]
    exact Nat.add_comm _ _
  · have apart : ∀ entry ∈ catalog.actions.entries, entry.2.id ≠ id := by
      intro entry listed same
      apply isRoot
      rw [Keyed.contains_iff, ← same, rooted entry listed]
      exact List.mem_map_of_mem listed
    rw [if_neg isRoot]
    rcases changeTree?_cases catalog.actions (Action.removeBelow? id) with
      ⟨isUnchanged, unchanged⟩ |
        ⟨changed, before, key, root, new, after, isChanged, split, -, isNew, entries⟩
    · left
      rw [isUnchanged, ← action?_eq_none_iff, action?_eq, List.findSome?_eq_none_iff]
      refine ⟨rfl, fun entry listed => ?_⟩
      rw [Action.find?_eq, if_neg (apart entry listed), List.findSome?_eq_none_iff,
        ← Action.placesOf_eq_zero_iff]
      rcases Action.removeBelow?_cases entry.2 with ⟨-, none⟩ | ⟨_, isChanged, -⟩
      · exact none
      · cases (unchanged entry listed).symm.trans isChanged
    · right
      rw [isChanged]
      rcases Action.removeBelow?_cases root with ⟨unchanged, -⟩ | ⟨_, same, fewer⟩
      · cases unchanged.symm.trans isNew
      cases same.symm.trans isNew
      have here : root.id ≠ id := apart (key, root) (split ▸ List.mem_append_right _ (.head _))
      rw [places, places, Keyed.values, Keyed.values, split, entries, List.map_append,
        List.map_append, List.map_cons, List.map_cons]
      exact Action.placesAmong_of_fewer here (Action.id_of_removeBelow? isNew) fewer

/-- A removal leaves the catalog as it is exactly if the id has no place in it. -/
theorem removeAction_eq_self_iff (rooted : catalog.Rooted) :
    catalog.removeAction id = catalog ↔ catalog.places id = 0 := by
  constructor
  · intro same
    rcases removeAction_cases rooted id with ⟨-, none⟩ | fewer
    · exact none
    · rw [same] at fewer
      omega
  · intro none
    rcases removeAction_cases rooted id with ⟨same, -⟩ | fewer
    · exact same
    · omega

/-- A removal takes one place away. -/
theorem places_removeAction (rooted : catalog.Rooted) (id : ActionId) :
    (catalog.removeAction id).places id = catalog.places id - 1 := by
  rcases removeAction_cases rooted id with ⟨same, none⟩ | fewer
  · rw [same, none]
  · omega

end Places

/-- What starts from an action that the catalog does not have is passed over. -/
theorem resume_of_unknown (executor : Executor Rehearsal) (lifetime : Span) (snapshot : Snapshot)
    {shift : Shift Rehearsal} (projects : shift.world.faults.lookup .findProject = none)
    (actions : shift.world.faults.lookup .findAction = none)
    (unknown : shift.world.catalog.action? id = none) :
    executor.resume (Rehearsal.services lifetime) snapshot id shift = (.ok (), shift) := by
  obtain ⟨_, lookedUp, project⟩ :=
    Rehearsal.findProject_cases lifetime snapshot.projectId shift.world
  obtain ⟨_, found, action⟩ := Rehearsal.findAction_cases lifetime id shift.world
  rw [project projects] at lookedUp
  rw [action actions, unknown] at found
  rw [Executor.resume, lookedUp]
  cases shift.world.catalog.project? snapshot.projectId with
  | none => rfl
  | some project =>
    simp only [found]

/-- In every authored catalog a removal leaves an id one place fewer. So what has been removed is
found no more, is passed over if a continuation starts from it, and is not removed a second time,
exactly if there was no second place. -/
theorem withdrawn (authored : catalog.Authored) (id : ActionId) :
    let after := catalog.removeAction id
    after.places id = catalog.places id - 1 ∧
      (after.action? id = none ↔ catalog.places id <= 1) ∧
      (after.removeAction id = after ↔ catalog.places id <= 1) ∧
      (catalog.places id <= 1 ->
        forall (executor : Executor Rehearsal) (lifetime : Span) (snapshot : Snapshot)
            (shift : Shift Rehearsal),
          shift.world.catalog = after -> shift.world.faults.lookup .findProject = none ->
          shift.world.faults.lookup .findAction = none ->
            executor.resume (Rehearsal.services lifetime) snapshot id shift = (.ok (), shift)) := by
  intro after
  have fewer : after.places id = catalog.places id - 1 := places_removeAction authored.rooted id
  have unknown : after.action? id = none ↔ catalog.places id <= 1 := by
    rw [action?_eq_none_iff, fewer, Nat.sub_eq_zero_iff_le]
  refine ⟨fewer, unknown, ?_, ?_⟩
  · rw [removeAction_eq_self_iff (authored.remove id).rooted, fewer, Nat.sub_eq_zero_iff_le]
  · intro single executor lifetime snapshot shift same projects actions
    apply resume_of_unknown executor lifetime snapshot projects actions
    rw [same]
    exact unknown.mpr single

namespace Twofold

/-- Where the action 6 has been removed, a continuation of it that comes up later. -/
def shift : Shift Rehearsal :=
  ⟨.start .epoch (Twofold.catalog.removeAction 6), false⟩

def snapshot : Snapshot := (Context.start Sample.project 6).snapshot 6

end Twofold

/-- The only action 6 is gone once it has been removed, and what would continue there is passed
over. Of two actions 3 one is left. -/
theorem withdrawn_twofold :
    let after := Twofold.catalog.removeAction 6
    let executor : Executor Rehearsal := ⟨.standard (Rehearsal.services .zero), 5⟩
    Twofold.catalog.Authored ∧ Twofold.catalog.places 6 <= 1 ∧ after.action? 6 = none ∧
      after.removeAction 6 = after ∧
      executor.resume (Rehearsal.services .zero) Twofold.snapshot 6 Twofold.shift =
        (.ok (), Twofold.shift) ∧
      (Twofold.catalog.removeAction 3).places 3 = 1 := by
  intro after executor
  have single : Twofold.catalog.places 6 <= 1 := Nat.le_refl 1
  obtain ⟨-, unknown, unchanged, passedOver⟩ := withdrawn Twofold.authored 6
  obtain ⟨fewer, -⟩ := withdrawn Twofold.authored 3
  exact ⟨Twofold.authored, single, unknown.mpr single, unchanged.mpr single,
    passedOver single executor .zero Twofold.snapshot Twofold.shift rfl rfl rfl, fewer⟩

/-- Not every action is gone once it has been removed: there is another one with the id in the
second tree. -/
theorem not_withdrawn :
    ¬ forall (catalog : Catalog) (id : ActionId), catalog.Authored ->
        (catalog.removeAction id).action? id = none ∧
          (catalog.removeAction id).removeAction id = catalog.removeAction id := by
  intro law
  have gone := (law Twofold.catalog 3 Twofold.authored).1
  have left : (Twofold.catalog.removeAction 3).action? 3 = some Twofold.single := rfl
  cases left.symm.trans gone

end Catalog

end Outreach
