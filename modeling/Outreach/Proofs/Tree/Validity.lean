import Mathlib.Data.List.Nodup
import Outreach.Tree.Validation

/-!
# Well-formed trees

The check of a tree goes from action to action and takes along the ids it has seen. `WellFormed`
says what it looks for without any order: for every action of the tree, at whatever depth it stands.
`check_eq_ok_iff` joins the two for any ids seen before, by induction on the tree, and
`validate_eq_ok_iff` is the case of a whole tree.
-/

namespace Outreach.Action

/-- The ids of a tree, in preorder. -/
def ids (action : Action) : List ActionId := action.preorder.map Action.id

/-- An action stands in a tree, so many levels below the root. -/
inductive Holds : Action -> Nat -> Action -> Prop where
  | root (tree : Action) : Holds tree 0 tree
  | deeper {tree child action : Action} {depth : Nat} (isChild : child ∈ tree.children)
      (within : Holds child depth action) : Holds tree (depth + 1) action

/-- Every action of a tree is in order. -/
structure WellFormed (tree : Action) (maxDepth : Nat) : Prop where
  /-- No two actions have one id. -/
  distinct : tree.ids.Nodup
  /-- Every child names the action that holds it as its parent. -/
  linked : forall depth action, tree.Holds depth action ->
    ∀ child ∈ action.children, child.parentId = some action.id
  /-- Every action belongs to the project of the root. -/
  together : forall depth action, tree.Holds depth action -> action.projectId = tree.projectId
  /-- The options of every action say a configuration. -/
  configured : forall depth action, tree.Holds depth action ->
    ∃ configuration, action.configuration = .ok configuration
  /-- No action is too far below the root. -/
  shallow : forall depth action, tree.Holds depth action -> depth <= maxDepth

section Order

theorem preorder_eq (action : Action) :
    action.preorder = action :: preorder.preorders action.children := by
  cases action
  rfl

theorem preorders_append (left right : List Action) :
    preorder.preorders (left ++ right) = preorder.preorders left ++ preorder.preorders right := by
  induction left with
  | nil => rfl
  | cons action left ih =>
    rw [List.cons_append, preorder.preorders, preorder.preorders, ih, List.append_assoc]

end Order

section Holding

/-- What is below an action that a tree holds is held one level further down. -/
theorem Holds.child {tree action child : Action} {depth : Nat} (holds : tree.Holds depth action)
    (isChild : child ∈ action.children) : tree.Holds (depth + 1) child := by
  induction holds with
  | root tree => exact .deeper isChild (.root child)
  | deeper above _ ih => exact .deeper above (ih isChild)

theorem mem_preorder (action tree : Action) :
    action ∈ tree.preorder ↔ action = tree ∨ action ∈ preorder.preorders tree.children := by
  cases tree
  exact List.mem_cons

theorem mem_preorders {action : Action} {actions : List Action} :
    action ∈ preorder.preorders actions ↔ ∃ tree ∈ actions, action ∈ tree.preorder := by
  induction actions with
  | nil => simp [preorder.preorders]
  | cons first rest ih => simp [preorder.preorders, ih]

/-- A tree holds its root. -/
theorem self_mem_preorder (tree : Action) : tree ∈ tree.preorder :=
  (mem_preorder tree tree).mpr (.inl rfl)

theorem Holds.mem_preorder {tree action : Action} {depth : Nat} (holds : tree.Holds depth action) :
    action ∈ tree.preorder := by
  induction holds with
  | root tree => exact tree.self_mem_preorder
  | deeper isChild _ ih =>
    exact (Action.mem_preorder _ _).mpr (.inr (mem_preorders.mpr ⟨_, isChild, ih⟩))

mutual

/-- The preorder of a tree lists the actions that it holds. -/
theorem holds_of_mem_preorder {action : Action} :
    forall tree : Action, action ∈ tree.preorder -> ∃ depth, tree.Holds depth action
  | ⟨id, parentId, projectId, kind, enabled, modifiedAt, name, options, children⟩, member => by
    rcases List.mem_cons.mp member with rfl | deeper
    · exact ⟨0, .root _⟩
    · obtain ⟨child, isChild, depth, within⟩ := holds_of_mem_preorders children deeper
      exact ⟨depth + 1, .deeper isChild within⟩

theorem holds_of_mem_preorders {action : Action} :
    forall actions : List Action, action ∈ preorder.preorders actions ->
      ∃ tree ∈ actions, ∃ depth, tree.Holds depth action
  | [], listed => absurd listed List.not_mem_nil
  | first :: rest, member => by
    rw [preorder.preorders, List.mem_append] at member
    rcases member with here | later
    · exact ⟨first, List.mem_cons_self, holds_of_mem_preorder first here⟩
    · obtain ⟨tree, listed, held⟩ := holds_of_mem_preorders rest later
      exact ⟨tree, List.mem_cons_of_mem _ listed, held⟩

end

/-- A tree holds what is below an action that it holds. -/
theorem child_mem_preorder {action child : Action} (below : child ∈ action.children) (tree : Action)
    (member : action ∈ tree.preorder) : child ∈ tree.preorder := by
  obtain ⟨depth, holds⟩ := holds_of_mem_preorder tree member
  exact (holds.child below).mem_preorder

end Holding

section Checking

variable {project : ProjectId} {maxDepth depth : Nat} {seen : List ActionId}

/-- What the check asks of an action at a depth, apart from its id. -/
structure Fits (project : ProjectId) (maxDepth depth : Nat) (action : Action) : Prop where
  shallow : depth <= maxDepth
  together : action.projectId = project
  configured : ∃ configuration, action.configuration = .ok configuration
  linked : ∀ child ∈ action.children, child.parentId = some action.id

/-- Every action of a tree fits, if the root of the tree stands at a depth. -/
def AllFit (project : ProjectId) (maxDepth depth : Nat) (tree : Action) : Prop :=
  forall below action, tree.Holds below action -> action.Fits project maxDepth (depth + below)

/-- Ids that are new, with no repetition among them. -/
def Unseen (seen ids : List ActionId) : Prop := ids.Nodup ∧ ids.Disjoint seen

theorem unseen_cons {id : ActionId} {ids : List ActionId} :
    Unseen seen (id :: ids) ↔ id ∉ seen ∧ Unseen (id :: seen) ids := by
  unfold Unseen
  rw [List.nodup_cons, List.disjoint_cons_left, List.disjoint_cons_right]
  tauto

/-- Ids are new if the first of them are and the rest are new after them. -/
theorem unseen_append {first rest : List ActionId} :
    Unseen seen (first ++ rest) ↔ Unseen seen first ∧ Unseen (first.reverse ++ seen) rest := by
  have apart : rest.Disjoint first.reverse ↔ first.Disjoint rest := by
    rw [List.disjoint_comm]
    exact List.disjoint_reverse_left
  unfold Unseen
  rw [List.nodup_append', List.disjoint_append_left, List.disjoint_append_right, apart]
  tauto

/-- An action has no fault of its own if its id is new, it is not too deep, it belongs to the
project and its configuration can be read. -/
theorem ownFault?_eq_none_iff {action : Action} :
    action.ownFault? project maxDepth seen depth = none ↔
      action.id ∉ seen ∧ depth <= maxDepth ∧ action.projectId = project ∧
        ∃ configuration, action.configuration = .ok configuration := by
  unfold ownFault?
  by_cases known : action.id ∈ seen
  · simp [known]
  · by_cases deep : maxDepth < depth
    · simp [known, deep, Nat.not_le.mpr deep]
    · by_cases foreign : action.projectId = project
      · cases action.configuration with
        | error cause => simp [known, deep, foreign]
        | ok configuration => simp [known, deep, foreign, Nat.not_lt.mp deep]
      · simp [known, deep, foreign]

/-- No link below an action is broken if all its children name it as their parent. -/
theorem brokenLink?_eq_none_iff {action : Action} :
    action.brokenLink? = none ↔ ∀ child ∈ action.children, child.parentId = some action.id := by
  simp [brokenLink?]

/-- Nothing is wrong with an action itself exactly if its id is new and it fits. -/
theorem faultless_iff (project : ProjectId) (maxDepth depth : Nat) (seen : List ActionId)
    (action : Action) :
    action.ownFault? project maxDepth seen depth = none ∧ action.brokenLink? = none ↔
      action.id ∉ seen ∧ action.Fits project maxDepth depth := by
  rw [ownFault?_eq_none_iff, brokenLink?_eq_none_iff]
  constructor
  · rintro ⟨⟨fresh, shallow, together, configured⟩, linked⟩
    exact ⟨fresh, shallow, together, configured, linked⟩
  · rintro ⟨fresh, shallow, together, configured, linked⟩
    exact ⟨⟨fresh, shallow, together, configured⟩, linked⟩

theorem allFit_iff {tree : Action} :
    tree.AllFit project maxDepth depth ↔
      tree.Fits project maxDepth depth ∧
        ∀ child ∈ tree.children, child.AllFit project maxDepth (depth + 1) := by
  constructor
  · intro fit
    refine ⟨fit 0 tree (.root tree), fun child isChild below action within => ?_⟩
    rw [Nat.add_right_comm]
    exact fit (below + 1) action (.deeper isChild within)
  · rintro ⟨here, later⟩ below action holds
    cases holds with
    | root => exact here
    | deeper isChild within =>
      have held := later _ isChild _ _ within
      rwa [Nat.add_right_comm] at held

mutual

/-- A tree passes the check exactly if its ids are new and its actions fit; its ids are then among
those that have been seen. -/
theorem check_eq_ok_iff {project : ProjectId} {maxDepth : Nat} :
    forall (tree : Action) (seen after : List ActionId) (depth : Nat),
      check project maxDepth seen depth tree = .ok after ↔
        Unseen seen tree.ids ∧ tree.AllFit project maxDepth depth ∧ after = tree.ids.reverse ++ seen
  | ⟨id, parentId, projectId, kind, enabled, modifiedAt, name, options, children⟩, seen, after,
      depth => by
    have sound := faultless_iff project maxDepth depth seen
      ⟨id, parentId, projectId, kind, enabled, modifiedAt, name, options, children⟩
    rw [allFit_iff]
    simp only [check, ids, preorder, List.map_cons, unseen_cons, List.reverse_cons,
      List.append_assoc, List.singleton_append]
    split
    · rename_i fault isFault
      rw [isFault] at sound
      exact ⟨nofun, fun ⟨⟨fresh, _⟩, ⟨fits, _⟩, _⟩ => nomatch (sound.mpr ⟨fresh, fits⟩).1⟩
    · rename_i own
      split
      · rename_i fault isFault
        rw [isFault] at sound
        exact ⟨nofun, fun ⟨⟨fresh, _⟩, ⟨fits, _⟩, _⟩ => nomatch (sound.mpr ⟨fresh, fits⟩).2⟩
      · rename_i linked
        obtain ⟨fresh, fits⟩ := sound.mp ⟨own, linked⟩
        rw [checks_eq_ok_iff children]
        tauto

/-- The check of trees passes exactly if their ids are new and all their actions fit; it has seen
these ids then. -/
theorem checks_eq_ok_iff {project : ProjectId} {maxDepth : Nat} :
    forall (trees : List Action) (seen after : List ActionId) (depth : Nat),
      check.checks project maxDepth seen depth trees = .ok after ↔
        Unseen seen ((preorder.preorders trees).map Action.id) ∧
          (∀ tree ∈ trees, tree.AllFit project maxDepth depth) ∧
          after = ((preorder.preorders trees).map Action.id).reverse ++ seen
  | [], seen, after, depth => by
    simp [check.checks, preorder.preorders, Unseen, eq_comm]
  | tree :: rest, seen, after, depth => by
    rw [check.checks, preorder.preorders, List.map_append, unseen_append, List.forall_mem_cons,
      List.reverse_append, List.append_assoc]
    cases checked : check project maxDepth seen depth tree with
    | error fault =>
      refine ⟨nofun, fun ⟨⟨unseen, _⟩, ⟨fit, _⟩, _⟩ => ?_⟩
      have passed := (check_eq_ok_iff tree seen _ depth).mpr ⟨unseen, fit, rfl⟩
      exact nomatch checked.symm.trans passed
    | ok between =>
      obtain ⟨unseen, fit, rfl⟩ := (check_eq_ok_iff tree seen between depth).mp checked
      dsimp only
      rw [checks_eq_ok_iff rest]
      unfold ids at unseen ⊢
      tauto

end

end Checking

/-- A tree is well-formed exactly if its ids are distinct and its actions fit into the project of
its root. -/
theorem wellFormed_iff {tree : Action} {maxDepth : Nat} :
    tree.WellFormed maxDepth ↔ tree.ids.Nodup ∧ tree.AllFit tree.projectId maxDepth 0 := by
  constructor
  · intro formed
    refine ⟨formed.distinct, fun depth action holds => ?_⟩
    rw [Nat.zero_add]
    exact ⟨formed.shallow depth action holds, formed.together depth action holds,
      formed.configured depth action holds, formed.linked depth action holds⟩
  · rintro ⟨distinct, fit⟩
    have fits : forall depth action, tree.Holds depth action ->
        action.Fits tree.projectId maxDepth depth := fun depth action holds =>
      Nat.zero_add depth ▸ fit depth action holds
    exact
      { distinct
        linked := fun depth action holds => (fits depth action holds).linked
        together := fun depth action holds => (fits depth action holds).together
        configured := fun depth action holds => (fits depth action holds).configured
        shallow := fun depth action holds => (fits depth action holds).shallow }

mutual

/-- The preorder lists every action of a tree once. -/
theorem length_preorder : forall tree : Action, tree.preorder.length = tree.size
  | ⟨_, _, _, _, _, _, _, _, children⟩ => by
    rw [preorder, size, List.length_cons, length_preorders children]

theorem length_preorders : forall trees : List Action,
    (preorder.preorders trees).length = size.sizes trees
  | [] => rfl
  | tree :: rest => by
    rw [preorder.preorders, size.sizes, List.length_append, length_preorder tree,
      length_preorders rest]

end

/-- A tree has as many ids as actions. -/
theorem length_ids (tree : Action) : tree.ids.length = tree.size := by
  rw [ids, List.length_map, length_preorder]

/-- A tree that passes the check is well-formed, and its actions have been counted. -/
theorem wellFormed_of_validate {tree : Action} {maxDepth count : Nat}
    (valid : tree.validate maxDepth = .ok count) :
    tree.WellFormed maxDepth ∧ count = tree.size := by
  unfold validate at valid
  cases checked : check tree.projectId maxDepth [] 0 tree with
  | error fault =>
    rw [checked] at valid
    cases valid
  | ok after =>
    obtain ⟨⟨distinct, -⟩, fit, rfl⟩ := (check_eq_ok_iff tree [] after 0).mp checked
    rw [checked, Except.map, List.append_nil, List.length_reverse, length_ids] at valid
    exact ⟨wellFormed_iff.mpr ⟨distinct, fit⟩, (Except.ok.inj valid).symm⟩

/-- A well-formed tree passes the check. -/
theorem validate_of_wellFormed {tree : Action} {maxDepth : Nat}
    (formed : tree.WellFormed maxDepth) : tree.validate maxDepth = .ok tree.size := by
  obtain ⟨distinct, fit⟩ := wellFormed_iff.mp formed
  have checked := (check_eq_ok_iff tree [] _ 0).mpr
    ⟨⟨distinct, List.disjoint_nil_right _⟩, fit, rfl⟩
  rw [validate, checked, Except.map, List.append_nil, List.length_reverse, length_ids]

/-- The check of a tree accepts exactly the well-formed trees, and answers the number of their
actions. -/
theorem validate_eq_ok_iff (tree : Action) (maxDepth count : Nat) :
    tree.validate maxDepth = .ok count ↔ tree.WellFormed maxDepth ∧ count = tree.size := by
  constructor
  · exact wellFormed_of_validate
  · rintro ⟨formed, rfl⟩
    exact validate_of_wellFormed formed

end Outreach.Action
