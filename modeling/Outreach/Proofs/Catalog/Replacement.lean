import Outreach.Proofs.Catalog.Trees

/-!
# What is found after a tree has been put in

A tree takes the place of the first action with the id of its root, or it becomes a tree of its own.
It is looked for in the same order in which actions are found, so from then on it is found under its
id, and nothing else changes but what is found above its place: `replaced`. `Action.Replaced` says
how a tree changes, and what is found in it before and after is read off that.
-/

namespace Outreach

namespace Action

/-- The actions above the first action with an id in a tree that has one, from the root down. -/
def ancestors (id : ActionId) : Action -> List Action
  | ⟨own, parentId, projectId, kind, enabled, modifiedAt, name, options, children⟩ =>
    if own = id then []
    else
      ⟨own, parentId, projectId, kind, enabled, modifiedAt, name, options, children⟩ ::
        ancestorsIn id children
where
  /-- The actions above the first action with an id in a list of trees. -/
  ancestorsIn (id : ActionId) : List Action -> List Action
    | [] => []
    | action :: rest =>
      if (action.find? id).isSome then ancestors id action else ancestorsIn id rest

/-- In the place of the first action with its id, which has been below some others, there is a new
one. -/
inductive Replaced (new : Action) : Action -> List Action -> Action -> Action -> Prop where
  | here {old : Action} (same : old.id = new.id) : Replaced new old [] old new
  | deeper {tree child old changed : Action} {before after above : List Action}
      (other : tree.id ≠ new.id) (children : tree.children = before ++ child :: after)
      (absent : ∀ action ∈ before, action.find? new.id = none)
      (within : Replaced new child above old changed) :
      Replaced new tree (tree :: above) old { tree with children := before ++ changed :: after }

variable {new tree old changed : Action} {above : List Action} {id : ActionId}

section Search

theorem find?_eq (tree : Action) (id : ActionId) :
    tree.find? id =
      if tree.id = id then some tree
      else tree.children.findSome? (fun child => child.find? id) := by
  have children : forall trees : List Action,
      (preorder.preorders trees).find? (fun action => action.id = id) =
        trees.findSome? (fun child => child.find? id) := by
    intro trees
    induction trees with
    | nil => rfl
    | cons first rest ih =>
      rw [preorder.preorders, List.find?_append, ih, List.findSome?_cons, find?]
      cases List.find? (fun action => decide (action.id = id)) first.preorder <;> rfl
  rw [find?, preorder_eq, List.find?_cons, children]
  by_cases here : tree.id = id <;> simp [here]

theorem ancestors_eq (tree : Action) (id : ActionId) :
    tree.ancestors id =
      if tree.id = id then [] else tree :: ancestors.ancestorsIn id tree.children := by
  cases tree
  rfl

/-- Trees that do not have an id are passed over. -/
theorem ancestorsIn_append {before after : List Action}
    (absent : ∀ action ∈ before, action.find? id = none) :
    ancestors.ancestorsIn id (before ++ after) = ancestors.ancestorsIn id after := by
  induction before with
  | nil => rfl
  | cons first rest ih =>
    obtain ⟨here, later⟩ := List.forall_mem_cons.mp absent
    rw [List.cons_append, ancestors.ancestorsIn, here]
    exact ih later

theorem find?_eq_none_iff : tree.find? id = none ↔ id ∉ tree.ids := by
  simp [find?, ids]

end Search

section Replacement

mutual

/-- A tree has no place for a new action, or the new action comes into the first place for it. -/
theorem replace?_cases (new : Action) :
    forall tree : Action,
      (replace? new tree = none ∧ tree.find? new.id = none) ∨
        ∃ above old changed,
          replace? new tree = some changed ∧ Replaced new tree above old changed
  | ⟨id, parentId, projectId, kind, enabled, modifiedAt, name, options, children⟩ => by
    rw [replace?, find?_eq]
    split
    · rename_i same
      exact .inr ⟨[], _, new, rfl, .here same⟩
    · rename_i other
      rcases replaceIn?_cases new children with
        ⟨unchanged, absent⟩ | ⟨before, child, after, _, old, _, split, absent, isNew, within⟩
      · rw [unchanged]
        exact .inl ⟨rfl, List.findSome?_eq_none_iff.mpr absent⟩
      · rw [isNew]
        exact .inr ⟨_, old, _, rfl, .deeper other split absent within⟩

theorem replaceIn?_cases (new : Action) :
    forall trees : List Action,
      (replace?.replaceIn? new trees = none ∧ ∀ tree ∈ trees, tree.find? new.id = none) ∨
        ∃ before child after above old changed, trees = before ++ child :: after ∧
          (∀ tree ∈ before, tree.find? new.id = none) ∧
          replace?.replaceIn? new trees = some (before ++ changed :: after) ∧
          Replaced new child above old changed
  | [] => .inl ⟨rfl, by simp⟩
  | tree :: rest => by
    rw [replace?.replaceIn?]
    rcases replace?_cases new tree with ⟨unchanged, none⟩ | ⟨above, old, changed, isNew, within⟩
    · rw [unchanged]
      rcases replaceIn?_cases new rest with
        ⟨unchanged, absent⟩ | ⟨before, child, after, _, old, changed, rfl, absent, isNew, within⟩
      · rw [unchanged]
        exact .inl ⟨rfl, List.forall_mem_cons.mpr ⟨none, absent⟩⟩
      · rw [isNew]
        exact .inr ⟨tree :: before, child, after, _, old, changed, rfl,
          List.forall_mem_cons.mpr ⟨none, absent⟩, rfl, within⟩
    · rw [isNew]
      exact .inr ⟨[], tree, rest, above, old, changed, rfl, by simp, rfl, within⟩

end

theorem find?_of_replace?_eq_none (unchanged : replace? new tree = none) :
    tree.find? new.id = none := by
  rcases replace?_cases new tree with ⟨-, absent⟩ | ⟨_, _, _, isNew, -⟩
  · exact absent
  · cases unchanged.symm.trans isNew

theorem replaced_of_replace? (isNew : replace? new tree = some changed) :
    ∃ above old, Replaced new tree above old changed := by
  rcases replace?_cases new tree with ⟨unchanged, -⟩ | ⟨above, old, _, same, within⟩
  · cases unchanged.symm.trans isNew
  · cases same.symm.trans isNew
    exact ⟨above, old, within⟩

namespace Replaced

/-- What is replaced is what has been found. -/
theorem find?_old (within : Replaced new tree above old changed) :
    tree.find? new.id = some old := by
  induction within with
  | here same => rw [find?_eq, if_pos same]
  | deeper other children absent _ ih =>
    rw [find?_eq, if_neg other, children, List.findSome?_append,
      List.findSome?_eq_none_iff.mpr absent, Option.none_or, List.findSome?_cons, ih]

/-- The new action is found in the place of the old one. -/
theorem find?_new (within : Replaced new tree above old changed) :
    changed.find? new.id = some new := by
  induction within with
  | here same => rw [find?_eq, if_pos rfl]
  | deeper other children absent _ ih =>
    rw [find?_eq, if_neg other, List.findSome?_append,
      List.findSome?_eq_none_iff.mpr absent, Option.none_or, List.findSome?_cons, ih]

theorem ancestors_eq (within : Replaced new tree above old changed) :
    tree.ancestors new.id = above := by
  induction within with
  | here same => rw [Action.ancestors_eq, if_pos same]
  | deeper other children absent within ih =>
    rw [Action.ancestors_eq, if_neg other, children, ancestorsIn_append absent,
      ancestors.ancestorsIn, within.find?_old]
    exact congrArg _ ih

/-- Under an id that neither the new nor the old action brings along the same action is found,
unless it was above the place. -/
theorem find?_elsewhere (within : Replaced new tree above old changed) (notNew : id ∉ new.ids)
    (notOld : id ∉ old.ids) (notAbove : ∀ action ∈ above, tree.find? id ≠ some action) :
    changed.find? id = tree.find? id := by
  induction within with
  | here same => rw [find?_eq_none_iff.mpr notNew, find?_eq_none_iff.mpr notOld]
  | @deeper tree child old changed before after above other children absent _ ih =>
    obtain ⟨notRoot, notAbove⟩ := List.forall_mem_cons.mp notAbove
    have apart : tree.id ≠ id := by
      intro same
      rw [find?_eq, if_pos same] at notRoot
      exact notRoot rfl
    rw [find?_eq tree, if_neg apart, children] at notAbove ⊢
    rw [find?_eq, if_neg apart]
    simp only [List.findSome?_append, List.findSome?_cons] at notAbove ⊢
    cases earlier : before.findSome? (fun child => child.find? id) with
    | some found => rfl
    | none =>
      rw [ih notOld]
      intro action isAbove found
      apply notAbove action isAbove
      rw [earlier, found]
      rfl

end Replaced

end Replacement

end Action

namespace Catalog

variable {catalog : Catalog} {action : Action}

/-- The actions above the first action with an id in the trees of a catalog, from the root down. -/
def ancestors (catalog : Catalog) (id : ActionId) : List Action :=
  Action.ancestors.ancestorsIn id catalog.actions.values

section Places

/-- None of the trees of a catalog has an id that the catalog does not know. -/
theorem find?_of_unknown {id : ActionId} (unknown : catalog.action? id = none) {root : Action}
    (held : root ∈ catalog.actions.values) : root.find? id = none :=
  List.findSome?_eq_none_iff.mp unknown root held

/-- A tree whose root a catalog does not know is stored as a tree of its own. -/
theorem putAction_of_unknown (unknown : catalog.action? action.id = none) :
    catalog.putAction action =
      { catalog with actions := catalog.actions.insert action.id action } := by
  rcases changeTree?_cases catalog.actions (Action.replace? action) with
    ⟨unchanged, -⟩ | ⟨_, _, _, root, _, _, _, split, -, isNew, -⟩
  · rw [putAction, unchanged]
  · have held : root ∈ catalog.actions.values := by simp [Keyed.values, split]
    obtain ⟨_, _, within⟩ := Action.replaced_of_replace? isNew
    cases (find?_of_unknown unknown held).symm.trans within.find?_old

/-- A tree whose root a catalog does not know comes in between the others. -/
theorem putAction_apart (rooted : catalog.Rooted) (unknown : catalog.action? action.id = none) :
    ∃ before after, catalog.actions.entries = before ++ after ∧
      (catalog.putAction action).actions.entries = before ++ (action.id, action) :: after := by
  have absent : ∀ entry ∈ catalog.actions.entries, entry.1 ≠ action.id := by
    intro entry listed same
    have found : entry.2.find? action.id = some entry.2 := by
      rw [Action.find?_eq, if_pos ((rooted entry listed).trans same)]
    cases (find?_of_unknown unknown (List.mem_map_of_mem listed)).symm.trans found
  obtain ⟨before, after, split, inserted⟩ := Keyed.insertEntry_split action absent
  refine ⟨before, after, split, ?_⟩
  rw [putAction_of_unknown unknown]
  exact inserted

/-- A tree whose root a catalog knows comes into the place of the action that was found. -/
theorem putAction_of_known {old : Action} (known : catalog.action? action.id = some old) :
    ∃ before key root above new after, catalog.actions.entries = before ++ (key, root) :: after ∧
      (∀ entry ∈ before, entry.2.find? action.id = none) ∧
      Action.Replaced action root above old new ∧
      (catalog.putAction action).actions.entries = before ++ (key, new) :: after := by
  rcases changeTree?_cases catalog.actions (Action.replace? action) with
    ⟨-, unchanged⟩ | ⟨actions, before, key, root, new, after, isChanged, split, earlier, isNew,
      entries⟩
  · -- Where no tree has a place for it the id is not known.
    have unknown : catalog.action? action.id = none := by
      rw [action?_eq, List.findSome?_eq_none_iff]
      exact fun entry listed => Action.find?_of_replace?_eq_none (unchanged entry listed)
    cases unknown.symm.trans known
  · have absent : ∀ entry ∈ before, entry.2.find? action.id = none :=
      fun entry member => Action.find?_of_replace?_eq_none (earlier entry member)
    obtain ⟨above, first, within⟩ := Action.replaced_of_replace? isNew
    have isOld : catalog.action? action.id = some first := by
      rw [action?_of_entries split, List.findSome?_eq_none_iff.mpr absent, within.find?_old]
      rfl
    cases isOld.symm.trans known
    refine ⟨before, key, root, above, new, after, split, absent, within, ?_⟩
    rw [putAction, isChanged]
    exact entries

/-- The actions above the place of an action are those above it in the first tree that has it. -/
theorem ancestors_of_entries {before after : List (ActionId × Action)} {key id : ActionId}
    {root found : Action} (entries : catalog.actions.entries = before ++ (key, root) :: after)
    (absent : ∀ entry ∈ before, entry.2.find? id = none) (isFound : root.find? id = some found) :
    catalog.ancestors id = root.ancestors id := by
  have earlier : ∀ tree ∈ before.map Prod.snd, tree.find? id = none :=
    List.forall_mem_map.mpr absent
  rw [ancestors, Keyed.values, entries, List.map_append, Action.ancestorsIn_append earlier,
    List.map_cons, Action.ancestors.ancestorsIn, isFound]
  rfl

end Places

section Putting

theorem action?_putAction_self (rooted : catalog.Rooted) (action : Action) :
    (catalog.putAction action).action? action.id = some action := by
  cases known : catalog.action? action.id with
  | none =>
    obtain ⟨before, after, entries, stored⟩ := putAction_apart rooted known
    have self : action.find? action.id = some action := by rw [Action.find?_eq, if_pos rfl]
    rw [action?_eq, entries, List.findSome?_append, Option.or_eq_none_iff] at known
    rw [action?_of_entries stored, known.1, self]
    rfl
  | some old =>
    obtain ⟨before, key, root, above, new, after, -, absent, within, stored⟩ :=
      putAction_of_known known
    rw [action?_of_entries stored, List.findSome?_eq_none_iff.mpr absent, within.find?_new]
    rfl

/-- No tree gets lost. -/
theorem contains_putAction (rooted : catalog.Rooted) (action : Action) {key : ActionId}
    (held : catalog.actions.contains key = true) :
    (catalog.putAction action).actions.contains key = true := by
  rw [Keyed.contains_iff, Keyed.keys] at held ⊢
  cases known : catalog.action? action.id with
  | none =>
    obtain ⟨before, after, entries, stored⟩ := putAction_apart rooted known
    rw [entries, List.map_append, List.mem_append] at held
    rw [stored, List.map_append, List.map_cons, List.mem_append, List.mem_cons]
    exact held.imp_right .inr
  | some old =>
    obtain ⟨before, _, _, _, _, after, entries, -, -, stored⟩ := putAction_of_known known
    rw [entries, List.map_append, List.map_cons] at held
    rw [stored, List.map_append, List.map_cons]
    exact held

theorem size_putAction (rooted : catalog.Rooted) (action : Action) :
    (catalog.putAction action).actions.size =
      catalog.actions.size + (if catalog.action? action.id = none then 1 else 0) := by
  cases known : catalog.action? action.id with
  | none =>
    obtain ⟨before, after, entries, stored⟩ := putAction_apart rooted known
    simp [Keyed.size, entries, stored, Nat.add_assoc]
  | some old =>
    obtain ⟨before, _, _, _, _, after, entries, -, -, stored⟩ := putAction_of_known known
    simp [Keyed.size, entries, stored]

/-- What is found under an id that neither the new action nor the one in its place brings along
changes only if it is above the place. -/
theorem action?_putAction_of_notMem (rooted : catalog.Rooted) {id : ActionId}
    (notNew : id ∉ action.ids)
    (notOld : forall old, catalog.action? action.id = some old -> id ∉ old.ids)
    (notAbove : ∀ ancestor ∈ catalog.ancestors action.id, catalog.action? id ≠ some ancestor) :
    (catalog.putAction action).action? id = catalog.action? id := by
  cases known : catalog.action? action.id with
  | none =>
    obtain ⟨before, after, entries, stored⟩ := putAction_apart rooted known
    rw [action?_of_entries stored, Action.find?_eq_none_iff.mpr notNew, action?_eq catalog,
      entries, List.findSome?_append]
    rfl
  | some old =>
    obtain ⟨before, key, root, above, new, after, entries, absent, within, stored⟩ :=
      putAction_of_known known
    rw [ancestors_of_entries entries absent within.find?_old, within.ancestors_eq] at notAbove
    rw [action?_of_entries stored, action?_of_entries entries]
    cases earlier : before.findSome? (fun entry => entry.2.find? id) with
    | some found => rfl
    | none =>
      rw [within.find?_elsewhere notNew (notOld old known)]
      intro ancestor isAbove found
      apply notAbove ancestor isAbove
      rw [action?_of_entries entries, earlier, found]
      rfl

end Putting

/-- In every authored catalog a tree that is put in is what is found under the id of its root, every
tree is still stored under the id of its root, and none gets lost: there is one more if there was no
action with the id before. Under an id that occurs neither in the tree nor in what it has replaced
the same is found as before, unless that is above the place. -/
theorem replaced (authored : catalog.Authored) (action : Action) :
    let after := catalog.putAction action
    after.action? action.id = some action ∧
      (∀ entry ∈ after.actions.entries, entry.2.id = entry.1) ∧
      (forall key, catalog.actions.contains key = true -> after.actions.contains key = true) ∧
      after.actions.size =
        catalog.actions.size + (if catalog.action? action.id = none then 1 else 0) ∧
      forall id, id ∉ action.ids ->
        (forall old, catalog.action? action.id = some old -> id ∉ old.ids) ->
        (∀ ancestor ∈ catalog.ancestors action.id, catalog.action? id ≠ some ancestor) ->
          after.action? id = catalog.action? id := by
  have rooted := authored.rooted
  exact ⟨action?_putAction_self rooted action, (authored.put action).rooted,
    fun key => contains_putAction rooted action, size_putAction rooted action,
    fun id => action?_putAction_of_notMem rooted⟩

/-- A new action comes into the first of two trees that have one with its id, and what is below the
other is found as before. -/
theorem replaced_twofold :
    let after := Twofold.catalog.putAction Twofold.renewed
    Twofold.catalog.Authored ∧ after.action? 3 = some Twofold.renewed ∧ after.actions.size = 2 ∧
      after.action? 6 = Twofold.catalog.action? 6 := by
  intro after
  obtain ⟨found, -, -, size, others⟩ := replaced Twofold.authored Twofold.renewed
  have known : Twofold.catalog.action? 3 = some Twofold.single := rfl
  refine ⟨Twofold.authored, found, size, others 6 (by decide) ?_ ?_⟩
  · intro old isOld
    cases known.symm.trans isOld
    decide
  · have above : (Twofold.catalog.ancestors 3).map Action.id = [1, 2] := rfl
    intro ancestor isAbove found
    have listed : ancestor.id ∈ [1, 2] := above ▸ List.mem_map_of_mem isAbove
    have same : some 6 = some ancestor.id := congrArg (Option.map Action.id) found
    rw [← Option.some.inj same] at listed
    exact absurd listed (by decide)

end Catalog

end Outreach
