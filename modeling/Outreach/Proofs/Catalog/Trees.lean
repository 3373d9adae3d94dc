import Outreach.Catalog
import Outreach.Proofs.Collections.Keyed
import Outreach.Proofs.Tree.Validity
import Outreach.Rehearsal.Samples

/-!
# The trees of a catalog

Trees are put into a catalog, and actions are taken out of it, one after the other and whatever ids
occur in them. One such edit adds a tree, takes a tree away, or changes the first tree that it can
be made in (`changeTree?_cases`), and a tree that is changed keeps the id of its root. So every tree
of a catalog is stored under the id of its root: `Authored.rooted`.
-/

namespace Outreach

namespace Action

variable {tree changed : Action}

/-- An edit below the root of a tree leaves the root its id, and so does one that replaces it. -/
theorem id_of_replace? {new : Action} (replaced : replace? new tree = some changed) :
    changed.id = tree.id := by
  obtain ⟨id, parentId, projectId, kind, enabled, modifiedAt, name, options, children⟩ := tree
  unfold replace? at replaced
  split at replaced
  · rename_i same
    cases replaced
    exact same.symm
  · obtain ⟨others, -, rfl⟩ := Option.map_eq_some_iff.mp replaced
    rfl

/-- A tree keeps its id when an action is taken out below its root. -/
theorem id_of_removeBelow? {id : ActionId} (removed : removeBelow? id tree = some changed) :
    changed.id = tree.id := by
  obtain ⟨own, parentId, projectId, kind, enabled, modifiedAt, name, options, children⟩ := tree
  unfold removeBelow? at removed
  dsimp only at removed
  split at removed
  · cases removed
    rfl
  · obtain ⟨others, -, rfl⟩ := Option.map_eq_some_iff.mp removed
    rfl

end Action

namespace Catalog

/-- The catalogs that one comes to from one without trees by putting trees in and taking actions
out. -/
inductive Authored : Catalog -> Prop where
  | bare {catalog : Catalog} (treeless : catalog.actions = ∅) : Authored catalog
  | put {catalog : Catalog} (action : Action) (prior : Authored catalog) :
      Authored (catalog.putAction action)
  | remove {catalog : Catalog} (id : ActionId) (prior : Authored catalog) :
      Authored (catalog.removeAction id)

/-- Every tree is stored under the id of its root. -/
def Rooted (catalog : Catalog) : Prop := ∀ entry ∈ catalog.actions.entries, entry.2.id = entry.1

section Changes

variable {κ α : Type} {change : α -> Option α} {entries changed : List (κ × α)}

/-- Only the first value that can be changed is changed. -/
theorem changeFirst?_eq_some (isChanged : changeFirst? change entries = some changed) :
    ∃ before key value new after, entries = before ++ (key, value) :: after ∧
      (∀ entry ∈ before, change entry.2 = none) ∧ change value = some new ∧
      changed = before ++ (key, new) :: after := by
  induction entries generalizing changed with
  | nil => cases isChanged
  | cons entry rest ih =>
    obtain ⟨key, value⟩ := entry
    unfold changeFirst? at isChanged
    split at isChanged
    · rename_i new isNew
      cases isChanged
      exact ⟨[], key, value, new, rest, rfl, by simp, isNew, rfl⟩
    · rename_i unchanged
      obtain ⟨later, isLater, rfl⟩ := Option.map_eq_some_iff.mp isChanged
      obtain ⟨before, other, old, new, after, rfl, none, isNew, rfl⟩ := ih isLater
      exact ⟨(key, value) :: before, other, old, new, after, rfl,
        List.forall_mem_cons.mpr ⟨unchanged, none⟩, isNew, rfl⟩

/-- If nothing is changed, no entry could be. -/
theorem changeFirst?_eq_none (unchanged : changeFirst? change entries = none) :
    ∀ entry ∈ entries, change entry.2 = none := by
  induction entries with
  | nil => simp
  | cons entry rest ih =>
    unfold changeFirst? at unchanged
    split at unchanged
    · cases unchanged
    · rename_i here
      exact List.forall_mem_cons.mpr ⟨here, ih (Option.map_eq_none_iff.mp unchanged)⟩

/-- No tree can be changed, or the first one that can be is changed where it is. -/
theorem changeTree?_cases (trees : Keyed ActionId Action) (change : Action -> Option Action) :
    (changeTree? trees change = none ∧ ∀ entry ∈ trees.entries, change entry.2 = none) ∨
      ∃ changed before key root new after, changeTree? trees change = some changed ∧
        trees.entries = before ++ (key, root) :: after ∧
        (∀ entry ∈ before, change entry.2 = none) ∧ change root = some new ∧
        changed.entries = before ++ (key, new) :: after := by
  unfold changeTree?
  split
  · rename_i unchanged
    exact .inl ⟨rfl, changeFirst?_eq_none unchanged⟩
  · rename_i entries isChanged
    obtain ⟨before, key, root, new, after, split, none, isNew, rfl⟩ :=
      changeFirst?_eq_some isChanged
    exact .inr ⟨_, before, key, root, new, after, rfl, split, none, isNew, rfl⟩

end Changes

section Search

variable {catalog : Catalog}

theorem action?_eq (catalog : Catalog) (id : ActionId) :
    catalog.action? id = catalog.actions.entries.findSome? (fun entry => entry.2.find? id) := by
  rw [action?, Keyed.values, List.findSome?_map]
  rfl

/-- An action is found in the trees before a tree, in the tree, or in the trees after it. -/
theorem action?_of_entries {before after : List (ActionId × Action)} {key : ActionId}
    {root : Action} (entries : catalog.actions.entries = before ++ (key, root) :: after)
    (id : ActionId) :
    catalog.action? id =
      (before.findSome? (fun entry => entry.2.find? id)).or
        ((root.find? id).or (after.findSome? (fun entry => entry.2.find? id))) := by
  rw [action?_eq, entries, List.findSome?_append, List.findSome?_cons]
  cases root.find? id <;> rfl

end Search

section Roots

variable {catalog : Catalog}

/-- A change that leaves roots their ids leaves every tree under the id of its root. -/
theorem Rooted.changeTree? (rooted : catalog.Rooted) {change : Action -> Option Action}
    (keepsId : forall tree changed, change tree = some changed -> changed.id = tree.id)
    {actions : Keyed ActionId Action}
    (changed : Catalog.changeTree? catalog.actions change = some actions) :
    Rooted { catalog with actions } := by
  rcases changeTree?_cases catalog.actions change with
    ⟨unchanged, -⟩ | ⟨_, before, key, root, new, after, isChanged, split, -, isNew, entries⟩
  · cases unchanged.symm.trans changed
  · cases isChanged.symm.trans changed
    have held : ∀ entry ∈ before ++ (key, root) :: after, entry.2.id = entry.1 := by
      rw [← split]
      exact rooted
    have here : root.id = key :=
      held (key, root) (List.mem_append_right _ List.mem_cons_self)
    intro entry member
    have listed : entry ∈ before ++ (key, new) :: after := by
      rw [← entries]
      exact member
    rcases List.mem_append.mp listed with earlier | later
    · exact held entry (List.mem_append_left _ earlier)
    · rcases List.mem_cons.mp later with rfl | later
      · exact (keepsId root new isNew).trans here
      · exact held entry (List.mem_append_right _ (List.mem_cons_of_mem _ later))

/-- A tree that is put into the catalog is kept under the id of its root. -/
theorem Rooted.putAction (rooted : catalog.Rooted) (action : Action) :
    (catalog.putAction action).Rooted := by
  unfold Catalog.putAction
  split
  · rename_i actions changed
    exact rooted.changeTree? (fun _ _ => Action.id_of_replace?) changed
  · intro entry member
    rcases Keyed.mem_insertEntry member with rfl | before
    · rfl
    · exact rooted entry before

/-- The trees of a catalog keep their keys when an action is removed. -/
theorem Rooted.removeAction (rooted : catalog.Rooted) (id : ActionId) :
    (catalog.removeAction id).Rooted := by
  unfold Catalog.removeAction
  split
  · exact fun entry member => rooted entry (List.mem_of_mem_filter member)
  · split
    · rename_i actions changed
      exact rooted.changeTree? (fun _ _ => Action.id_of_removeBelow?) changed
    · exact rooted

/-- Every tree of an authored catalog is stored under the id of its root. -/
theorem Authored.rooted (authored : catalog.Authored) : catalog.Rooted := by
  induction authored with
  | bare treeless =>
    intro entry member
    rw [treeless] at member
    cases member
  | put action _ ih => exact ih.putAction action
  | remove id _ ih => exact ih.removeAction id

end Roots

namespace Twofold

/-- An action with some children. -/
def branch (id : ActionId) (children : List Action) : Action :=
  { Action.new id 1 .sequence "" .epoch with children }

/-- An action, and one to put in its place. -/
def single : Action := branch 3 []

def renewed : Action := branch 3 [branch 7 []]

/-- A catalog with a project and two trees, in each of which there is the action. -/
def catalog : Catalog :=
  ((Catalog.empty.addProject Sample.project).putAction (branch 1 [branch 2 [single]])).putAction
    (branch 5 [single, branch 6 []])

theorem authored : catalog.Authored := .put _ (.put _ (.bare rfl))

end Twofold

end Catalog

end Outreach
