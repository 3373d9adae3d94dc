import Outreach.Proofs.Catalog.Replacement

/-!
# Finding an action again

No id occurs twice in a tree that passes the check. Such a tree is put into a catalog that has none of
its ids as a tree of its own, and from then on each of its actions is found by its id.
-/

namespace Outreach

namespace Action

/-- Where no id occurs twice, every action is the first with its id. -/
theorem find?_eq_some {tree action : Action} (distinct : tree.ids.Nodup)
    (member : action ∈ tree.preorder) : tree.find? action.id = some action := by
  have found : (tree.find? action.id).isSome := by
    rw [find?, List.find?_isSome]
    exact ⟨action, member, by simp⟩
  obtain ⟨first, isFirst⟩ := Option.isSome_iff_exists.mp found
  have same : first.id = action.id := by simpa using List.find?_some isFirst
  rw [isFirst, List.inj_on_of_nodup_map distinct (List.mem_of_find?_eq_some isFirst) member same]

/-- The id of the root is one of the tree. -/
theorem id_mem_ids (tree : Action) : tree.id ∈ tree.ids :=
  List.mem_map_of_mem tree.self_mem_preorder

end Action

namespace Catalog

variable {catalog : Catalog} {tree : Action}

/-- Every action of a valid tree is found by its id once the tree has been stored in a catalog that
did not know any of its ids. -/
theorem action?_putAction {maxDepth count : Nat} {action : Action}
    (valid : tree.validate maxDepth = .ok count)
    (unknown : ∀ id ∈ tree.ids, catalog.action? id = none) (member : action ∈ tree.preorder) :
    (catalog.putAction tree).action? action.id = some action := by
  have here : tree.find? action.id = some action :=
    Action.find?_eq_some (Action.wellFormed_of_validate valid).1.distinct member
  rw [putAction_of_unknown (unknown _ tree.id_mem_ids), action?]
  -- The tree is the only root below which the id is found, wherever it stands among the others.
  have stored : tree ∈ (catalog.actions.insert tree.id tree).values :=
    List.mem_map_of_mem (Keyed.mem_insert catalog.actions tree.id tree)
  have roots : ∀ root ∈ (catalog.actions.insert tree.id tree).values,
      root = tree ∨ root.find? action.id = none := by
    intro root held
    obtain ⟨entry, listed, rfl⟩ := List.mem_map.mp held
    rcases Keyed.mem_insertEntry listed with rfl | before
    · exact .inl rfl
    · exact .inr (find?_of_unknown (unknown _ (List.mem_map_of_mem member))
        (List.mem_map_of_mem before))
  have found : ((catalog.actions.insert tree.id tree).values.findSome?
      (fun root => root.find? action.id)).isSome := by
    rw [List.findSome?_isSome_iff]
    exact ⟨tree, stored, by rw [here]; rfl⟩
  obtain ⟨other, isOther⟩ := Option.isSome_iff_exists.mp found
  obtain ⟨root, held, below⟩ := List.exists_of_findSome?_eq_some isOther
  rcases roots root held with rfl | absent
  · rw [isOther, ← below, here]
  · cases below.symm.trans absent

end Catalog

end Outreach
