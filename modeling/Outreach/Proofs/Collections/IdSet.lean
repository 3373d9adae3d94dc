import Mathlib.Data.List.Sort
import Outreach.Proofs.Collections.Keyed

/-!
# Sets by their members

A set is known by its members (`ext_mem`), so what is put in and taken out of sets is calculated member
by member.
-/

namespace Outreach.IdSet

variable {set : IdSet} {id other : Int64} {ids : List Int64}

/-- Sets with the same members are equal. -/
theorem ext_mem {left right : IdSet} (same : ∀ id, id ∈ left.toList ↔ id ∈ right.toList) :
    left = right :=
  IdSet.ext (left.ascending.eq_of_mem_iff right.ascending same)

theorem mem_erase : other ∈ (set.erase id).toList ↔ other ∈ set.toList ∧ other ≠ id := by
  simp [erase]

theorem mem_insertAll : id ∈ (set.insertAll ids).toList ↔ id ∈ set.toList ∨ id ∈ ids := by
  unfold insertAll
  induction ids generalizing set with
  | nil => simp
  | cons first rest ih =>
    rw [List.foldl_cons, ih, mem_insert, List.mem_cons, or_comm (a := id = first), or_assoc]

theorem mem_eraseAll : id ∈ (set.eraseAll ids).toList ↔ id ∈ set.toList ∧ id ∉ ids := by
  unfold eraseAll
  induction ids generalizing set with
  | nil => simp
  | cons first rest ih =>
    rw [List.foldl_cons, ih, mem_erase, List.mem_cons, not_or, and_assoc]

end Outreach.IdSet
