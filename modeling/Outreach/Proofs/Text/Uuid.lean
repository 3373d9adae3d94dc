import Mathlib.Algebra.Group.Nat.Defs
import Outreach.Uuid

/-!
# Written ids

The text of a universally unique id is read as the id.
-/

namespace Outreach.Uuid

section Digits

/-- The digit of a value below sixteen has the value. -/
theorem digitValue?_digitChar {value : Nat} (small : value < 16) :
    digitValue? (Nat.digitChar value) = some value := by
  have all : ∀ value < 16, digitValue? (Nat.digitChar value) = some value := by decide
  exact all value small

theorem length_lowDigits (n : Nat) (after : List Char) (count : Nat) :
    (lowDigits n after count).length = count + after.length := by
  induction count generalizing n after with
  | zero => simp [lowDigits]
  | succ count ih =>
    rw [lowDigits, ih, List.length_cons]
    omega

theorem length_digits (id : Uuid) : id.digits.length = 32 := length_lowDigits _ _ _

/-- The lowest digits of a number are read as what they write of it. -/
theorem continued?_lowDigits (n before : Nat) (after : List Char) (count : Nat) :
    continued? before (lowDigits n after count) =
      continued? (before * 16 ^ count + n % 16 ^ count) after := by
  induction count generalizing n after with
  | zero => simp [lowDigits, Nat.mod_one]
  | succ count ih =>
    have power : 16 ^ (count + 1) = 16 * 16 ^ count := Nat.pow_succ'
    have shifted : before * (16 * 16 ^ count) = before * 16 ^ count * 16 := by
      rw [Nat.mul_comm 16, Nat.mul_assoc]
    rw [lowDigits, ih, continued?, digitValue?_digitChar (Nat.mod_lt n (by decide))]
    simp only [power, shifted, Nat.mod_mul, Nat.add_mul]
    congr 1
    omega

/-- Every character among the lowest digits is a digit. -/
theorem mem_lowDigits {n : Nat} {after : List Char} {count : Nat} {c : Char}
    (member : c ∈ lowDigits n after count) : c ∈ after ∨ ∃ value < 16, c = Nat.digitChar value := by
  induction count generalizing n after with
  | zero => exact .inl member
  | succ count ih =>
    rcases ih member with last | earlier
    · rcases List.mem_cons.mp last with rfl | after
      · exact .inr ⟨n % 16, Nat.mod_lt n (by decide), rfl⟩
      · exact .inl after
    · exact .inr earlier

/-- The digits of an id are read as the id. -/
theorem ofDigits?_digits (id : Uuid) : ofDigits? id.digits = some id := by
  have small : id.bits.toNat < 16 ^ 32 := id.bits.isLt
  have read : continued? 0 id.digits = some id.bits.toNat := by
    rw [digits, continued?_lowDigits, continued?, Nat.zero_mul, Nat.zero_add,
      Nat.mod_eq_of_lt small]
  rw [ofDigits?, if_pos id.length_digits, read, Option.map_some, ofNat, BitVec.ofNat_toNat,
    BitVec.setWidth_eq]

end Digits

section Groups

/-- What follows a group and its hyphen. -/
theorem drop_group {group : List Char} {size : Nat} (length : group.length = size)
    (rest : List Char) (more : Nat) :
    (group ++ '-' :: rest).drop (size + 1 + more) = rest.drop more := by
  subst length
  rw [Nat.add_assoc, List.drop_append, List.drop_eq_nil_of_le (by omega)]
  simp [Nat.add_comm 1]

/-- Five groups with hyphens between them are read as their digits. -/
theorem ofGroups?_append {a b c d e : List Char} (aLength : a.length = 8) (bLength : b.length = 4)
    (cLength : c.length = 4) (dLength : d.length = 4) (eLength : e.length = 12) :
    ofGroups? (a ++ '-' :: (b ++ '-' :: (c ++ '-' :: (d ++ '-' :: e)))) =
      ofDigits? (a ++ b ++ c ++ d ++ e) := by
  have second : (a ++ '-' :: (b ++ '-' :: (c ++ '-' :: (d ++ '-' :: e)))).drop 9 =
      b ++ '-' :: (c ++ '-' :: (d ++ '-' :: e)) := drop_group aLength _ 0
  have third : (a ++ '-' :: (b ++ '-' :: (c ++ '-' :: (d ++ '-' :: e)))).drop 14 =
      c ++ '-' :: (d ++ '-' :: e) := (drop_group aLength _ 5).trans (drop_group bLength _ 0)
  have fourth : (a ++ '-' :: (b ++ '-' :: (c ++ '-' :: (d ++ '-' :: e)))).drop 19 = d ++ '-' :: e :=
    (drop_group aLength _ 10).trans ((drop_group bLength _ 5).trans (drop_group cLength _ 0))
  have fifth : (a ++ '-' :: (b ++ '-' :: (c ++ '-' :: (d ++ '-' :: e)))).drop 24 = e :=
    (drop_group aLength _ 15).trans ((drop_group bLength _ 10).trans
      ((drop_group cLength _ 5).trans (drop_group dLength _ 0)))
  rw [ofGroups?, second, third, fourth, fifth, List.take_left' aLength, List.take_left' bLength,
    List.take_left' cLength, List.take_left' dLength, if_pos]
  simp [aLength, bLength, cLength, dLength, eLength]

/-- The groups of the digits are the digits. -/
theorem groups_append (digits : List Char) :
    digits.take 8 ++ (digits.drop 8).take 4 ++ (digits.drop 12).take 4 ++
      (digits.drop 16).take 4 ++ digits.drop 20 = digits := by
  have next (n : Nat) : (digits.drop n).take 4 ++ digits.drop (n + 4) = digits.drop n := by
    rw [← List.drop_drop, List.take_append_drop]
  rw [List.append_assoc, next, List.append_assoc, next, List.append_assoc, next,
    List.take_append_drop]

/-- The text of an id is read group by group. -/
theorem ofGroups?_chars (id : Uuid) : ofGroups? id.chars = some id := by
  have length := id.length_digits
  have groups := ofGroups?_append (a := id.digits.take 8) (b := (id.digits.drop 8).take 4)
    (c := (id.digits.drop 12).take 4) (d := (id.digits.drop 16).take 4) (e := id.digits.drop 20)
    (by simp [length]) (by simp [length]) (by simp [length]) (by simp [length]) (by simp [length])
  rw [groups_append, ofDigits?_digits] at groups
  simpa only [chars, List.append_assoc, List.cons_append] using groups

end Groups

/-- The text of an id has neither braces nor a mark. -/
theorem core_chars (id : Uuid) : core id.chars = (id.chars, 0, true) := by
  have length := id.length_digits
  cases written : id.digits with
  | nil =>
    rw [written] at length
    cases length
  | cons first rest =>
    have digit : ∃ value < 16, first = Nat.digitChar value := by
      have member : first ∈ id.digits := written ▸ List.mem_cons_self
      exact (mem_lowDigits member).resolve_left List.not_mem_nil
    obtain ⟨value, small, rfl⟩ := digit
    have plain : ∀ value < 16, Nat.digitChar value ≠ '\x7b' ∧ Nat.digitChar value ≠ 'u' := by decide
    obtain ⟨noBrace, noMark⟩ := plain value small
    obtain ⟨after, starts⟩ : ∃ after, id.chars = Nat.digitChar value :: after := by
      rw [chars, written]
      exact ⟨_, rfl⟩
    have unmarked : urnMark.isPrefixOf (Nat.digitChar value :: after) = false := by
      have mark : urnMark = 'u' :: "rn:uuid:".toList := by decide
      rw [mark, List.isPrefixOf, beq_false_of_ne noMark.symm, Bool.false_and]
    rw [starts, core, unmarked]
    · rfl
    · intro rest braced
      exact noBrace (List.cons.inj braced).1

/-- The text of an id is read as the id. -/
theorem read_text (id : Uuid) : read id.text = .ok id := by
  have long : ofDigits? id.chars = none := by
    rw [ofDigits?, if_neg]
    simp [chars, id.length_digits]
  simp only [read, text, String.toList_ofList, core_chars, if_true, long, Option.none_or,
    ofGroups?_chars]

end Outreach.Uuid
