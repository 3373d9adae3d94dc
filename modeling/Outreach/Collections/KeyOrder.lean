/-!
# Key orders

Sets and maps of this library keep their keys in strictly ascending order, so that two
collections with the same content are the same value and a listing is always sorted.
`KeyOrder` is what they ask of the order of their keys.
-/

namespace Outreach

/-- A strict order in which any two distinct keys are comparable. -/
class KeyOrder (κ : Type) [LT κ] : Prop where
  /-- No key is below itself. -/
  irrefl : forall a : κ, ¬ a < a
  /-- Being below is transitive. -/
  trans : forall {a b c : κ}, a < b -> b < c -> a < c
  /-- Keys of which neither is below the other are equal. -/
  eq_of_not_lt : forall {a b : κ}, ¬ a < b -> ¬ b < a -> a = b

instance : KeyOrder Int64 where
  irrefl _ := Int64.lt_irrefl
  trans := Int64.lt_trans
  eq_of_not_lt {a b} notBelow notAbove := by
    rw [Int64.lt_iff_toInt_lt] at notBelow notAbove
    exact Int64.toInt_inj.mp (by omega)

/-- Texts are ordered by their code points. -/
instance : KeyOrder String where
  irrefl := String.lt_irrefl
  trans := String.lt_trans
  eq_of_not_lt notBelow notAbove :=
    String.le_antisymm (String.not_lt.mp notAbove) (String.not_lt.mp notBelow)

end Outreach
