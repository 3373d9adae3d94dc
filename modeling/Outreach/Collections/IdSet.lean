import Outreach.Collections.KeyOrder

/-!
# Sets of ids

A set of 64-bit ids, listed in ascending order. Two sets with the same members are equal.
-/

namespace Outreach

/-- A finite set of ids, listed in strictly ascending order. -/
structure IdSet where
  /-- The members in ascending order. -/
  toList : List Int64
  /-- Every member is below the members after it. -/
  ascending : toList.Pairwise (· < ·)

namespace IdSet

/-- The set without members. -/
def empty : IdSet := ⟨[], .nil⟩

instance : EmptyCollection IdSet := ⟨empty⟩

instance : Inhabited IdSet := ⟨empty⟩

@[ext]
theorem ext {left right : IdSet} (members : left.toList = right.toList) : left = right := by
  cases left; cases right; cases members; rfl

instance : DecidableEq IdSet := fun left right =>
  decidable_of_iff (left.toList = right.toList) ⟨ext, fun same => same ▸ rfl⟩

/-- Whether an id is a member. -/
def contains (set : IdSet) (id : Int64) : Bool := set.toList.contains id

/-- Whether there is no member. -/
def isEmpty (set : IdSet) : Bool := set.toList.isEmpty

/-- Put an id at its place in an ascending list, unless it is there. -/
def insertMember (id : Int64) : List Int64 -> List Int64
  | [] => [id]
  | other :: rest =>
    if id < other then id :: other :: rest
    else if other < id then other :: insertMember id rest
    else other :: rest

theorem mem_insertMember {id other : Int64} {members : List Int64} :
    other ∈ insertMember id members ↔ other = id ∨ other ∈ members := by
  induction members with
  | nil => simp [insertMember]
  | cons head rest ih =>
    unfold insertMember
    split
    · simp
    · split
      · simp only [List.mem_cons, ih]
        constructor
        · rintro (same | same | later)
          · exact .inr (.inl same)
          · exact .inl same
          · exact .inr (.inr later)
        · rintro (same | same | later)
          · exact .inr (.inl same)
          · exact .inl same
          · exact .inr (.inr later)
      · rename_i notBelow notAbove
        have same : id = head := KeyOrder.eq_of_not_lt notBelow notAbove
        subst same
        simp

theorem insertMember_ascending {id : Int64} {members : List Int64}
    (ascending : members.Pairwise (· < ·)) : (insertMember id members).Pairwise (· < ·) := by
  induction ascending with
  | nil => simp [insertMember]
  | @cons head rest headBelow restAscending ih =>
    unfold insertMember
    split
    · rename_i below
      refine .cons ?_ (.cons headBelow restAscending)
      intro member isMember
      rcases List.mem_cons.mp isMember with same | later
      · exact same ▸ below
      · exact KeyOrder.trans below (headBelow member later)
    · split
      · rename_i above
        refine .cons ?_ ih
        intro member isMember
        rcases mem_insertMember.mp isMember with same | later
        · exact same ▸ above
        · exact headBelow member later
      · exact .cons headBelow restAscending

/-- Add an id. -/
def insert (set : IdSet) (id : Int64) : IdSet :=
  ⟨insertMember id set.toList, insertMember_ascending set.ascending⟩

/-- Take an id out. -/
def erase (set : IdSet) (id : Int64) : IdSet :=
  ⟨set.toList.filter (fun member => member ≠ id), set.ascending.filter _⟩

/-- Add every id of a list. -/
def insertAll (set : IdSet) (ids : List Int64) : IdSet := ids.foldl insert set

/-- Take every id of a list out. -/
def eraseAll (set : IdSet) (ids : List Int64) : IdSet := ids.foldl erase set

/-- The set of the ids of a list. -/
def ofList (ids : List Int64) : IdSet := empty.insertAll ids

/-- Whether every member is a member of another set. -/
def isSubset (set other : IdSet) : Bool := set.toList.all other.contains

/-- Whether no member is a member of another set. -/
def isDisjoint (set other : IdSet) : Bool := set.toList.all (fun id => !other.contains id)

end IdSet

end Outreach
