import Outreach.Collections.KeyOrder

/-!
# Maps with ascending keys

`Keyed κ α` is a finite map whose entries are listed in strictly ascending order of their
keys. Inserting under a key that is present replaces its value.
-/

namespace Outreach

/-- A finite map, listed by ascending key. -/
structure Keyed (κ α : Type) [LT κ] where
  /-- The entries in ascending order of their keys. -/
  entries : List (κ × α)
  /-- Every key is below the keys after it; in particular no key occurs twice. -/
  ascending : entries.Pairwise (fun earlier later => earlier.1 < later.1)

namespace Keyed

variable {κ α : Type} [LT κ]

/-- The map without entries. -/
def empty : Keyed κ α := ⟨[], .nil⟩

instance : EmptyCollection (Keyed κ α) := ⟨empty⟩

instance : Inhabited (Keyed κ α) := ⟨empty⟩

@[ext]
theorem ext {left right : Keyed κ α} (entries : left.entries = right.entries) :
    left = right := by
  cases left; cases right; cases entries; rfl

/-- Equality of maps is equality of their entries. -/
instance [DecidableEq κ] [DecidableEq α] : DecidableEq (Keyed κ α) := fun left right =>
  decidable_of_iff (left.entries = right.entries) ⟨ext, fun same => same ▸ rfl⟩

/-- The keys in ascending order. -/
def keys (map : Keyed κ α) : List κ := map.entries.map Prod.fst

/-- The values in ascending order of their keys. -/
def values (map : Keyed κ α) : List α := map.entries.map Prod.snd

/-- The number of entries. -/
def size (map : Keyed κ α) : Nat := map.entries.length

/-- The value under a key. -/
def get? [DecidableEq κ] (map : Keyed κ α) (key : κ) : Option α :=
  (map.entries.find? (fun entry => entry.1 = key)).map Prod.snd

/-- Whether a key has a value. -/
def contains [DecidableEq κ] (map : Keyed κ α) (key : κ) : Bool := (map.get? key).isSome

/-- Put an entry at its place in a list of entries, over one with the same key. -/
def insertEntry [DecidableLT κ] (key : κ) (value : α) : List (κ × α) -> List (κ × α)
  | [] => [(key, value)]
  | (other, kept) :: rest =>
    if key < other then (key, value) :: (other, kept) :: rest
    else if other < key then (other, kept) :: insertEntry key value rest
    else (key, value) :: rest

theorem mem_insertEntry [DecidableLT κ] {key : κ} {value : α} {entries : List (κ × α)}
    {entry : κ × α} (member : entry ∈ insertEntry key value entries) :
    entry = (key, value) ∨ entry ∈ entries := by
  induction entries with
  | nil => simpa [insertEntry] using member
  | cons head rest ih =>
    obtain ⟨other, kept⟩ := head
    unfold insertEntry at member
    split at member
    · simpa using member
    · split at member
      · rcases List.mem_cons.mp member with same | later
        · exact .inr (by simp [same])
        · rcases ih later with same | later
          · exact .inl same
          · exact .inr (List.mem_cons_of_mem _ later)
      · rcases List.mem_cons.mp member with same | later
        · exact .inl same
        · exact .inr (List.mem_cons_of_mem _ later)

theorem insertEntry_ascending [KeyOrder κ] [DecidableLT κ] {key : κ} {value : α}
    {entries : List (κ × α)}
    (ascending : entries.Pairwise (fun earlier later => earlier.1 < later.1)) :
    (insertEntry key value entries).Pairwise (fun earlier later => earlier.1 < later.1) := by
  induction ascending with
  | nil => simp [insertEntry]
  | @cons head rest headBelow restAscending ih =>
    obtain ⟨other, kept⟩ := head
    unfold insertEntry
    split
    · rename_i below
      refine .cons ?_ (.cons headBelow restAscending)
      intro entry member
      rcases List.mem_cons.mp member with same | later
      · simpa [same] using below
      · exact KeyOrder.trans below (headBelow entry later)
    · rename_i notBelow
      split
      · rename_i above
        refine .cons ?_ ih
        intro entry member
        rcases mem_insertEntry member with same | later
        · simpa [same] using above
        · exact headBelow entry later
      · rename_i notAbove
        have same : key = other := KeyOrder.eq_of_not_lt notBelow notAbove
        subst same
        exact .cons headBelow restAscending

/-- Put a value under a key, in place of the value it had. -/
def insert [KeyOrder κ] [DecidableLT κ] (map : Keyed κ α) (key : κ) (value : α) : Keyed κ α :=
  ⟨insertEntry key value map.entries, insertEntry_ascending map.ascending⟩

/-- Take a key out, with its value. -/
def erase [DecidableEq κ] (map : Keyed κ α) (key : κ) : Keyed κ α :=
  ⟨map.entries.filter (fun entry => entry.1 ≠ key), map.ascending.filter _⟩

/-- The map of a list of entries; of entries with one key the last counts. -/
def ofList [KeyOrder κ] [DecidableLT κ] (entries : List (κ × α)) : Keyed κ α :=
  entries.foldl (fun map entry => map.insert entry.1 entry.2) empty

/-- Replace every value, keeping the keys. -/
def mapValues {β : Type} (map : Keyed κ α) (change : α -> β) : Keyed κ β :=
  ⟨map.entries.map (fun entry => (entry.1, change entry.2)), by
    rw [List.pairwise_map]
    exact map.ascending⟩

end Keyed

end Outreach
