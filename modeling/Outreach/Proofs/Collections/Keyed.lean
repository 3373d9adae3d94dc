import Outreach.Collections.IdSet
import Outreach.Collections.Keyed

/-!
# Entries of maps and members of sets

What is inserted into a map or a set is in it, and a map or a set is made up again from its entries
or members.
-/

namespace Outreach

/-- What is put under a key is an entry. -/
theorem Keyed.mem_insert {κ α : Type} [LT κ] [KeyOrder κ] [DecidableLT κ] (map : Keyed κ α)
    (key : κ)
    (value : α) : (key, value) ∈ (map.insert key value).entries := by
  have listed : forall entries : List (κ × α),
      (key, value) ∈ Keyed.insertEntry key value entries := by
    intro entries
    induction entries with
    | nil => exact List.mem_singleton_self _
    | cons head rest ih =>
      obtain ⟨other, kept⟩ := head
      unfold Keyed.insertEntry
      split
      · exact List.mem_cons_self
      · split
        · exact List.mem_cons_of_mem _ ih
        · exact List.mem_cons_self
  exact listed map.entries

/-- What is found under a key is an entry. -/
theorem Keyed.mem_of_get? {κ α : Type} [LT κ] [DecidableEq κ] {map : Keyed κ α} {key : κ}
    {value : α} (found : map.get? key = some value) : (key, value) ∈ map.entries := by
  obtain ⟨⟨other, kept⟩, isEntry, rfl⟩ := Option.map_eq_some_iff.mp found
  have same : other = key := by simpa using List.find?_some isEntry
  exact same ▸ List.mem_of_find?_eq_some isEntry

/-- What is put under a key is found there. -/
theorem Keyed.get?_insert_self {κ α : Type} [LT κ] [KeyOrder κ] [DecidableLT κ] [DecidableEq κ]
    (map : Keyed κ α) (key : κ) (value : α) : (map.insert key value).get? key = some value := by
  have found : forall entries : List (κ × α),
      (Keyed.insertEntry key value entries).find? (fun entry => entry.1 = key) =
        some (key, value) := by
    intro entries
    induction entries with
    | nil => simp [insertEntry]
    | cons head rest ih =>
      obtain ⟨other, kept⟩ := head
      unfold insertEntry
      split
      · simp
      · split
        · rename_i below
          have apart : other ≠ key := fun same => KeyOrder.irrefl key (same ▸ below)
          rw [List.find?_cons_of_neg (by simpa using apart), ih]
        · simp
  rw [get?, insert, found, Option.map_some]

/-- Under every other key the same is found as before. -/
theorem Keyed.get?_insert_of_ne {κ α : Type} [LT κ] [KeyOrder κ] [DecidableLT κ] [DecidableEq κ]
    (map : Keyed κ α) {key other : κ} (value : α) (apart : other ≠ key) :
    (map.insert key value).get? other = map.get? other := by
  have found : forall entries : List (κ × α),
      (Keyed.insertEntry key value entries).find? (fun entry => entry.1 = other) =
        entries.find? (fun entry => entry.1 = other) := by
    intro entries
    induction entries with
    | nil => simp [insertEntry, Ne.symm apart]
    | cons head rest ih =>
      obtain ⟨first, kept⟩ := head
      unfold insertEntry
      split
      · simp [Ne.symm apart]
      · split
        · rw [List.find?_cons, List.find?_cons, ih]
        · rename_i notBelow notAbove
          obtain rfl : key = first := KeyOrder.eq_of_not_lt notBelow notAbove
          simp [Ne.symm apart]
  rw [get?, insert, found, get?]

theorem Keyed.get?_insert {κ α : Type} [LT κ] [KeyOrder κ] [DecidableLT κ] [DecidableEq κ]
    (map : Keyed κ α) (key other : κ) (value : α) :
    (map.insert key value).get? other = if other = key then some value else map.get? other := by
  by_cases same : other = key
  · rw [if_pos same, same, get?_insert_self]
  · rw [if_neg same, get?_insert_of_ne map value same]

/-- A map stays as it is if what is found under a key is put there again. -/
theorem Keyed.insert_of_get? {κ α : Type} [LT κ] [KeyOrder κ] [DecidableLT κ] [DecidableEq κ]
    {map : Keyed κ α} {key : κ} {value : α} (found : map.get? key = some value) :
    map.insert key value = map := by
  have same : forall entries : List (κ × α),
      entries.Pairwise (fun earlier later => earlier.1 < later.1) -> (key, value) ∈ entries ->
        insertEntry key value entries = entries := by
    intro entries ascending
    induction ascending with
    | nil => exact fun none => absurd none List.not_mem_nil
    | @cons head rest headBelow _ ih =>
      intro member
      unfold insertEntry
      rcases List.mem_cons.mp member with rfl | later
      · rw [if_neg (KeyOrder.irrefl key), if_neg (KeyOrder.irrefl key)]
      · have below : head.1 < key := headBelow _ later
        have notAbove : ¬ key < head.1 := fun above =>
          KeyOrder.irrefl key (KeyOrder.trans above below)
        rw [if_neg notAbove, if_pos below, ih later]
  exact Keyed.ext (same map.entries map.ascending (mem_of_get? found))

theorem Keyed.contains_iff {κ α : Type} [LT κ] [DecidableEq κ] {map : Keyed κ α} {key : κ} :
    map.contains key = true ↔ key ∈ map.keys := by
  simp [contains, get?, keys]

theorem Keyed.mem_keys_insert {κ α : Type} [LT κ] [KeyOrder κ] [DecidableLT κ] {map : Keyed κ α}
    {key other : κ} {value : α} (member : other ∈ (map.insert key value).keys) :
    other = key ∨ other ∈ map.keys := by
  obtain ⟨entry, listed, rfl⟩ := List.mem_map.mp member
  rcases mem_insertEntry listed with rfl | before
  · exact .inl rfl
  · exact .inr (List.mem_map_of_mem before)

theorem Keyed.mem_keys_of_erase {κ α : Type} [LT κ] [DecidableEq κ] {map : Keyed κ α}
    {key other : κ} (member : other ∈ (map.erase key).keys) : other ∈ map.keys := by
  obtain ⟨entry, listed, rfl⟩ := List.mem_map.mp member
  exact List.mem_map_of_mem (List.mem_filter.mp listed).1

/-- What is put under a key that a map does not have comes in between the entries that are there. -/
theorem Keyed.insertEntry_split {κ α : Type} [LT κ] [KeyOrder κ] [DecidableLT κ] {key : κ}
    {entries : List (κ × α)} (value : α) (absent : ∀ entry ∈ entries, entry.1 ≠ key) :
    ∃ before after, entries = before ++ after ∧
      Keyed.insertEntry key value entries = before ++ (key, value) :: after := by
  induction entries with
  | nil => exact ⟨[], [], rfl, rfl⟩
  | cons head rest ih =>
    obtain ⟨other, kept⟩ := head
    obtain ⟨apart, later⟩ := List.forall_mem_cons.mp absent
    unfold insertEntry
    split
    · exact ⟨[], (other, kept) :: rest, rfl, rfl⟩
    · split
      · obtain ⟨before, after, rfl, inserted⟩ := ih later
        exact ⟨(other, kept) :: before, after, rfl, by rw [inserted, List.cons_append]⟩
      · rename_i notBelow notAbove
        exact absurd (KeyOrder.eq_of_not_lt notAbove notBelow) apart

/-- A map grows by one entry if something is put under a key that it does not have. -/
theorem Keyed.size_insert_of_absent {κ α : Type} [LT κ] [KeyOrder κ] [DecidableLT κ]
    [DecidableEq κ] {map : Keyed κ α} {key : κ} (value : α) (absent : map.get? key = none) :
    (map.insert key value).size = map.size + 1 := by
  have apart : ∀ entry ∈ map.entries, entry.1 ≠ key := by
    intro entry member same
    have present : map.contains key = true :=
      contains_iff.mpr (List.mem_map.mpr ⟨entry, member, same⟩)
    rw [contains, absent] at present
    cases present
  obtain ⟨before, after, entries, inserted⟩ := insertEntry_split value apart
  show (insertEntry key value map.entries).length = map.entries.length + 1
  rw [inserted, entries, List.length_append, List.length_append, List.length_cons]
  omega

/-- What is put in from another map counts before what was there. -/
theorem Keyed.get?_insertAll {κ α : Type} [LT κ] [KeyOrder κ] [DecidableLT κ] [DecidableEq κ]
    (map others : Keyed κ α) (key : κ) :
    (others.entries.foldl (fun all entry => all.insert entry.1 entry.2) map).get? key =
      (others.get? key).or (map.get? key) := by
  have found : forall entries : List (κ × α),
      entries.Pairwise (fun earlier later => earlier.1 < later.1) -> forall map : Keyed κ α,
        (entries.foldl (fun all entry => all.insert entry.1 entry.2) map).get? key =
          ((entries.find? (fun entry => entry.1 = key)).map Prod.snd).or (map.get? key) := by
    intro entries ascending
    induction ascending with
    | nil => exact fun map => rfl
    | @cons head rest headBelow _ ih =>
      obtain ⟨first, value⟩ := head
      intro map
      rw [List.foldl_cons, ih]
      by_cases here : first = key
      · subst here
        -- The key does not come again among those that follow.
        have absent : ∀ entry ∈ rest, ¬ (decide (entry.1 = first)) = true := by
          intro entry later same
          have below := headBelow entry later
          rw [of_decide_eq_true same] at below
          exact KeyOrder.irrefl _ below
        rw [List.find?_eq_none.mpr absent, get?_insert_self]
        simp
      · rw [get?_insert_of_ne map value (Ne.symm here),
          List.find?_cons_of_neg (by simpa using here)]
  exact found others.entries others.ascending map

/-- Nothing is found under a key that has been taken out. -/
theorem Keyed.get?_erase_self {κ α : Type} [LT κ] [DecidableEq κ] (map : Keyed κ α) (key : κ) :
    (map.erase key).get? key = none := by
  rw [get?, erase, Option.map_eq_none_iff, List.find?_eq_none]
  intro entry member
  have apart := (List.mem_filter.mp member).2
  simpa using apart

/-- A value that is inserted after all other keys becomes the last entry. -/
theorem Keyed.insertEntry_above {α : Type} {key : String} {value : α}
    {entries : List (String × α)} (above : ∀ entry ∈ entries, entry.1 < key) :
    Keyed.insertEntry key value entries = entries ++ [(key, value)] := by
  induction entries with
  | nil => rfl
  | cons head rest ih =>
    obtain ⟨other, kept⟩ := head
    have below : other < key := above _ List.mem_cons_self
    have notBelow : ¬ key < other := fun reverse =>
      KeyOrder.irrefl key (KeyOrder.trans reverse below)
    rw [insertEntry, if_neg notBelow, if_pos below,
      ih (fun entry member => above entry (List.mem_cons_of_mem _ member)), List.cons_append]

/-- A map is the map of its entries. -/
theorem Keyed.ofList_entries {α : Type} (map : Keyed String α) :
    Keyed.ofList map.entries = map := by
  have grown : ∀ (rest : List (String × α)) (front : Keyed String α),
      (front.entries ++ rest).Pairwise (fun earlier later => earlier.1 < later.1) ->
      (rest.foldl (fun map entry => map.insert entry.1 entry.2) front).entries =
        front.entries ++ rest := by
    intro rest
    induction rest with
    | nil => intro front _; exact (List.append_nil _).symm
    | cons entry rest ih =>
      intro front ascending
      have above : ∀ earlier ∈ front.entries, earlier.1 < entry.1 := fun earlier member =>
        (List.pairwise_append.mp ascending).2.2 earlier member entry List.mem_cons_self
      have inserted : (front.insert entry.1 entry.2).entries = front.entries ++ [entry] :=
        insertEntry_above above
      rw [List.foldl_cons, ih]
      · rw [inserted, List.append_assoc, List.singleton_append]
      · rw [inserted, List.append_assoc, List.singleton_append]
        exact ascending
  exact Keyed.ext (grown map.entries .empty map.ascending)

/-- What is put into a set is a member, and so is what was one before. -/
theorem IdSet.mem_insert {set : IdSet} {id other : Int64} :
    other ∈ (set.insert id).toList ↔ other = id ∨ other ∈ set.toList :=
  mem_insertMember

theorem IdSet.isEmpty_iff {set : IdSet} : set.isEmpty = true ↔ set.toList = [] := List.isEmpty_iff

theorem IdSet.isSubset_iff {set other : IdSet} :
    set.isSubset other = true ↔ ∀ id ∈ set.toList, id ∈ other.toList := by
  simp [isSubset, contains]

theorem IdSet.isDisjoint_iff {set other : IdSet} :
    set.isDisjoint other = true ↔ ∀ id ∈ set.toList, id ∉ other.toList := by
  simp [isDisjoint, contains]

/-- An id that is inserted after all other members becomes the last one. -/
theorem IdSet.insertMember_above {id : Int64} {members : List Int64}
    (above : ∀ member ∈ members, member < id) :
    IdSet.insertMember id members = members ++ [id] := by
  induction members with
  | nil => rfl
  | cons other rest ih =>
    have below : other < id := above _ List.mem_cons_self
    have notBelow : ¬ id < other := fun reverse =>
      KeyOrder.irrefl id (KeyOrder.trans reverse below)
    rw [insertMember, if_neg notBelow, if_pos below,
      ih (fun member isMember => above member (List.mem_cons_of_mem _ isMember)),
      List.cons_append]

/-- A set is the set of its members. -/
theorem IdSet.ofList_toList (set : IdSet) : IdSet.ofList set.toList = set := by
  have grown : ∀ (rest : List Int64) (front : IdSet),
      (front.toList ++ rest).Pairwise (· < ·) ->
      (rest.foldl insert front).toList = front.toList ++ rest := by
    intro rest
    induction rest with
    | nil => intro front _; exact (List.append_nil _).symm
    | cons id rest ih =>
      intro front ascending
      have above : ∀ earlier ∈ front.toList, earlier < id := fun earlier member =>
        (List.pairwise_append.mp ascending).2.2 earlier member id List.mem_cons_self
      have inserted : (front.insert id).toList = front.toList ++ [id] := insertMember_above above
      rw [List.foldl_cons, ih]
      · rw [inserted, List.append_assoc, List.singleton_append]
      · rw [inserted, List.append_assoc, List.singleton_append]
        exact ascending
  exact IdSet.ext (grown set.toList .empty set.ascending)

end Outreach
