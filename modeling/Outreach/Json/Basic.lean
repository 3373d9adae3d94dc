import Outreach.Collections.Keyed
import Outreach.Decimal.Binary64

/-!
# JSON values

A JSON value keeps whole numbers of 64 bits apart from all other numbers, which are binary
fractions. An object is a list of members; a *canonical* object lists every name once, in
ascending order.
-/

namespace Outreach

/-- A JSON value. -/
inductive Json where
  | null
  | bool (value : Bool)
  /-- A whole number between the least signed and the greatest unsigned 64-bit word. -/
  | integer (value : Int)
  /-- Any other number. -/
  | real (value : Binary64)
  | string (value : String)
  | array (items : List Json)
  | object (members : List (String × Json))
deriving Inhabited

namespace Json

/-- Whether two values are written alike. -/
def same : Json -> Json -> Bool
  | .null, .null => true
  | .bool left, .bool right => left == right
  | .integer left, .integer right => left == right
  | .real left, .real right => left == right
  | .string left, .string right => left == right
  | .array left, .array right => sameItems left right
  | .object left, .object right => sameMembers left right
  | _, _ => false
where
  /-- Whether two lists hold the same values. -/
  sameItems : List Json -> List Json -> Bool
    | [], [] => true
    | left :: lefts, right :: rights => same left right && sameItems lefts rights
    | _, _ => false
  /-- Whether two lists hold the same members. -/
  sameMembers : List (String × Json) -> List (String × Json) -> Bool
    | [], [] => true
    | (leftName, left) :: lefts, (rightName, right) :: rights =>
      leftName == rightName && same left right && sameMembers lefts rights
    | _, _ => false

instance : BEq Json := ⟨same⟩

/-- The value with the members of every object in ascending order of their names. Of members
with one name the last counts. -/
def canonical : Json -> Json
  | .array items => .array (canonicalItems items)
  | .object members => .object (Keyed.ofList (canonicalMembers members)).entries
  | other => other
where
  /-- The canonical forms of the items of an array. -/
  canonicalItems : List Json -> List Json
    | [] => []
    | item :: rest => canonical item :: canonicalItems rest
  /-- The members of an object with canonical values. -/
  canonicalMembers : List (String × Json) -> List (String × Json)
    | [] => []
    | (name, value) :: rest => (name, canonical value) :: canonicalMembers rest

/-- How deeply arrays and objects are nested in a value, plus one. -/
def height : Json -> Nat
  | .array items => itemsHeight items + 1
  | .object members => membersHeight members + 1
  | _ => 1
where
  /-- The greatest height among the items. -/
  itemsHeight : List Json -> Nat
    | [] => 0
    | item :: rest => max (height item) (itemsHeight rest)
  /-- The greatest height among the values of the members. -/
  membersHeight : List (String × Json) -> Nat
    | [] => 0
    | (_, value) :: rest => max (height value) (membersHeight rest)

/-- The member of an object with a given name. -/
def member? (json : Json) (name : String) : Option Json :=
  match json with
  | .object members => members.lookup name
  | _ => none

/-- The value of an option: `null` when there is none. -/
def ofOption {α : Type} (encode : α -> Json) : Option α -> Json
  | some value => encode value
  | none => .null

/-- The array of the forms of a list's items. -/
def ofList {α : Type} (encode : α -> Json) (items : List α) : Json := .array (items.map encode)

/-- A 64-bit word as a number. -/
def ofInt64 (word : Int64) : Json := .integer word.toInt

/-- A natural number. -/
def ofNat (n : Nat) : Json := .integer n

end Json

end Outreach
