import Outreach.Decode.Value

/-!
# Decoding records

A record is written as an object of its fields or as an array of them in order. The fields of an
object are visited in the order in which they stand there, and the first one that cannot be
decoded is reported; only then are missing fields. An array is read item by item, so a missing
item is reported where it is missing, and items that are left over come last.
-/

namespace Outreach

/-- The outline of a record type. -/
structure Layout where
  /-- The name of the type in messages. -/
  name : String
  /-- The fields in their order. -/
  fields : List String

/-- The wording of a record type. -/
def Layout.description (layout : Layout) : String := "struct " ++ layout.name

/-- The wording of a record type with the number of its fields. -/
def Layout.extent (layout : Layout) : String :=
  layout.description ++ " with " ++ Digits.natText layout.fields.length ++
    (if layout.fields.length = 1 then " element" else " elements")

/-- The content of a record. -/
inductive Content where
  /-- The fields by name. -/
  | byName (members : List (String × Json))
  /-- The fields by position. -/
  | byPosition (items : List Json)

/-- A record that is being decoded. -/
structure Record where
  layout : Layout
  content : Content

/-- A field of a record, decoded if it is there. -/
structure Slot (α : Type) where
  /-- The name of the field. -/
  name : String
  /-- What is reported when the field is required and missing. -/
  absence : DecodeError
  /-- Whether a missing field is one that could have been left out by name. -/
  byName : Bool
  /-- The decoded field, or why it cannot be decoded. -/
  value : Option (Except DecodeError α)

namespace Record

/-- The record that a value writes. -/
def open? (layout : Layout) : Decoder Record
  | .object members => .ok ⟨layout, .byName members⟩
  | .array items => .ok ⟨layout, .byPosition items⟩
  | other => Decode.refuse other layout.description

/-- Decode one field. -/
def slot {α : Type} (record : Record) (name : String) (decode : Decoder α) : Slot α :=
  match record.content with
  | .byName members =>
    ⟨name, .missingField name, true, (members.lookup name).map decode⟩
  | .byPosition items =>
    let position := record.layout.fields.idxOf name
    ⟨name, .invalidLength position record.layout.extent, false, items[position]?.map decode⟩

/-- The name of a field that occurs twice among the members, if one does. -/
def repeated? (layout : Layout) : List (String × Json) -> Option String
  | [] => none
  | (name, _) :: rest =>
    if layout.fields.contains name && (rest.lookup name).isSome then some name
    else repeated? layout rest

/-- Report the first member that cannot be decoded. A record by position is read item by item
instead. -/
def visit (record : Record) (problems : List (String × Option DecodeError)) :
    Except DecodeError Unit :=
  match record.content with
  | .byPosition _ => .ok ()
  | .byName members =>
    match members.findSome? (fun member => (problems.lookup member.1).join) with
    | some problem => .error problem
    | none =>
      match repeated? record.layout members with
      | some name => .error (.duplicateField name)
      | none => .ok ()

/-- Report items that are left over. -/
def close (record : Record) : Except DecodeError Unit :=
  match record.content with
  | .byName _ => .ok ()
  | .byPosition items =>
    if record.layout.fields.length < items.length then
      .error (.invalidLength items.length "fewer elements in array")
    else .ok ()

end Record

namespace Slot

variable {α : Type}

/-- Why the field cannot be decoded, under its name. -/
def problem (slot : Slot α) : String × Option DecodeError :=
  match slot.value with
  | some (.error cause) => (slot.name, some cause)
  | _ => (slot.name, none)

/-- The value of a field that must be there. -/
def required (slot : Slot α) : Except DecodeError α :=
  match slot.value with
  | some value => value
  | none => .error slot.absence

/-- The value of a field that has a default. -/
def withDefault (slot : Slot α) (default : α) : Except DecodeError α :=
  match slot.value with
  | some value => value
  | none => .ok default

/-- The value of an optional field, which an object may leave out. -/
def orNone (slot : Slot (Option α)) : Except DecodeError (Option α) :=
  match slot.value with
  | some value => value
  | none => if slot.byName then .ok none else .error slot.absence

end Slot

end Outreach
