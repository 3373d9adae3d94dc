import Outreach.Collections.IdSet
import Outreach.Decode.Error

/-!
# Decoding values

A decoder turns a JSON value into a value of a domain type or says why it cannot.
-/

namespace Outreach

/-- What turns a JSON value into a value of another type. -/
abbrev Decoder (α : Type) := Json -> Except DecodeError α

namespace Decode

/-- Refuse a value as of another kind than expected. -/
def refuse {α : Type} (json : Json) (expected : String) : Except DecodeError α :=
  .error (.invalidType (.ofJson json) expected)

/-- A whole number within bounds. -/
def integerWithin (least most : Int) (expected : String) : Decoder Int
  | .integer value =>
    if least <= value && value <= most then .ok value
    else .error (.invalidValue (.integer value) expected)
  | other => refuse other expected

/-- A signed word of 64 bits. -/
def int64 : Decoder Int64 := fun json =>
  (integerWithin Int64.minValue.toInt Int64.maxValue.toInt "i64" json).map Int64.ofInt

/-- A signed word of 32 bits. -/
def int32 : Decoder Int32 := fun json =>
  (integerWithin Int32.minValue.toInt Int32.maxValue.toInt "i32" json).map Int32.ofInt

/-- An unsigned word of 32 bits. -/
def uint32 : Decoder UInt32 := fun json =>
  (integerWithin 0 (UInt32.size - 1) "u32" json).map (fun value => UInt32.ofNat value.toNat)

/-- A truth value. -/
def bool : Decoder Bool
  | .bool value => .ok value
  | other => refuse other "a boolean"

/-- A text. -/
def string : Decoder String
  | .string value => .ok value
  | other => refuse other "a string"

/-- Any value, as it is. -/
def any : Decoder Json := .ok

/-- Nothing, or a value. -/
def optional {α : Type} (decode : Decoder α) : Decoder (Option α)
  | .null => .ok none
  | other => (decode other).map some

/-- The items of an array, each decoded. -/
def items {α : Type} (decode : Decoder α) : List Json -> Except DecodeError (List α)
  | [] => .ok []
  | item :: rest => do
    let first <- decode item
    let others <- items decode rest
    .ok (first :: others)

/-- A list. -/
def list {α : Type} (decode : Decoder α) : Decoder (List α)
  | .array values => items decode values
  | other => refuse other "a sequence"

/-- A set of ids; repetitions are allowed. -/
def idSet : Decoder IdSet := fun json => (list int64 json).map IdSet.ofList

/-- The members of an object, each value decoded. -/
def members {α : Type} (decode : Decoder α) :
    List (String × Json) -> Except DecodeError (List (String × α))
  | [] => .ok []
  | (name, value) :: rest => do
    let first <- decode value
    let others <- members decode rest
    .ok ((name, first) :: others)

/-- A map from texts. -/
def map {α : Type} (decode : Decoder α) : Decoder (Keyed String α)
  | .object entries => (members decode entries).map Keyed.ofList
  | other => refuse other "a map"

/-- A universally unique id. -/
def uuid : Decoder Uuid
  | .string text =>
    match Uuid.read text with
    | .ok id => .ok id
    | .error fault => .error (.uuid fault)
  | other => refuse other "a formatted UUID string"

/-- An instant in the relaxed form. -/
def instant : Decoder Instant
  | .string text =>
    match Time.relaxed text.toList with
    | .ok value => .ok value
    | .error fault => .error (.instant fault)
  | other => refuse other "an RFC 3339 formatted date and time string"

/-- The value that a name stands for among named values. -/
def named {α : Type} (known : List (String × α)) (name : String) : Except DecodeError α :=
  match known.lookup name with
  | some value => .ok value
  | none => .error (.unknownVariant name (known.map Prod.fst))

/-- One of some named values: its name, or an object with that name as its only member and
nothing as the value. -/
def variant {α : Type} (known : List (String × α)) : Decoder α
  | .string name => named known name
  | .object [(name, content)] => do
    let value <- named known name
    match content with
    | .null => .ok value
    | other => refuse other "unit"
  | .object _ => .error (.invalidValue .map "map with a single key")
  | other => refuse other "string or map"

end Decode

end Outreach
