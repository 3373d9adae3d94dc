import Outreach.Json.Basic
import Outreach.Decimal.Shortest
import Outreach.Text.Quoted
import Outreach.Time.Reader
import Outreach.Uuid

/-!
# Why a document is refused

A JSON document that does not have the shape of a record is refused with a cause. The wording
names what was found and what was expected there.
-/

namespace Outreach

/-- What was found at a place of a document. -/
inductive Found where
  | bool (value : Bool)
  | integer (value : Int)
  | real (value : Binary64)
  | string (value : String)
  | null
  | sequence
  | map

/-- What a value shows itself as. -/
def Found.ofJson : Json -> Found
  | .null => .null
  | .bool value => .bool value
  | .integer value => .integer value
  | .real value => .real value
  | .string value => .string value
  | .array _ => .sequence
  | .object _ => .map

/-- The wording of what was found. -/
def Found.message : Found -> String
  | .bool value => "boolean `" ++ (if value then "true" else "false") ++ "`"
  | .integer value => "integer `" ++ Digits.intText value ++ "`"
  | .real value => "floating point `" ++ String.ofList value.text ++ "`"
  | .string value => "string " ++ Text.quoted value
  | .null => "null"
  | .sequence => "sequence"
  | .map => "map"

/-- Why a document is refused. -/
inductive DecodeError where
  /-- A value of another kind than expected. -/
  | invalidType (found : Found) (expected : String)
  /-- A value of the expected kind that is out of place. -/
  | invalidValue (found : Found) (expected : String)
  /-- An array with too few or too many items. -/
  | invalidLength (length : Nat) (expected : String)
  /-- A record without one of its fields. -/
  | missingField (name : String)
  /-- A record that has a field twice. -/
  | duplicateField (name : String)
  /-- A name that is none of the listed ones. -/
  | unknownVariant (found : String) (known : List String)
  /-- A text that writes no id. -/
  | uuid (fault : Uuid.ReadFault)
  /-- A text that writes no instant. -/
  | instant (fault : Time.ReadFault)

/-- The names that are allowed, in words. -/
def DecodeError.alternatives (known : List String) : String :=
  match known with
  | [only] => "`" ++ only ++ "`"
  | [first, second] => "`" ++ first ++ "` or `" ++ second ++ "`"
  | names => "one of " ++ String.intercalate ", " (names.map (fun name => "`" ++ name ++ "`"))

/-- The wording of a cause. -/
def DecodeError.message : DecodeError -> String
  | .invalidType found expected =>
    "invalid type: " ++ found.message ++ ", expected " ++ expected
  | .invalidValue found expected =>
    "invalid value: " ++ found.message ++ ", expected " ++ expected
  | .invalidLength length expected =>
    "invalid length " ++ Digits.natText length ++ ", expected " ++ expected
  | .missingField name => "missing field `" ++ name ++ "`"
  | .duplicateField name => "duplicate field `" ++ name ++ "`"
  | .unknownVariant found known =>
    "unknown variant `" ++ found ++ "`, expected " ++ alternatives known
  | .uuid fault => "UUID parsing failed: " ++ fault.message
  | .instant fault => fault.message

end Outreach
