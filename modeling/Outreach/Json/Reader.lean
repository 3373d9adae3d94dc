import Outreach.Json.Token

/-!
# Reading JSON

The value that a sequence of tokens writes. Reading is a machine that takes one token at a
time and keeps the arrays and objects that are still open.
-/

namespace Outreach.Json

/-- An array or object that is still open, with what it holds so far, last first. -/
inductive Frame where
  | array (items : List Json)
  /-- An object that waits for the value of the member `name`. -/
  | object (members : List (String × Json)) (name : String)

/-- What has been read of a value. -/
inductive Reading where
  /-- A value comes next; `first` if it would be the first item of an array. -/
  | expectValue (frames : List Frame) (first : Bool)
  /-- The name of a member comes next; `first` if it would be the first of its object. -/
  | expectName (members : List (String × Json)) (frames : List Frame) (first : Bool)
  /-- The colon after the name of a member comes next. -/
  | expectColon (members : List (String × Json)) (name : String) (frames : List Frame)
  /-- A value is complete. -/
  | complete (value : Json) (frames : List Frame)

namespace Reading

/-- Take one token. Arrays and objects are nested to fewer than `limit` levels. -/
def step (limit : Nat) : Reading -> Token -> Option Reading
  | .expectValue frames _, .openArray =>
    if frames.length + 1 < limit then some (.expectValue (.array [] :: frames) true) else none
  | .expectValue frames _, .openObject =>
    if frames.length + 1 < limit then some (.expectName [] frames true) else none
  | .expectValue (.array [] :: frames) true, .closeArray => some (.complete (.array []) frames)
  | .expectValue frames _, .scalar value => some (.complete value frames)
  | .expectValue frames _, .text value => some (.complete (.string value) frames)
  | .expectName _ frames true, .closeObject => some (.complete (.object []) frames)
  | .expectName members frames _, .text name => some (.expectColon members name frames)
  | .expectColon members name frames, .colon =>
    some (.expectValue (.object members name :: frames) false)
  | .complete value (.array items :: frames), .comma =>
    some (.expectValue (.array (value :: items) :: frames) false)
  | .complete value (.array items :: frames), .closeArray =>
    some (.complete (.array (value :: items).reverse) frames)
  | .complete value (.object members name :: frames), .comma =>
    some (.expectName ((name, value) :: members) frames false)
  | .complete value (.object members name :: frames), .closeObject =>
    some (.complete (.object ((name, value) :: members).reverse) frames)
  | _, _ => none

/-- Take tokens in order. -/
def steps (limit : Nat) : Reading -> List Token -> Option Reading
  | reading, [] => some reading
  | reading, token :: rest => (reading.step limit token).bind (fun next => steps limit next rest)

/-- The value, once nothing is open any more. -/
def finished? : Reading -> Option Json
  | .complete value [] => some value
  | _ => none

end Reading

/-- How deeply a document that was stored as a text may be nested. -/
def documentNesting : Nat := 128

/-- The value that a sequence of tokens writes, nested to fewer than `limit` levels. -/
def ofTokens? (limit : Nat) (tokens : List Token) : Option Json :=
  (Reading.steps limit (.expectValue [] false) tokens).bind Reading.finished?

/-- The value that a text writes, with the members of objects as they stand there. -/
def ofText? (limit : Nat) (text : List Char) : Option Json :=
  (tokens? text).bind (ofTokens? limit)

end Outreach.Json
