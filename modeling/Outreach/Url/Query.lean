import Outreach.Url

/-!
# Pairs in queries

A query holds pairs of a name and a value. Both are written form-encoded, and a pair is appended
without touching what was in the query before.
-/

namespace Outreach.Url

/-- Whether a byte stands for itself in a form-encoded text. -/
def isPlainByte (byte : UInt8) : Bool :=
  let c := Char.ofNat byte.toNat
  byte.toNat < 0x80 && (c.isAlphanum || ['*', '-', '.', '_'].contains c)

/-- A form-encoded byte; a blank is a plus sign. -/
def formByte (byte : UInt8) : List Char :=
  if isPlainByte byte then [Char.ofNat byte.toNat]
  else if byte = 0x20 then ['+']
  else Percent.encodedByte byte

/-- A form-encoded text. -/
def formEncode (text : List Char) : List Char := (Utf8.encode text).flatMap formByte

/-- The text that a form-encoded text stands for. -/
def formDecode (text : List Char) : List Char :=
  Utf8.lenient (Percent.decode (Utf8.encode (text.map (fun c => if c = '+' then ' ' else c))))

/-- A form-encoded pair. -/
def formPair (name value : List Char) : List Char := formEncode name ++ '=' :: formEncode value

/-- The pairs of a query. An empty part is none, and a part without an equals sign is a name. -/
def pairsOf (query : List Char) : List (List Char × List Char) :=
  ((query.splitOn '&').filter (· ≠ [])).map (fun part =>
    (formDecode (part.takeWhile (· ≠ '=')), formDecode ((part.dropWhile (· ≠ '=')).drop 1)))

/-- The pairs of the query of an address. -/
def pairs (url : Url) : List (List Char × List Char) := (url.query.map pairsOf).getD []

/-- The address with one more pair at the end of its query. -/
def appendPair (url : Url) (name value : List Char) : Url :=
  match url.query with
  | none | some [] => { url with query := some (formPair name value) }
  | some query => { url with query := some (query ++ '&' :: formPair name value) }

end Outreach.Url
