import Outreach.Text.LowerCase
import Outreach.Text.Quoted
import Outreach.Url.Query
import Outreach.Url.Reader

/-!
# Addresses of databases

The address of a database says where it is, who uses it, and in pairs how to connect. An address
that says nothing sensible is refused before a connection is tried.
-/

namespace Outreach.Database

/-- Why a text is no number of a size. -/
inductive NumberFault where
  | empty
  | digit
  | tooLarge
deriving DecidableEq

/-- The wording of a fault. -/
def NumberFault.message : NumberFault -> String
  | .empty => "cannot parse integer from empty string"
  | .digit => "invalid digit found in string"
  | .tooLarge => "number too large to fit in target type"

/-- Why the address of a database is refused. -/
inductive Refusal where
  /-- It is no address. -/
  | address (fault : Url.ReadFault)
  /-- A part of it is not UTF-8. -/
  | encoding (fault : Utf8.Fault)
  /-- A number in it is none. -/
  | number (fault : NumberFault)
  /-- It names no numeric address of a host. -/
  | hostAddress
  /-- It names no mode of encryption. -/
  | encryption (mode : String)

/-- The wording of a part that is not UTF-8. -/
def encodingMessage (fault : Utf8.Fault) : String :=
  match fault.length with
  | some length =>
    "invalid utf-8 sequence of " ++ Digits.natText length ++ " bytes from index " ++
      Digits.natText fault.offset
  | none => "incomplete utf-8 byte sequence from index " ++ Digits.natText fault.offset

/-- The wording of a refusal. -/
def Refusal.message (refusal : Refusal) : String :=
  let cause := match refusal with
    | .address fault => fault.message
    | .encoding fault => encodingMessage fault
    | .number fault => fault.message
    | .hostAddress => "invalid IP address syntax"
    | .encryption mode =>
      "error with configuration: unknown value " ++ Text.quoted mode ++ " for `ssl_mode`"
  "sqlx error: error with configuration: " ++ cause

/-- Refuse a part that is not UTF-8 once it has been decoded. -/
def checkEncoding (part : List Char) : Except Refusal Unit :=
  match Utf8.faultAfter? 0 (Percent.decode (Utf8.encode part)) with
  | some fault => .error (.encoding fault)
  | none => .ok ()

/-- The number below a bound that digits continue, given the number before them. The first digit
at which something is wrong counts. -/
def continueNumber (bound before : Nat) : List Char -> Except NumberFault Nat
  | [] => .ok before
  | c :: rest =>
    match Digits.value? c with
    | none => .error .digit
    | some value =>
      if bound <= before * 10 + value then .error .tooLarge
      else continueNumber bound (before * 10 + value) rest

/-- Refuse a text that is no number below a bound. A plus sign in front does not count. -/
def checkNumber (bound : Nat) (text : List Char) : Except Refusal Unit :=
  let digits := match text with
    | '+' :: c :: rest => c :: rest
    | other => other
  if text.isEmpty then .error (.number .empty)
  else
    match continueNumber bound 0 digits with
    | .ok _ => .ok ()
    | .error fault => .error (.number fault)

/-- The modes of encryption. -/
def encryptionModes : List String :=
  ["disable", "allow", "prefer", "require", "verify-ca", "verify-full"]

/-- Whether a text is the numeric address of a host. -/
def isHostAddress (text : List Char) : Bool :=
  (Host.trailingV4? text).isSome || (Host.readV6 text).toBool

/-- Refuse a pair that says nothing sensible. -/
def checkPair (pair : List Char × List Char) : Except Refusal Unit :=
  let name := String.ofList pair.1
  let value := String.ofList pair.2
  if name = "sslmode" || name = "ssl-mode" then
    if encryptionModes.contains (Text.asciiLowerCase value) then .ok ()
    else .error (.encryption value)
  else if name = "port" then checkNumber UInt16.size pair.2
  else if name = "statement-cache-capacity" then checkNumber UInt64.size pair.2
  else if name = "hostaddr" then
    if isHostAddress pair.2 then .ok () else .error .hostAddress
  else .ok ()

/-- Refuse a host that is a path but not UTF-8. -/
def checkHost (host : List Char) : Except Refusal Unit :=
  if (Percent.decode (Utf8.encode host)).head? = some 0x2F then checkEncoding host else .ok ()

/-- Refuse an authority of which a part is not UTF-8. -/
def checkAuthority (authority : Authority) : Except Refusal Unit := do
  checkHost ((authority.host.map Host.chars).getD [])
  checkEncoding authority.username
  checkEncoding (authority.password.getD [])

/-- Check the address of a database. -/
def check (mapping : Host.Mapping) (address : String) : Except Refusal Unit := do
  let url <- (Url.read mapping address).mapError .address
  checkAuthority (url.authority.getD .empty)
  checkEncoding (url.path.dropWhile (· = '/'))
  url.pairs.forM checkPair

end Outreach.Database
