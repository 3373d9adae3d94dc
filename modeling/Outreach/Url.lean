import Outreach.Url.Host

/-!
# Addresses

An absolute address: its scheme, who and where it addresses, a path, a query and a fragment. All
parts are percent-encoded as far as they have to be.
-/

namespace Outreach

/-- Where an address leads, and as whom. -/
structure Authority where
  username : List Char
  password : Option (List Char)
  host : Option Host
  /-- The port, unless it is the usual one of the scheme. -/
  port : Option Nat
deriving DecidableEq

namespace Authority

/-- The authority that is empty. -/
def empty : Authority := ⟨[], none, none, none⟩

/-- The user in front of the host. -/
def userChars (authority : Authority) : List Char :=
  match authority.username, authority.password with
  | [], none => []
  | username, none => username ++ ['@']
  | username, some password => username ++ ':' :: password ++ ['@']

/-- The text of an authority. -/
def chars (authority : Authority) : List Char :=
  authority.userChars ++ (authority.host.map Host.chars).getD [] ++
    (authority.port.map (fun port => ':' :: Digits.ofNat port)).getD []

end Authority

/-- An absolute address. -/
structure Url where
  scheme : List Char
  authority : Option Authority
  /-- The path. It starts with a slash, or is empty, or is opaque. -/
  path : List Char
  query : Option (List Char)
  fragment : Option (List Char)
deriving DecidableEq

/-- What a scheme is to the reader of addresses. -/
inductive SchemeKind where
  /-- Addresses of files. -/
  | file
  /-- A scheme with rules of its own and a usual port. -/
  | special (port : Nat)
  /-- Any other scheme. -/
  | other
deriving DecidableEq

namespace SchemeKind

/-- The kind of a scheme. -/
def of (scheme : List Char) : SchemeKind :=
  if scheme = "file".toList then .file
  else if scheme = "http".toList || scheme = "ws".toList then .special 80
  else if scheme = "https".toList || scheme = "wss".toList then .special 443
  else if scheme = "ftp".toList then .special 21
  else .other

/-- Whether the scheme has rules of its own. -/
def isSpecial (kind : SchemeKind) : Bool := kind != .other

/-- The port that goes without saying. -/
def usualPort : SchemeKind -> Option Nat
  | .special port => some port
  | _ => none

/-- Whether a character separates the segments of a path. -/
def isSlash (kind : SchemeKind) (c : Char) : Bool := c = '/' || (kind.isSpecial && c = '\\')

end SchemeKind

namespace Url

/-- The kind of the scheme. -/
def kind (url : Url) : SchemeKind := .of url.scheme

/-- Whether nothing can be resolved against an address, since it is no more than a scheme and
some text. -/
def isOpaque (url : Url) : Bool := url.authority.isNone && url.path.head? != some '/'

/-- What stands between the scheme and the path. Without an authority a path that starts with
two slashes is kept from looking like one. -/
def authorityChars (url : Url) : List Char :=
  match url.authority with
  | some authority => '/' :: '/' :: authority.chars
  | none => if ['/', '/'].isPrefixOf url.path then ['/', '.'] else []

/-- The text of an address. -/
def chars (url : Url) : List Char :=
  url.scheme ++ ':' :: url.authorityChars ++ url.path ++
    (url.query.map ('?' :: ·)).getD [] ++ (url.fragment.map ('#' :: ·)).getD []

/-- The text of an address as a string. -/
def text (url : Url) : String := String.ofList url.chars

end Url

end Outreach
