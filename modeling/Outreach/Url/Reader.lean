import Outreach.Url.Path

/-!
# Reading addresses

An absolute address starts with a scheme. A reference without one is resolved against an
absolute address. Control characters and blanks around a text do not count, and neither do tabs
and line ends inside it. The mapping of internationalized domains is a parameter of all readers.
-/

namespace Outreach.Url

/-- Why a text is no address. -/
inductive ReadFault where
  | emptyHost
  | domain
  | port
  | v4
  | v6
  | hostCharacter
  /-- There is no scheme, so it is not absolute. -/
  | relative
  /-- It would have to be resolved against an opaque address. -/
  | opaqueBase
deriving DecidableEq

/-- The wording of a fault. -/
def ReadFault.message : ReadFault -> String
  | .emptyHost => "empty host"
  | .domain => "invalid international domain name"
  | .port => "invalid port number"
  | .v4 => "invalid IPv4 address"
  | .v6 => "invalid IPv6 address"
  | .hostCharacter => "invalid domain character"
  | .relative => "relative URL without a base"
  | .opaqueBase => "relative URL with a cannot-be-a-base base"

/-- What a fault of a host is to the whole address. -/
def ReadFault.ofHost : Host.ReadFault -> ReadFault
  | .empty => .emptyHost
  | .domain => .domain
  | .v4 => .v4
  | .v6 => .v6
  | .character => .hostCharacter

/-- A text without the characters that do not count. -/
def significant (text : List Char) : List Char :=
  let isEdge (c : Char) : Bool := c.toNat <= 0x20
  let trimmed := ((text.dropWhile isEdge).reverse.dropWhile isEdge).reverse
  trimmed.filter (fun c => !(c = '\t' || c = '\n' || c = '\r'))

/-- The scheme in front of a text, in lower case, and what follows its colon. -/
def splitScheme? (text : List Char) : Option (List Char × List Char) :=
  let isSchemeChar (c : Char) : Bool := c.isAlphanum || c = '+' || c = '-' || c = '.'
  let scheme := text.takeWhile isSchemeChar
  match text.dropWhile isSchemeChar with
  | ':' :: rest =>
    if (scheme.head?.map Char.isAlpha).getD false then some (scheme.map Char.toLower, rest)
    else none
  | _ => none

/-- Whether a character ends the path of an address. -/
def endsPath (c : Char) : Bool := c = '?' || c = '#'

/-- Whether a character ends the authority of an address. -/
def endsAuthority (kind : SchemeKind) (c : Char) : Bool := kind.isSlash c || endsPath c

/-- A query, percent-encoded. -/
def encodedQuery (kind : SchemeKind) (text : List Char) : List Char :=
  Percent.encode (if kind.isSpecial then Percent.inSpecialQuery else Percent.inQuery) text

/-- The query and the fragment that follow a path. -/
def ending (kind : SchemeKind) (text : List Char) : Option (List Char) × Option (List Char) :=
  let fragment :=
    match text.dropWhile (· ≠ '#') with
    | '#' :: rest => some (Percent.encode Percent.inFragment rest)
    | _ => none
  match text with
  | '?' :: rest => (some (encodedQuery kind (rest.takeWhile (· ≠ '#'))), fragment)
  | _ => (none, fragment)

/-- The address with a path continued by a text up to its query, and the rest of the text. -/
def withRest (scheme : List Char) (authority : Option Authority) (path : List Char)
    (text : List Char) : Url :=
  let kind := SchemeKind.of scheme
  let (query, fragment) := ending kind (text.dropWhile (!endsPath ·))
  { scheme, authority, path := continuePath kind path (text.takeWhile (!endsPath ·))
    query, fragment }

/-- The user in front of a host: the name up to the first colon, and the password after it. -/
def userOf (text : List Char) : List Char × Option (List Char) :=
  let encode := Percent.encode Percent.inUserinfo
  let name := encode (text.takeWhile (· ≠ ':'))
  match text.dropWhile (· ≠ ':') with
  | _ :: c :: rest => (name, some (encode (c :: rest)))
  | _ => (name, none)

/-- The text of a host, up to a colon outside brackets. -/
def hostText (inside : Bool) : List Char -> List Char
  | [] => []
  | c :: rest =>
    if c = ':' && !inside then []
    else c :: hostText (if c = '[' then true else if c = ']' then false else inside) rest

/-- The port that digits write, unless it is the usual one. -/
def readPort (kind : SchemeKind) (digits : List Char) : Except ReadFault (Option Nat) :=
  if digits.isEmpty then .ok none
  else
    match Digits.toNat? digits with
    | none => .error .port
    | some port =>
      if 65535 < port then .error .port
      else .ok (if kind.usualPort = some port then none else some port)

/-- The host that a text writes. Only under other schemes it may be missing. -/
def readHost (mapping : Host.Mapping) (kind : SchemeKind) (text : List Char) :
    Except ReadFault (Option Host) :=
  if kind.isSpecial then
    if text.isEmpty then .error .emptyHost
    else ((Host.readSpecial mapping text).mapError .ofHost).map some
  else if text.isEmpty then .ok none
  else ((Host.readOpaque text).mapError .ofHost).map some

/-- Whether a character ends a port. -/
def endsPort (c : Char) : Bool := c = '/' || c = '\\' || endsPath c

/-- The address whose authority follows. -/
def afterSlashes (mapping : Host.Mapping) (scheme text : List Char) : Except ReadFault Url := do
  let kind := SchemeKind.of scheme
  let authorityText := text.takeWhile (!endsAuthority kind ·)
  let rest := text.drop authorityText.length
  let located := (authorityText.reverse.takeWhile (· ≠ '@')).reverse
  let userText := authorityText.take (authorityText.length - located.length - 1)
  let hasUser := authorityText.contains '@'
  if hasUser && userText.isEmpty && located.isEmpty && !rest.isEmpty then .error .emptyHost
  else
    let (username, password) := userOf userText
    let hostPart := hostText false located
    let host <- readHost mapping kind hostPart
    let afterHost := located.drop hostPart.length ++ rest
    if host.isNone && (afterHost.head? = some ':' || !username.isEmpty || password.isSome) then
      .error .emptyHost
    else
      let (port, rest) <- match afterHost with
        | ':' :: after =>
          (readPort kind (after.takeWhile (!endsPort ·))).map
            (fun port => (port, after.dropWhile (!endsPort ·)))
        | other => .ok (none, other)
      let authority : Authority := ⟨username, password, host, port⟩
      match rest with
      | [] => .ok (withRest scheme authority (if kind.isSpecial then ['/'] else []) [])
      | c :: after =>
        if kind.isSlash c then .ok (withRest scheme authority ['/'] after)
        else if endsPath c && !kind.isSpecial then .ok (withRest scheme authority [] rest)
        else .ok (withRest scheme authority ['/'] rest)

/-- The host of an address of a file. The local machine is no host. -/
def fileHost (mapping : Host.Mapping) (text : List Char) : Except ReadFault (Option Host) :=
  if text.isEmpty then .ok none
  else
    match Host.readSpecial mapping text with
    | .error fault => .error (.ofHost fault)
    | .ok host => .ok (if host = .name "localhost".toList then none else some host)

/-- The scheme of files. -/
def fileScheme : List Char := "file".toList

/-- The address of a file whose host follows. A host in front of a drive is dropped. Without a
host the text starts the path with its own slash. -/
def fileAfterSlashes (mapping : Host.Mapping) (text : List Char) : Except ReadFault Url := do
  let hostPart := text.takeWhile (!endsAuthority .file ·)
  if isDrive hostPart then .ok (withRest fileScheme (some .empty) ['/'] text)
  else
    let host <- fileHost mapping hostPart
    let rest := text.drop hostPart.length
    match host with
    | none => .ok (withRest fileScheme (some .empty) [] rest)
    | some host =>
      let rest := match rest with
        | c :: after => if SchemeKind.file.isSlash c then after else rest
        | [] => []
      let onDrive := isDrive (rest.takeWhile (!endsAuthority .file ·))
      let host := if onDrive then none else some host
      .ok (withRest fileScheme (some { Authority.empty with host }) ['/'] rest)

/-- The address of a file whose path follows. -/
def fileWithPath (path text : List Char) : Url := withRest fileScheme (some .empty) path text

/-- The absolute address that a text writes. -/
def read (mapping : Host.Mapping) (text : String) : Except ReadFault Url :=
  match splitScheme? (significant text.toList) with
  | none => .error .relative
  | some (scheme, rest) =>
    let isSlash := SchemeKind.special 80 |>.isSlash
    match SchemeKind.of scheme with
    | .special _ => afterSlashes mapping scheme (rest.dropWhile isSlash)
    | .file =>
      match rest with
      | first :: after =>
        if isSlash first then
          if (after.head?.map isSlash).getD false then fileAfterSlashes mapping after.tail
          else .ok (fileWithPath ['/'] after)
        else .ok (fileWithPath ['/'] rest)
      | [] => .ok (fileWithPath ['/'] [])
    | .other =>
      match rest with
      | '/' :: '/' :: after => afterSlashes mapping scheme after
      | '/' :: after => .ok (withRest scheme none ['/'] after)
      | rest =>
        let (query, fragment) := ending .other (rest.dropWhile (!endsPath ·))
        .ok
          { scheme, authority := none
            path := Percent.encode Percent.isControl (rest.takeWhile (!endsPath ·))
            query, fragment }

/-- The address of a file that a reference without a scheme names, seen from the address of
another file. -/
def resolveFile (mapping : Host.Mapping) (base : Url) (text : List Char) : Except ReadFault Url :=
  let isSlash := SchemeKind.file.isSlash
  let startsWithDrive (text : List Char) : Bool :=
    isDrive (text.take 2) && (text[2]?.map (fun c => isSlash c || endsPath c)).getD true
  match text with
  | [] => .ok { base with fragment := none }
  | c :: after =>
    if isSlash c then
      if (after.head?.map isSlash).getD false then fileAfterSlashes mapping after.tail
      else
        let drive := (base.path.drop 1).takeWhile (· ≠ '/')
        if startsWithDrive after then .ok (fileWithPath ['/'] after)
        else if isPlainDrive drive then .ok (fileWithPath ('/' :: drive) text)
        else
          .ok (withRest fileScheme
            (some { Authority.empty with host := base.authority.bind Authority.host }) [] text)
    else if startsWithDrive text then .ok (fileWithPath ['/'] text)
    else .ok (withRest fileScheme base.authority (pop .file base.path) text)

/-- The address that a reference without a scheme names, seen from an address whose scheme is
not that of files. -/
def resolvePath (mapping : Host.Mapping) (base : Url) (text : List Char) : Except ReadFault Url :=
  let isSlash (c : Char) : Bool := c = '/' || c = '\\'
  match text with
  | [] => .ok { base with fragment := none }
  | c :: after =>
    if isSlash c then
      if (after.head?.map isSlash).getD false then
        afterSlashes mapping base.scheme
          (if c = '/' && after.head? = some '/' then after.tail else after.dropWhile isSlash)
      else .ok (withRest base.scheme base.authority ['/'] after)
    else
      let directory := pop base.kind base.path
      let start := if directory.isEmpty then ['/'] else directory
      .ok (withRest base.scheme base.authority start text)

/-- The address that a reference without a scheme names, seen from another address. A query or a
fragment alone keeps what is in front of it. -/
def resolve (mapping : Host.Mapping) (base : Url) (reference : String) :
    Except ReadFault Url :=
  let text := significant reference.toList
  match text with
  | '#' :: _ => .ok { base with fragment := (ending base.kind text).2 }
  | _ =>
    if base.isOpaque then .error .opaqueBase
    else
      match text with
      | '?' :: _ =>
        let (query, fragment) := ending base.kind text
        .ok { base with query, fragment }
      | _ =>
        if base.kind = .file then resolveFile mapping base text
        else resolvePath mapping base text

end Outreach.Url
