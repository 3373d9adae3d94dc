import Outreach.Url

/-!
# Paths

A path is built segment by segment. A segment of one dot stays where it is, one of two dots goes
back one segment. The letter of a drive at the front of a path of a file is never left. It
is written with a colon if it is the first segment that a text adds behind the first slash; if the
text brings that slash itself, a bar stays.
-/

namespace Outreach.Url

/-- Whether a text is the letter of a drive and a colon. -/
def isPlainDrive : List Char -> Bool
  | [letter, ':'] => letter.isAlpha
  | _ => false

/-- Whether a text is the letter of a drive and a colon or a bar. -/
def isDrive : List Char -> Bool
  | [letter, mark] => letter.isAlpha && (mark = ':' || mark = '|')
  | _ => false

/-- A path up to its last slash. -/
def directory (path : List Char) : List Char := (path.reverse.dropWhile (· ≠ '/')).reverse

/-- What follows the last slash of a path. -/
def lastSegment (path : List Char) : List Char := (path.reverse.takeWhile (· ≠ '/')).reverse

/-- A path without its last segment, unless that is a drive. -/
def pop (kind : SchemeKind) (path : List Char) : List Char :=
  if kind = .file && isPlainDrive (lastSegment path) then path else directory path

/-- A path that ends with a slash, without the slash if a segment in front of it may be left. -/
def openLast (path : List Char) : List Char :=
  if path.getLast? = some '/' && path.dropLast.contains '/' &&
      !isDrive (lastSegment path.dropLast) then
    path.dropLast
  else path

/-- Whether a segment is a single dot, plain or encoded. -/
def isDot (segment : List Char) : Bool :=
  segment.map Char.toLower = ['.'] || segment.map Char.toLower = "%2e".toList

/-- Whether a segment is two dots, each plain or encoded. -/
def isDoubleDot (segment : List Char) : Bool :=
  ["..", ".%2e", "%2e.", "%2e%2e"].any (fun dots => segment.map Char.toLower = dots.toList)

/-- A path with a slash at its end. -/
def closed (path : List Char) : List Char :=
  if path.getLast? = some '/' then path else path ++ ['/']

/-- Add a segment to a path, with or without a slash after it. -/
def addSegment (kind : SchemeKind) (path segment : List Char) (slash : Bool) : List Char :=
  let path :=
    if kind = .file && isPlainDrive (path.drop 1) && !segment.isEmpty then path ++ ['/'] else path
  let segment := Percent.encode Percent.inPath segment
  if isDoubleDot segment then
    let shortened := pop kind (openLast path)
    if slash then closed shortened else shortened
  else if isDot segment then closed path
  else path ++ segment ++ (if slash then ['/'] else [])

/-- Add segments to a path, with slashes between them. -/
def addSegments (kind : SchemeKind) (path : List Char) : List (List Char) -> List Char
  | [] => path
  | [segment] => addSegment kind path segment false
  | segment :: rest => addSegments kind (addSegment kind path segment true) rest

/-- A segment; the letter of a drive is written with a colon. -/
def plainSegment (segment : List Char) : List Char :=
  if isDrive segment then segment.take 1 ++ [':'] else segment

/-- The segments that a text adds to a path. Right after the first slash of a path of a file, a
drive is written with a colon. -/
def segments (kind : SchemeKind) (path text : List Char) : List (List Char) :=
  match text.splitOnP kind.isSlash with
  | first :: rest =>
    (if kind = .file && path = ['/'] then plainSegment first else first) :: rest
  | [] => []

/-- A path of a file has one slash at its front. -/
def rooted (kind : SchemeKind) (path : List Char) : List Char :=
  if kind = .file then '/' :: path.dropWhile (· = '/') else path

/-- A path continued by a text. -/
def continuePath (kind : SchemeKind) (path text : List Char) : List Char :=
  rooted kind (addSegments kind path (segments kind path text))

end Outreach.Url
