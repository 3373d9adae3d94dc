import Outreach.Ids
import Outreach.Text.Digits
import Outreach.Time.Span

/-!
# Arguments

The words of a command line: flags, options with a value, and what stands alone. An option may
occur once in front of the command and once behind it.
-/

namespace Outreach.CommandLine

/-- The names that may follow two hyphens. -/
structure Vocabulary where
  /-- The names without a value. -/
  flags : List String
  /-- The names with a value. -/
  options : List String

/-- The words of a command line, sorted. -/
structure Words where
  /-- The words that stand alone. -/
  plain : List String
  /-- The flags and options, a flag without a value. -/
  named : List (String × Option String)

namespace Words

/-- No words. -/
def empty : Words := ⟨[], []⟩

/-- The words with one more name; `none` if it has occurred. -/
def addName? (words : Words) (name : String) (value : Option String) : Option Words :=
  if words.named.any (fun entry => entry.1 = name) then none
  else some { words with named := words.named ++ [(name, value)] }

/-- The value of an option. -/
def value? (words : Words) (name : String) : Option String := (words.named.lookup name).join

end Words

/-- Whether a word is more than one hyphen at the start of something. -/
def looksNamed (word : String) : Bool := word.startsWith "-" && word != "-"

/-- A name and the value behind its equals sign, if it has one. -/
def splitName (word : String) : String × Option String :=
  let text := word.toList.drop 2
  match text.dropWhile (· ≠ '=') with
  | [] => (String.ofList text, none)
  | _ :: value => (String.ofList (text.takeWhile (· ≠ '=')), some (String.ofList value))

/-- What a word that looks named starts. -/
inductive Named where
  /-- A flag or an option with its value. -/
  | complete (name : String) (value : Option String)
  /-- An option whose value is the next word. -/
  | awaiting (name : String)
  /-- Nothing that is known. -/
  | unknown

/-- What a word that looks named starts. -/
def Vocabulary.read (vocabulary : Vocabulary) (word : String) : Named :=
  if !word.startsWith "--" then .unknown
  else
    match splitName word with
    | (name, some value) =>
      if vocabulary.options.contains name then .complete name (some value) else .unknown
    | (name, none) =>
      if vocabulary.flags.contains name then .complete name none
      else if vocabulary.options.contains name then .awaiting name
      else .unknown

/-- Sort words up to the end, or up to the first plain word if told so; answered are also the words
behind that. `none` if a word is not known, is repeated or lacks its value. -/
def sortWords? (vocabulary : Vocabulary) (untilPlain : Bool) (words : Words) :
    List String -> Option (Words × List String)
  | [] => some (words, [])
  | word :: rest =>
    if word = "--" then
      if untilPlain then none else some ({ words with plain := words.plain ++ rest }, [])
    else if !looksNamed word then
      if untilPlain then some (words, word :: rest)
      else sortWords? vocabulary untilPlain { words with plain := words.plain ++ [word] } rest
    else
      match vocabulary.read word with
      | .unknown => none
      | .complete name value =>
        (words.addName? name value).bind (fun words =>
          sortWords? vocabulary untilPlain words rest)
      | .awaiting name =>
        match rest with
        | [] => none
        | value :: rest =>
          if looksNamed value then none
          else
            (words.addName? name (some value)).bind (fun words =>
              sortWords? vocabulary untilPlain words rest)

/-- A whole number that is not negative and below a bound. -/
def natBelow? (bound : Nat) (text : String) : Option Nat :=
  let digits := match text.toList with
    | '+' :: rest => rest
    | other => other
  (Digits.toNat? digits).filter (· < bound)

/-- The value of an option, or a default. A value that cannot be read is `none`. -/
def Words.valueOr? {α : Type} (words : Words) (name : String) (default : α)
    (read : String -> Option α) : Option α :=
  match words.value? name with
  | some text => read text
  | none => some default

/-- What all commands share. -/
structure Settings where
  /-- Actions more levels than this below the root fail. -/
  maxDepth : Nat
  /-- How long tickets are valid unless an action says otherwise, in days. -/
  ticketDays : Nat
  /-- Tickets are valid for a hundred years at most. -/
  few : ticketDays <= 36500

/-- How long tickets are valid unless an action says otherwise. -/
def Settings.ticketLifetime (settings : Settings) : Span :=
  Span.ofDays settings.ticketDays (Nat.le_trans settings.few (by decide))

/-- What is to be done. -/
inductive Command where
  /-- Work on the jobs of a database. -/
  | worker (databaseUrl : String)
  /-- Bring a database up to date. -/
  | migrate (databaseUrl : String)
  /-- Check the tree in a file. -/
  | validate (path : String)
  /-- Carry out an action of the fixture in a file, for a contact of it or for nobody. -/
  | run (path : String) (action : ActionId) (contact : Option ContactId)

/-- The flags and options of all commands. -/
def common : Vocabulary := ⟨["log-json"], ["max-depth", "ticket-days"]⟩

/-- The vocabulary with further options. -/
def Vocabulary.with (vocabulary : Vocabulary) (options : List String) : Vocabulary :=
  { vocabulary with options := vocabulary.options ++ options }

/-- The options behind a command, on top of the common ones. `none` if there is no such
command. -/
def optionsOf? (command : String) : Option (List String) :=
  if command = "worker" then
    some ["database-url", "catalog", "poll-interval-ms", "max-attempts", "batch-size",
      "lease-secs"]
  else if command = "migrate" then some ["database-url"]
  else if command = "validate" then some []
  else if command = "run" then some ["action", "contact"]
  else none

/-- A path; it must not be empty. -/
def path? (text : String) : Option String := if text.isEmpty then none else some text

/-- The id that a text writes. -/
def id? (text : String) : Option Int64 := Digits.toInt64? text.toList

/-- The settings that the words in front of a command and behind it give. Those behind it
count. -/
def settings? (front behind : Words) : Option Settings := do
  let words : Words := ⟨[], behind.named ++ front.named⟩
  let _ <- front.valueOr? "max-depth" 0 (natBelow? UInt64.size)
  let _ <- front.valueOr? "ticket-days" 1 (fun text => (natBelow? 36501 text).filter (1 <= ·))
  let maxDepth <- words.valueOr? "max-depth" 64 (natBelow? UInt64.size)
  let ticketDays <- words.valueOr? "ticket-days" 30
    (fun text => (natBelow? 36501 text).filter (1 <= ·))
  if few : ticketDays <= 36500 then some ⟨maxDepth, ticketDays, few⟩ else none

/-- The command that words give. -/
def command? (name : String) (words : Words) : Option Command :=
  match name, words.plain with
  | "worker", [] => do
    let url <- words.value? "database-url"
    let _ <- (words.value? "catalog").bind path?
    let _ <- words.valueOr? "poll-interval-ms" 1000 (natBelow? UInt64.size)
    let _ <- words.valueOr? "max-attempts" 2 (natBelow? UInt32.size)
    let _ <- words.valueOr? "batch-size" 16 (natBelow? UInt64.size)
    let _ <- words.valueOr? "lease-secs" 300 (natBelow? UInt64.size)
    some (.worker url)
  | "migrate", [] => (words.value? "database-url").map .migrate
  | "validate", [path] => (path? path).map .validate
  | "run", [path] => do
    let path <- path? path
    let action <- (words.value? "action").bind id?
    let contact <- words.valueOr? "contact" none (fun text => (id? text).map some)
    some (.run path action contact)
  | _, _ => none

/-- What a command line says. `none` if it says nothing that is known. -/
def ofArguments? (arguments : List String) : Option (Settings × Command) := do
  let (front, rest) <- sortWords? common true .empty arguments
  let name <- rest.head?
  let options <- optionsOf? name
  let (behind, _) <- sortWords? (common.with options) false .empty rest.tail
  return (<- settings? front behind, <- command? name behind)

end Outreach.CommandLine
