import Outreach.CommandLine.Execution
import Std.Time.DateTime.Timestamp

/-!
# The program

Reads the files that a command names, carries the command out and prints what it answers.
-/

namespace Outreach.CommandLine

/-- The file that a command reads, if it reads one. -/
def Command.file? : Command -> Option String
  | .validate path => some path
  | .run path _ _ => some path
  | _ => none

/-- The content of a file, if it can be read. -/
def contentOf (path : String) : IO (Option String) := do
  try
    return some (<- IO.FS.readFile path)
  catch _ => return none

/-- The present instant. -/
def present : IO Instant := do
  let time := (<- Std.Time.Timestamp.now).toNanosecondsSinceUnixEpoch.val
  let elapsed := Span.ofNanoseconds? time
  return (elapsed.bind Instant.epoch.add?).getD .epoch

/-- Ids that nobody else has. -/
def freshIds : IO (Nat -> Uuid) := do
  let seed := (<- IO.getRandomBytes 16).toList.foldl (fun n byte => n * 256 + byte.toNat) 0
  return fun count => .drawn (seed + count)

/-- The surroundings of a command, with the file that it reads. -/
def surroundings (command : Command) : IO Surroundings := do
  let content <- match command.file? with
    | some path => contentOf path
    | none => pure none
  let now <- present
  let idAt <- freshIds
  let jobIdAt <- freshIds
  return { content := fun _ => content, now, idAt, jobIdAt, mapping := Host.asciiMapping }

/-- Carry out a command, print what it answers, and tell the exit code. -/
def carryOut (settings : Settings) (command : Command) : IO UInt32 := do
  match execute settings (<- surroundings command) command with
  | .ok answer =>
    IO.println answer.text
    return 0
  | .error failure =>
    IO.eprintln ("Error: " ++ failure.message)
    match failure.cause with
    | some cause => IO.eprintln ("\nCaused by:\n    " ++ cause)
    | none => pure ()
    return 1

end Outreach.CommandLine

/-- Carry out what the command line says. -/
def main (arguments : List String) : IO UInt32 := do
  match Outreach.CommandLine.ofArguments? arguments with
  | some (settings, command) => Outreach.CommandLine.carryOut settings command
  | none =>
    IO.eprintln "error: the arguments are not understood"
    return 2
