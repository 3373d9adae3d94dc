import Outreach.Queue.Memory
import Outreach.Queue.Worker

/-!
# Workrooms

A queue and a worker to rehearse with: the source of the jobs can be made to fail, and the handlers
follow scripts.
-/

namespace Outreach

/-- The requests of a worker to its source. -/
inductive SourceRequest where
  | fetchDue
  | complete
  | fail
deriving DecidableEq

/-- What a scripted handler does. -/
inductive Turn where
  | succeed
  /-- The worker is cancelled, and the handler succeeds. -/
  | cancel
  | fail (detail : String)

/-- The surroundings of a rehearsed worker. -/
structure Workroom where
  now : Instant
  queue : Queue
  /-- The requests that will fail, once each, and how. -/
  faults : List (SourceRequest × String)
  /-- How often the handler of a kind has been called. -/
  turns : Keyed String Nat
  /-- The jobs that handlers were called with. -/
  calls : List Job
  /-- The number of polls up to the one with which the worker is cancelled, if it is. -/
  pollsLeft : Option Nat

namespace Workroom

/-- A workroom without jobs. -/
def start (now : Instant) (lease : Nat) : Workroom :=
  { now, queue := .empty lease, faults := [], turns := ∅, calls := [], pollsLeft := none }

/-- Ask the queue, unless the request is to fail. -/
def ask {α : Type} (request : SourceRequest) (question : Queue -> Except QueueError α × Queue)
    (shift : Shift Workroom) : Except QueueError α × Shift Workroom :=
  let room := shift.world
  match room.faults.lookup request with
  | some detail =>
    let faults := room.faults.eraseP (fun fault => fault.1 = request)
    (.error (.source detail), { shift with world := { room with faults } })
  | none =>
    let (answer, queue) := question room.queue
    (answer, { shift with world := { room with queue } })

/-- Count a poll. With the last one that is left the worker is cancelled. -/
def countPoll (shift : Shift Workroom) : Shift Workroom :=
  match shift.world.pollsLeft with
  | none => shift
  | some polls =>
    { world := { shift.world with pollsLeft := some (polls - 1) }
      cancelled := shift.cancelled || polls <= 1 }

/-- The source of the worker. -/
def source : JobSource Workroom :=
  { fetchDue := fun now limit shift =>
      ask .fetchDue (fun queue => queue.fetchDue now limit) (countPoll shift)
    complete := fun id => ask .complete (fun queue => queue.complete id)
    fail := fun id _ retryAt => ask .fail (fun queue => queue.fail id retryAt) }

/-- The handler of a kind that takes turns; the last one is repeated. -/
def handler (kind : String) (script : List Turn) : Handler Workroom := fun job shift =>
  let room := shift.world
  let count := (room.turns.get? kind).getD 0
  let turn := (script[count]?.or script.getLast?).getD .succeed
  let world :=
    { room with turns := room.turns.insert kind (count + 1), calls := room.calls ++ [job] }
  match turn with
  | .succeed => (.ok (), { shift with world })
  | .cancel => (.ok (), { world, cancelled := true })
  | .fail detail => (.error (.handler job.kind detail), { shift with world })

/-- The workroom at a later instant; `none` if it has no date. -/
def advance? (room : Workroom) (seconds : Int) : Option Workroom :=
  ((Span.ofSeconds? seconds).bind room.now.add?).map (fun now => { room with now })

/-- Let a worker poll until it is cancelled, which it is with the last of some polls. -/
def runFor (worker : Worker Workroom) (polls : Nat) (shift : Shift Workroom) :
    Except QueueError Unit × Shift Workroom :=
  worker.run (max polls 1)
    { shift with world := { shift.world with pollsLeft := some polls } }

end Workroom

end Outreach
