import Outreach.Queue.Delay
import Outreach.Queue.Job

/-!
# The queue in memory

Pending jobs in the order in which they are due, and deliveries that are under way. A delivery
ends when its job is completed or failed, or when its lease runs out.
-/

namespace Outreach

/-- A delivery that is under way. -/
structure Claim where
  job : Job
  claimedAt : Instant
deriving Inhabited

/-- A queue of jobs. -/
structure Queue where
  /-- The jobs to be delivered, in the order of their instants; among jobs of one instant the one
  that was put in first comes first. -/
  pending : List Job
  /-- The deliveries under way, in the order in which they began. -/
  inFlight : List Claim
  /-- How long a delivery may take, in nanoseconds. -/
  lease : Nat
deriving Inhabited

namespace Queue

/-- The usual lease: five minutes. -/
def usualLease : Nat := 300000000000

/-- The queue without jobs. -/
def empty (lease : Nat) : Queue := { pending := [], inFlight := [], lease }

/-- Put a job at its place among pending jobs, after those of its instant. -/
def place (job : Job) : List Job -> List Job
  | [] => [job]
  | other :: rest =>
    if job.runAt < other.runAt then job :: other :: rest else other :: place job rest

/-- Put a job into the queue. -/
def push (queue : Queue) (job : Job) : Queue := { queue with pending := place job queue.pending }

/-- The instant of the first pending job. -/
def nextRunAt? (queue : Queue) : Option Instant := queue.pending.head?.map Job.runAt

/-- The delivery of a job that is under way. -/
def claim? (queue : Queue) (id : Uuid) : Option Claim :=
  queue.inFlight.find? (fun claim => claim.job.id = id)

/-- The queue without the delivery of a job. -/
def release (queue : Queue) (id : Uuid) : Queue :=
  { queue with inFlight := queue.inFlight.filter (fun claim => claim.job.id ≠ id) }

/-- End the deliveries that began at an instant or before. Their jobs are pending again, or gone
if their deliveries are used up. -/
def reclaim (queue : Queue) (cutoff : Instant) : Queue :=
  let expired := queue.inFlight.filter (fun claim => claim.claimedAt <= cutoff)
  let kept := queue.inFlight.filter (fun claim => !(claim.claimedAt <= cutoff))
  (expired.filter (fun claim => !claim.job.exhausted)).foldl
    (fun queue claim => queue.push claim.job) { queue with inFlight := kept }

/-- Begin the delivery of a job that is not pending any more. -/
def deliver (queue : Queue) (job : Job) (now : Instant) : Queue :=
  let others := queue.inFlight.filter (fun claim => claim.job.id ≠ job.id)
  { queue with inFlight := others ++ [⟨job.attempted, now⟩] }

/-- What it comes to when deliveries begin. -/
structure Fetch where
  /-- The jobs whose deliveries have begun. -/
  claimed : List Job
  /-- The job that has had the highest number of deliveries. It is not pending any more, and nothing
  goes on after it. -/
  lost : Option Job
  /-- What is left. -/
  queue : Queue

/-- Begin the deliveries of the first pending jobs that are due, at most `limit` of them. -/
def deliverDue (now : Instant) : Nat -> Queue -> Fetch
  | 0, queue => ⟨[], none, queue⟩
  | limit + 1, queue =>
    match queue.pending with
    | [] => ⟨[], none, queue⟩
    | job :: rest =>
      if job.runAt <= now then
        if job.full then ⟨[], some job, { queue with pending := rest }⟩
        else
          let others := deliverDue now limit ({ queue with pending := rest }.deliver job now)
          { others with claimed := job.attempted :: others.claimed }
      else ⟨[], none, queue⟩

/-- Begin the deliveries of due jobs, at most `limit` of them, after ending those whose lease has
run out. -/
def fetch (queue : Queue) (now : Instant) (limit : Nat) : Fetch :=
  let queue := match Delay.leaseCutoff? now queue.lease with
    | some cutoff => queue.reclaim cutoff
    | none => queue
  queue.deliverDue now limit

/-- Hand out the jobs of a fetch, if it is not broken off. -/
def fetchDue (queue : Queue) (now : Instant) (limit : Nat) :
    Except QueueError (List Job) × Queue :=
  let fetch := queue.fetch now limit
  (if fetch.lost.isSome then .error .overflow else .ok fetch.claimed, fetch.queue)

/-- End a delivery whose job is done. -/
def complete (queue : Queue) (id : Uuid) : Except QueueError Unit × Queue :=
  match queue.claim? id with
  | some _ => (.ok (), queue.release id)
  | none => (.error (.notInFlight id), queue)

/-- End a delivery whose job is not done. The job is pending again from an instant on, or gone if
its deliveries are used up. -/
def fail (queue : Queue) (id : Uuid) (retryAt : Instant) :
    Except QueueError FailOutcome × Queue :=
  match queue.claim? id with
  | none => (.error (.notInFlight id), queue)
  | some claim =>
    if claim.job.exhausted then (.ok (.dropped claim.job.attempts), queue.release id)
    else
      (.ok (.retrying claim.job.attempts retryAt),
        (queue.release id).push { claim.job with runAt := retryAt })

end Queue

end Outreach
