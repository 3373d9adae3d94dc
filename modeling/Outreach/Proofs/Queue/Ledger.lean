import Outreach.Proofs.Queue.Delivery

/-!
# Ledgers of queues

A ledger keeps, beside a queue that any number of workers share, every job that was put in, every
delivery, and the jobs that are done or gone. `accounted` says of all that may happen to a queue
that no job is lost, none is doubled, and none is delivered more often than it may be.
-/

namespace Outreach

/-- What happens to a queue. -/
inductive QueueEvent where
  /-- A job is put in; scheduling a continuation puts in a job, too. -/
  | enqueue (job : Job)
  | fetch (worker : Nat) (now : Instant) (limit : Nat)
  | complete (worker : Nat) (id : Uuid)
  | fail (worker : Nat) (id : Uuid) (retryAt : Instant)
  /-- The deliveries under way are listed in another order. A queue keeps none of them. -/
  | rearrange (order : List Claim)

/-- A job that is put in has not been delivered before. -/
def QueueEvent.Unspent : QueueEvent -> Prop
  | .enqueue job => job.attempts = 0
  | _ => True

/-- A delivery of a job to a worker. -/
structure Delivery where
  worker : Nat
  job : Job
  instant : Instant

/-- The job that is done with the delivery of an id, if its completion is accepted. -/
def Queue.done (queue : Queue) (id : Uuid) : List Job :=
  match queue.claim? id, (queue.complete id).1 with
  | some claim, .ok _ => [claim.job]
  | _, _ => []

/-- The job that is gone with the failed delivery of an id, if the queue says so. -/
def Queue.givenUp (queue : Queue) (id : Uuid) (retryAt : Instant) : List Job :=
  match queue.claim? id, (queue.fail id retryAt).1 with
  | some claim, .ok (.dropped _) => [claim.job]
  | _, _ => []

/-- A queue with its past. -/
structure Ledger where
  queue : Queue
  enqueued : List Job
  deliveries : List Delivery
  completed : List Job
  dropped : List Job

namespace Ledger

/-- The ledger of a queue without a past. -/
def start (lease : Nat) : Ledger := ⟨Queue.empty lease, [], [], [], []⟩

/-- The ledger after an event. A fetch delivers the jobs that it claims. A job is done if its
completion is accepted, and gone if the queue says so when it fails, if its last delivery is over, or
if a fetch breaks off with it. -/
def apply (ledger : Ledger) : QueueEvent -> Ledger
  | .enqueue job =>
    { ledger with queue := ledger.queue.push job, enqueued := ledger.enqueued ++ [job] }
  | .fetch worker now limit =>
    let fetch := ledger.queue.fetch now limit
    { ledger with
      queue := fetch.queue
      deliveries := ledger.deliveries ++ fetch.claimed.map (fun job => ⟨worker, job, now⟩)
      dropped := ledger.dropped ++ (ledger.queue.lapsed now).map Claim.job ++ fetch.lost.toList }
  | .complete _ id =>
    { ledger with
      queue := (ledger.queue.complete id).2
      completed := ledger.completed ++ ledger.queue.done id }
  | .fail _ id retryAt =>
    { ledger with
      queue := (ledger.queue.fail id retryAt).2
      dropped := ledger.dropped ++ ledger.queue.givenUp id retryAt }
  | .rearrange order => { ledger with queue := { ledger.queue with inFlight := order } }

/-- The jobs that are done or gone. -/
def settled (completed dropped : List Job) : List (Place × Job) :=
  completed.map (Prod.mk .completed) ++ dropped.map (Prod.mk .dropped)

/-- The jobs as they are now, where each of them is. -/
def entries (ledger : Ledger) : List (Place × Job) :=
  ledger.queue.entries ++ settled ledger.completed ledger.dropped

/-- The account of a ledger. -/
def account (ledger : Ledger) : Account :=
  ⟨ledger.enqueued, ledger.entries, ledger.deliveries.map Delivery.job⟩

/-- No id is put in twice. Rearranging neither adds nor loses a delivery. -/
def Unrepeated (ledger : Ledger) : QueueEvent -> Prop
  | .enqueue job => job.id ∉ ledger.enqueued.map Job.id
  | .rearrange order => order.Perm ledger.queue.inFlight
  | _ => True

/-- No id is put in twice, and no job that has been delivered before. -/
def Fresh (ledger : Ledger) (event : QueueEvent) : Prop := ledger.Unrepeated event ∧ event.Unspent

/-- Any number of events one after the other, all of which are admitted. -/
inductive Steps (admits : Ledger -> QueueEvent -> Prop) (first : Ledger) :
    List QueueEvent -> Ledger -> Prop where
  | refl : Steps admits first [] first
  | step {events ledger event} (steps : Steps admits first events ledger)
      (admitted : admits ledger event) : Steps admits first (events ++ [event]) (ledger.apply event)

end Ledger

namespace Account

variable {enqueued delivered : List Job}

/-- What moves make of entries they make of entries in another order. -/
theorem Moves.congr {entries others reached next : List (Place × Job)}
    {nextEnqueued nextDelivered : List Job} (here : entries.Perm others) (there : reached.Perm next)
    (moves : Moves ⟨enqueued, others, delivered⟩ ⟨nextEnqueued, reached, nextDelivered⟩) :
    Moves ⟨enqueued, entries, delivered⟩ ⟨nextEnqueued, next, nextDelivered⟩ :=
  .head (.reordered here) (.tail moves (.reordered there))

/-- The end of deliveries whose lease has run out is a sequence of moves. -/
theorem moves_expiry (lease : Nat) (now : Instant) (claims : List Claim)
    (rest : List (Place × Job)) :
    Moves ⟨enqueued, claims.map Claim.entry ++ rest, delivered⟩
      ⟨enqueued, claims.map (Queue.expiry lease now) ++ rest, delivered⟩ := by
  induction claims generalizing rest with
  | nil => exact .refl
  | cons claim claims ih =>
    have later := (ih (Queue.expiry lease now claim :: rest)).congr List.perm_middle.symm
      List.perm_middle
    refine .trans ?_ later
    unfold Queue.expiry
    by_cases expired : claim.expired lease now
    · by_cases usedUp : claim.job.exhausted
      · simp only [expired, usedUp, if_true]
        exact .single (.dropped claim.job usedUp)
      · simp only [expired, usedUp, if_true, if_false, Bool.false_eq_true]
        exact .single (.retried claim.job claim.job.runAt (by simpa using usedUp))
    · simp only [expired, if_false, Bool.false_eq_true]
      exact .refl

/-- The beginning of deliveries is a sequence of moves. -/
theorem moves_deliver (now : Instant) (jobs : List Job) (rest : List (Place × Job))
    (delivered : List Job) :
    Moves ⟨enqueued, jobs.map Job.entry ++ rest, delivered⟩
      ⟨enqueued, (jobs.map (Queue.claimAt now)).map Claim.entry ++ rest,
        delivered ++ jobs.map Job.attempted⟩ := by
  induction jobs generalizing rest delivered with
  | nil =>
    simp only [List.map_nil, List.append_nil]
    exact .refl
  | cons job jobs ih =>
    have later := (ih ((Queue.claimAt now job).entry :: rest) (delivered ++ [job.attempted])).congr
      List.perm_middle.symm List.perm_middle
    rw [List.append_assoc] at later
    exact .head (.delivered job) later

/-- A job with which deliveries break off is gone. -/
theorem moves_lost (lost : Option Job) (full : ∀ job ∈ lost, job.full = true)
    (rest : List (Place × Job)) :
    Moves ⟨enqueued, lost.toList.map Job.entry ++ rest, delivered⟩
      ⟨enqueued, lost.toList.map (Prod.mk .dropped) ++ rest, delivered⟩ := by
  cases lost with
  | none => exact .refl
  | some job => exact .single (.lost job (full job rfl))

end Account

namespace Ledger

open Account

/-- A queue in which jobs are placed is one without repeated ids. -/
theorem distinct_of_placed {queue : Queue} {enqueued delivered : List Job}
    {others : List (Place × Job)}
    (placed : (Account.mk enqueued (queue.entries ++ others) delivered).Placed) :
    queue.Distinct := by
  have nodup := placed.ids_nodup
  rw [List.map_append] at nodup
  exact nodup.of_append_left

/-- More jobs that are gone. -/
theorem settled_append (completed dropped others : List Job) :
    settled completed (dropped ++ others) =
      settled completed dropped ++ others.map (Prod.mk .dropped) := by
  rw [settled, settled, List.map_append, List.append_assoc]

/-- One more job that is done. -/
theorem settled_complete (completed dropped : List Job) (job : Job) :
    (settled (completed ++ [job]) dropped).Perm
      ((.completed, job) :: settled completed dropped) := by
  unfold settled
  rw [List.map_append, List.append_assoc]
  exact List.perm_middle

/-- The end of deliveries whose lease has run out moves their jobs. -/
theorem moves_expire (queue : Queue) (now : Instant)
    (enqueued delivered completed dropped : List Job) :
    Moves ⟨enqueued, queue.entries ++ settled completed dropped, delivered⟩
      ⟨enqueued,
        (queue.expire now).entries ++
          settled completed (dropped ++ (queue.lapsed now).map Claim.job),
        delivered⟩ := by
  have moves : Moves ⟨enqueued, _, delivered⟩ _ := moves_expiry queue.lease now queue.inFlight
    (queue.pending.map Job.entry ++ settled completed dropped)
  refine moves.congr ?_ ?_
  · rw [Queue.entries, ← List.append_assoc]
    exact List.perm_append_comm.append_right _
  · have ended := (queue.entries_expire now).append_right (settled completed dropped)
    rw [settled_append, List.map_map]
    refine .trans ?_ (ended.symm.trans ?_)
    · rw [← List.append_assoc]
      exact List.perm_append_comm.append_right _
    · rw [List.append_assoc]
      exact List.perm_append_comm.append_left _

/-- The beginning of deliveries moves their jobs, and the one with which it breaks off. -/
theorem moves_deliverDue {queue : Queue} (distinct : queue.Distinct) (now : Instant) (limit : Nat)
    (enqueued delivered completed dropped : List Job) :
    Moves ⟨enqueued, queue.entries ++ settled completed dropped, delivered⟩
      ⟨enqueued,
        (queue.deliverDue now limit).queue.entries ++
          settled completed (dropped ++ (queue.deliverDue now limit).lost.toList),
        delivered ++ (queue.deliverDue now limit).claimed⟩ := by
  let begun := queue.begun now limit
  let lost := queue.lost? now limit
  let others := (queue.pending.drop (queue.taken now limit).length).map Job.entry ++
    (queue.inFlight.map Claim.entry ++ settled completed dropped)
  have broken : Moves ⟨enqueued, lost.toList.map Job.entry ++ (begun.map Job.entry ++ others),
      delivered⟩ _ :=
    moves_lost lost (fun job isLost => (Queue.of_lost? isLost).2) _
  have claimed : Moves ⟨enqueued, begun.map Job.entry ++
      (lost.toList.map (Prod.mk .dropped) ++ others), delivered⟩ _ :=
    moves_deliver now begun _ delivered
  have moves : Moves ⟨enqueued, _, delivered⟩ _ :=
    broken.trans (claimed.congr (List.perm_append_comm_assoc _ _ _) (.refl _))
  rw [Queue.deliverDue_eq distinct]
  refine moves.congr ?_ ?_
  · have parts := congrArg (List.map Job.entry) (queue.taken_append now limit)
    rw [List.map_append, Queue.taken, List.map_append] at parts
    rw [Queue.entries, ← parts]
    simp only [List.append_assoc]
    exact List.perm_append_comm_assoc _ _ _
  · -- The claims are moved behind those that were under way, the lost job to the end.
    have last : (lost.toList.map (Prod.mk Place.dropped) ++ others).Perm
        (others ++ lost.toList.map (Prod.mk Place.dropped)) := List.perm_append_comm
    rw [settled_append, ← List.append_assoc, Queue.entries, List.map_append, List.append_assoc]
    refine (last.append_left _).trans ?_
    simp only [others, List.append_assoc]
    exact (List.perm_append_comm_assoc _ _ _).trans
      ((List.perm_append_comm_assoc _ _ _).append_left _)

/-- What is done with a job that is under way. -/
theorem moves_release {queue : Queue} (distinct : queue.Distinct) {claim : Claim}
    (underWay : claim ∈ queue.inFlight) {enqueued delivered : List Job}
    {others : List (Place × Job)} {entries : List (Place × Job)} {entry : Place × Job}
    (move : forall rest, Move ⟨enqueued, (.inFlight, claim.job) :: rest, delivered⟩
      ⟨enqueued, entry :: rest, delivered⟩)
    (there : (entry :: ((queue.release claim.job.id).entries ++ others)).Perm entries) :
    Moves ⟨enqueued, queue.entries ++ others, delivered⟩ ⟨enqueued, entries, delivered⟩ :=
  .head (.reordered ((Queue.entries_release distinct underWay).append_right others))
    (.head (move _) (.single (.reordered there)))

/-- Whatever happens to a queue, its jobs move. -/
theorem moves_apply {ledger : Ledger} (placed : ledger.account.Placed) {event : QueueEvent}
    (unrepeated : ledger.Unrepeated event) : Moves ledger.account (ledger.apply event).account := by
  have distinct : ledger.queue.Distinct := distinct_of_placed placed
  cases event with
  | enqueue job =>
    have put := ((ledger.queue.entries_push job).append_right
      (settled ledger.completed ledger.dropped)).symm
    exact .head (.enqueued job unrepeated) (.single (.reordered put))
  | fetch worker now limit =>
    -- The jobs of ended deliveries are moved first: only then is it known of the queue from which
    -- the due jobs are taken that no id occurs twice in it.
    have expired := moves_expire ledger.queue now ledger.enqueued
      (ledger.deliveries.map Delivery.job) ledger.completed ledger.dropped
    have expiredDistinct := distinct_of_placed (placed.moves expired)
    have begun := moves_deliverDue expiredDistinct now limit ledger.enqueued
      (ledger.deliveries.map Delivery.job) ledger.completed
      (ledger.dropped ++ (ledger.queue.lapsed now).map Claim.job)
    have handed : forall jobs : List Job,
        (jobs.map (fun job => Delivery.mk worker job now)).map Delivery.job = jobs := by
      intro jobs
      rw [List.map_map]
      exact List.map_id jobs
    have moves := expired.trans begun
    rw [← Queue.fetch_eq, ← handed (ledger.queue.fetch now limit).claimed, ← List.map_append]
      at moves
    exact moves
  | complete worker id =>
    simp only [apply, Queue.complete, Queue.done]
    cases found : ledger.queue.claim? id with
    | none =>
      simp only [List.append_nil]
      exact .refl
    | some claim =>
      obtain ⟨underWay, rfl⟩ := Queue.mem_of_claim? found
      exact moves_release distinct underWay (fun _ => .completed claim.job)
        (List.perm_middle.symm.trans ((settled_complete _ _ _).symm.append_left _))
  | fail worker id retryAt =>
    simp only [apply, Queue.fail, Queue.givenUp]
    cases found : ledger.queue.claim? id with
    | none =>
      simp only [List.append_nil]
      exact .refl
    | some claim =>
      obtain ⟨underWay, rfl⟩ := Queue.mem_of_claim? found
      by_cases usedUp : claim.job.exhausted
      · simp only [usedUp, if_true]
        refine moves_release distinct underWay (fun _ => .dropped claim.job usedUp) ?_
        rw [entries, settled_append, ← List.append_assoc]
        exact (List.perm_append_singleton _ _).symm
      · simp only [usedUp, if_false, Bool.false_eq_true, List.append_nil]
        refine moves_release distinct underWay
          (fun _ => .retried claim.job retryAt (by simpa using usedUp)) ?_
        exact ((Queue.entries_push _ _).append_right _).symm
  | rearrange order =>
    exact .single (.reordered
      (((unrepeated.symm.map Claim.entry).append_left _).append_right _))

/-- Nothing is anywhere at the start. -/
theorem placed_start (lease : Nat) : (start lease).account.Placed :=
  ⟨List.nodup_nil, .refl _, fun _ none => absurd none List.not_mem_nil⟩

theorem counted_start (lease : Nat) : (start lease).account.Counted :=
  fun _ none => absurd none List.not_mem_nil

namespace Steps

variable {lease : Nat} {admits : Ledger -> QueueEvent -> Prop} {first : Ledger}
  {events : List QueueEvent} {ledger : Ledger}

/-- Events that are admitted by one rule are admitted by a weaker one. -/
theorem weaken {allows : Ledger -> QueueEvent -> Prop}
    (weaker : forall ledger event, admits ledger event -> allows ledger event)
    (steps : Steps admits first events ledger) : Steps allows first events ledger := by
  induction steps with
  | refl => exact .refl
  | step _ admitted ih => exact .step ih (weaker _ _ admitted)

/-- Any number of events keep the jobs placed. -/
theorem placed (steps : Steps Unrepeated first events ledger) (start : first.account.Placed) :
    ledger.account.Placed := by
  induction steps with
  | refl => exact start
  | step _ unrepeated ih => exact ih.moves (moves_apply ih unrepeated)

/-- Only jobs without deliveries have been put in. -/
theorem fresh (steps : Steps Fresh (start lease) events ledger) :
    ∀ job ∈ ledger.enqueued, job.attempts = 0 := by
  induction steps with
  | refl => exact fun _ none => absurd none List.not_mem_nil
  | @step events ledger event _ fresh ih =>
    intro job member
    cases event with
    | enqueue put =>
      rcases List.mem_append.mp member with earlier | last
      · exact ih job earlier
      · rw [List.mem_singleton.mp last]
        exact fresh.2
    | fetch worker now limit => exact ih job member
    | complete worker id => exact ih job member
    | fail worker id retryAt => exact ih job member
    | rearrange order => exact ih job member

/-- Any number of events keep the counts right. -/
theorem counted (steps : Steps Fresh (start lease) events ledger) : ledger.account.Counted := by
  induction steps with
  | refl => exact counted_start lease
  | step steps fresh ih =>
    have placed := (steps.weaken (fun _ _ fresh => fresh.1)).placed (placed_start lease)
    exact ih.moves placed (steps.step fresh).fresh (moves_apply placed fresh.1)

/-- No fetch breaks off: a job that waits has not had the highest number of deliveries. -/
theorem fetch_whole (steps : Steps Fresh (start lease) events ledger) (now : Instant) (limit : Nat) :
    (ledger.queue.fetch now limit).lost = none := by
  have placed := (steps.weaken (fun _ _ fresh => fresh.1)).placed (placed_start lease)
  -- The jobs of ended deliveries wait, too, and moves keep the counts right.
  have moves := moves_expire ledger.queue now ledger.enqueued
    (ledger.deliveries.map Delivery.job) ledger.completed ledger.dropped
  have counted := steps.counted.moves placed steps.fresh moves
  rw [Queue.fetch_eq_of_distinct (distinct_of_placed (placed.moves moves))]
  refine Option.eq_none_iff_forall_not_mem.mpr (fun job lost => ?_)
  obtain ⟨due, full⟩ := Queue.of_lost? lost
  have waits := ((ledger.queue.expire now).isPrefix_due now limit).subset due
  have listed : (Place.pending, job) ∈ (ledger.queue.expire now).entries :=
    List.mem_append_left _ (List.mem_map_of_mem (f := Job.entry) waits)
  have ready := (counted _ (List.mem_append_left _ listed)).ready rfl
  exact nomatch full.symm.trans ready.room

/-- Events are prefixed by one that is admitted. -/
theorem prepend {event : QueueEvent} (admitted : admits first event)
    (steps : Steps admits (first.apply event) events ledger) :
    Steps admits first (event :: events) ledger := by
  induction steps with
  | refl => exact .step .refl admitted
  | step _ next ih => exact .step ih next

end Steps

/-- The deliveries of a job, first to last. -/
def deliveriesOf (ledger : Ledger) (id : Uuid) : List Job :=
  Account.deliveriesOf (ledger.deliveries.map Delivery.job) id

/-- Whatever happens to a queue, every job that has been put in is at exactly one place, once, with
its kind, its payload and the deliveries it may use; nothing else is anywhere. Its deliveries are
numbered from one on and are no more than it may use, or one if it may use none, and it is gone only
if they are used up. A completion and a failure that are refused change nothing. -/
theorem accounted {lease : Nat} {events : List QueueEvent} {ledger : Ledger}
    (steps : Steps Fresh (start lease) events ledger) :
    (∀ job ∈ ledger.enqueued, ∃ place held,
      ledger.entries.filter (fun entry => entry.2.id = job.id) = [(place, held)] ∧
      held.work = job.work ∧
      (∀ handed ∈ ledger.deliveriesOf job.id, handed.work = job.work) ∧
      (ledger.deliveriesOf job.id).map (fun handed => handed.attempts.toNat) =
        List.range' 1 held.attempts.toNat ∧
      (ledger.deliveriesOf job.id).length <= max 1 job.maxAttempts.toNat ∧
      (place = .dropped -> job.maxAttempts <= held.attempts)) ∧
    (∀ entry ∈ ledger.entries, ∃ job ∈ ledger.enqueued, entry.2.work = job.work) ∧
    (∀ delivery ∈ ledger.deliveries, ∃ job ∈ ledger.enqueued, delivery.job.work = job.work) ∧
    (forall id, (ledger.queue.complete id).1 = .error (.notInFlight id) ->
      (ledger.queue.complete id).2 = ledger.queue) ∧
    forall id retryAt, (ledger.queue.fail id retryAt).1 = .error (.notInFlight id) ->
      (ledger.queue.fail id retryAt).2 = ledger.queue := by
  have placed := (steps.weaken (fun _ _ fresh => fresh.1)).placed (placed_start lease)
  have counted := steps.counted
  refine ⟨?_, ?_, ?_, fun id => Queue.complete_of_error, fun id retryAt => Queue.fail_of_error⟩
  · intro job known
    obtain ⟨place, held, only, work⟩ := placed.entry known
    have member : (place, held) ∈ ledger.entries :=
      List.mem_of_mem_filter (only ▸ List.mem_cons_self)
    have tallied := counted (place, held) member
    have id : held.id = job.id := congrArg Prod.fst work
    have maxAttempts : held.maxAttempts = job.maxAttempts :=
      congrArg (fun work => work.2.2.2) work
    have numbered : (ledger.deliveriesOf job.id).map (fun handed => handed.attempts.toNat) =
        List.range' 1 held.attempts.toNat := id ▸ tallied.numbered
    refine ⟨place, held, only, work, ?_, numbered, ?_, ?_⟩
    · intro handed delivered
      obtain ⟨delivered, same⟩ := List.mem_filter.mp delivered
      exact placed.delivered_work known delivered (of_decide_eq_true same)
    · have count := congrArg List.length numbered
      rw [List.length_map, List.length_range'] at count
      rw [count, ← maxAttempts]
      exact tallied.bounded
    · intro gone
      rw [← maxAttempts]
      exact of_decide_eq_true (tallied.spent gone)
  · intro entry member
    have listed := List.mem_map_of_mem (f := fun entry : Place × Job => entry.2.work) member
    obtain ⟨job, known, work⟩ := List.mem_map.mp (placed.works.mem_iff.mp listed)
    exact ⟨job, known, work.symm⟩
  · intro delivery member
    obtain ⟨job, known, work⟩ := List.mem_map.mp
      (placed.handed delivery.job (List.mem_map_of_mem member))
    exact ⟨job, known, work.symm⟩

/-- A worker is late, so that its job is delivered to another; both say that it is done. -/
theorem accounted_redelivery :
    let job := Job.new (.ofNat 1) Continuation.jobKind .null .epoch 2
    let lapse : Instant := ⟨0, 300, 0, by decide, by decide, by decide⟩
    let events : List QueueEvent :=
      [.enqueue job, .fetch 1 .epoch 1, .fetch 2 lapse 1, .complete 1 job.id, .complete 2 job.id]
    let ledger := events.foldl apply (start Queue.usualLease)
    Steps Fresh (start Queue.usualLease) events ledger ∧
      ∃ place held, ledger.entries.filter (fun entry => entry.2.id = job.id) = [(place, held)] ∧
        held.work = job.work ∧ (ledger.deliveriesOf job.id).length <= 2 := by
  intro job lapse events ledger
  have steps : Steps Fresh (start Queue.usualLease) events ledger :=
    .prepend ⟨List.not_mem_nil, rfl⟩
      (.prepend ⟨trivial, trivial⟩ (.prepend ⟨trivial, trivial⟩
        (.prepend ⟨trivial, trivial⟩ (.prepend ⟨trivial, trivial⟩ .refl))))
  have known : job ∈ ledger.enqueued := show job ∈ [job] from List.mem_singleton_self job
  obtain ⟨place, held, only, work, _, _, bounded, _⟩ := (accounted steps).1 job known
  exact ⟨steps, place, held, only, work, bounded⟩

end Ledger

end Outreach
