import Outreach.Proofs.Queue.Ledger

/-!
# Exclusive deliveries

A delivery that is under way keeps its job from every worker but the one it was made to, until its
lease runs out or it ends. A queue knows deliveries by the ids of their jobs only, so that a worker
whose own delivery is over can still end the one that took its place: `not_exclusive` shows that
it does, and `exclusive` says what holds all the same.
-/

namespace Outreach

/-- A worker says what has become of a job. -/
def QueueEvent.Settles (worker : Nat) (id : Uuid) : QueueEvent -> Prop
  | .complete settler settled => settler = worker ∧ settled = id
  | .fail settler settled _ => settler = worker ∧ settled = id
  | _ => False

/-- The lease of a delivery that began at an instant has not run out by another. -/
def Delay.Runs (lease : Nat) (begun now : Instant) : Prop :=
  forall cutoff, leaseCutoff? now lease = some cutoff -> cutoff < begun

namespace Claim

/-- A delivery whose lease runs has not expired. -/
theorem not_expired {claim : Claim} {lease : Nat} {now : Instant}
    (runs : Delay.Runs lease claim.claimedAt now) : claim.expired lease now = false := by
  unfold expired
  cases reached : Delay.leaseCutoff? now lease with
  | none => rfl
  | some cutoff =>
    have before : cutoff.rank < claim.claimedAt.rank := runs cutoff reached
    have notLe : ¬ claim.claimedAt.rank <= cutoff.rank := by omega
    exact decide_eq_false notLe

end Claim

namespace Queue

variable {queue : Queue} {claim : Claim}

/-- A delivery whose lease runs goes on while others begin, and its job is not among theirs. -/
theorem fetch_of_runs {now : Instant} (distinct : (queue.expire now).Distinct)
    (underWay : claim ∈ queue.inFlight) (runs : Delay.Runs queue.lease claim.claimedAt now)
    (limit : Nat) :
    claim ∈ (queue.fetch now limit).queue.inFlight ∧
      ∀ handed ∈ (queue.fetch now limit).claimed, handed.id ≠ claim.job.id := by
  have stays : claim ∈ (queue.expire now).inFlight := by
    rw [inFlight_expire]
    exact List.mem_filter.mpr ⟨underWay, by rw [Claim.not_expired runs]; rfl⟩
  rw [fetch_eq_of_distinct distinct]
  refine ⟨List.mem_append_left _ stays, ?_⟩
  rintro handed delivered same
  obtain ⟨job, begins, rfl⟩ := List.mem_map.mp delivered
  exact distinct.apart (of_mem_begun begins).1 stays same.symm

/-- What is handed out is under way from then on. -/
theorem mem_inFlight_fetch {now : Instant} (distinct : (queue.expire now).Distinct) {limit : Nat}
    {job : Job} (handed : job ∈ (queue.fetch now limit).claimed) :
    ⟨job, now⟩ ∈ (queue.fetch now limit).queue.inFlight := by
  rw [fetch_eq_of_distinct distinct] at handed ⊢
  obtain ⟨original, begins, rfl⟩ := List.mem_map.mp handed
  exact List.mem_append_right _ (List.mem_map_of_mem (f := claimAt now) begins)

/-- The end of another delivery leaves one under way. -/
theorem mem_inFlight_release (underWay : claim ∈ queue.inFlight) {id : Uuid}
    (other : claim.job.id ≠ id) : claim ∈ (queue.release id).inFlight :=
  List.mem_filter.mpr ⟨underWay, decide_eq_true other⟩

theorem mem_inFlight_complete (underWay : claim ∈ queue.inFlight) {id : Uuid}
    (other : claim.job.id ≠ id) : claim ∈ (queue.complete id).2.inFlight := by
  unfold complete
  cases queue.claim? id with
  | none => exact underWay
  | some ended => exact mem_inFlight_release underWay other

theorem mem_inFlight_fail (underWay : claim ∈ queue.inFlight) {id : Uuid}
    (other : claim.job.id ≠ id) (retryAt : Instant) :
    claim ∈ (queue.fail id retryAt).2.inFlight := by
  unfold fail
  cases queue.claim? id with
  | none => exact underWay
  | some ended =>
    by_cases usedUp : ended.job.exhausted
    · simp only [usedUp, if_true]
      exact mem_inFlight_release underWay other
    · simp only [usedUp, if_false, Bool.false_eq_true]
      exact mem_inFlight_release underWay other

end Queue

namespace Ledger

/-- A job has been handed to a worker. -/
def HandedTo (ledger : Ledger) (worker : Nat) (id : Uuid) : Prop :=
  ∃ delivery ∈ ledger.deliveries, delivery.worker = worker ∧ delivery.job.id = id

/-- No id is put in twice, and workers settle only jobs that have been handed to them. -/
def Proper (ledger : Ledger) (event : QueueEvent) : Prop :=
  ledger.Unrepeated event ∧
    forall worker id, event.Settles worker id -> ledger.HandedTo worker id

/-- After deliveries whose lease has run out have ended, still no id occurs twice. -/
theorem distinct_expire {ledger : Ledger} (placed : ledger.account.Placed) (now : Instant) :
    (ledger.queue.expire now).Distinct :=
  distinct_of_placed (placed.moves (moves_expire ledger.queue now ledger.enqueued
    (ledger.deliveries.map Delivery.job) ledger.completed ledger.dropped))

/-- The lease of a queue stays as it is. -/
theorem lease_apply {ledger : Ledger} (placed : ledger.account.Placed) (event : QueueEvent) :
    (ledger.apply event).queue.lease = ledger.queue.lease := by
  cases event with
  | enqueue job => rfl
  | fetch worker now limit => exact Queue.lease_fetch (distinct_expire placed now) limit
  | complete worker id => exact Queue.lease_complete ledger.queue id
  | fail worker id retryAt => exact Queue.lease_fail ledger.queue id retryAt
  | rearrange order => rfl

/-- The lease of a queue is the one that it was given at the start. -/
theorem Steps.lease_eq {lease : Nat} {events : List QueueEvent} {ledger : Ledger}
    (steps : Steps Unrepeated (start lease) events ledger) : ledger.queue.lease = lease := by
  induction steps with
  | refl => rfl
  | step steps _ ih => exact (lease_apply (steps.placed (placed_start lease)) _).trans ih

/-- What is kept while a delivery of a job is under way: it is, and the job has been handed to
nobody since but to those who had it before. -/
structure Guarded (earlier : Ledger) (claim : Claim) (ledger : Ledger) : Prop where
  underWay : claim ∈ ledger.queue.inFlight
  handed : forall worker, ledger.HandedTo worker claim.job.id ->
    earlier.HandedTo worker claim.job.id

/-- An event that neither settles the job nor comes when the lease has run out keeps a delivery. -/
theorem Guarded.apply {earlier ledger : Ledger} {claim : Claim}
    (guarded : Guarded earlier claim ledger) (placed : ledger.account.Placed) {event : QueueEvent}
    (proper : ledger.Proper event)
    (unsettled : forall worker, event.Settles worker claim.job.id ->
      ¬ earlier.HandedTo worker claim.job.id)
    (running : forall worker now limit, event = .fetch worker now limit ->
      Delay.Runs ledger.queue.lease claim.claimedAt now) :
    Guarded earlier claim (ledger.apply event) := by
  -- Whoever settles the job has been handed it, hence had it before; those do not settle it.
  have others : forall worker id, event.Settles worker id -> claim.job.id ≠ id := by
    rintro worker id settles rfl
    exact unsettled worker settles (guarded.handed worker (proper.2 worker _ settles))
  cases event with
  | enqueue job => exact ⟨guarded.underWay, guarded.handed⟩
  | fetch worker now limit =>
    obtain ⟨stays, apart⟩ := Queue.fetch_of_runs (distinct_expire placed now) guarded.underWay
      (running worker now limit rfl) limit
    refine ⟨stays, ?_⟩
    rintro other ⟨delivery, member, same, id⟩
    rcases List.mem_append.mp member with before | begun
    · exact guarded.handed other ⟨delivery, before, same, id⟩
    · obtain ⟨job, delivered, rfl⟩ := List.mem_map.mp begun
      exact absurd id (apart job delivered)
  | complete worker id =>
    have other := others worker id ⟨rfl, rfl⟩
    exact ⟨Queue.mem_inFlight_complete guarded.underWay other, guarded.handed⟩
  | fail worker id retryAt =>
    have other := others worker id ⟨rfl, rfl⟩
    exact ⟨Queue.mem_inFlight_fail guarded.underWay other retryAt, guarded.handed⟩
  | rearrange order => exact ⟨proper.1.mem_iff.mpr guarded.underWay, guarded.handed⟩

/-- A delivery is kept over any number of such events. -/
theorem Guarded.steps {earlier first ledger : Ledger} {claim : Claim} {events : List QueueEvent}
    (guarded : Guarded earlier claim first) (placed : first.account.Placed)
    (steps : Steps Proper first events ledger)
    (unsettled : ∀ event ∈ events, forall worker, event.Settles worker claim.job.id ->
      ¬ earlier.HandedTo worker claim.job.id)
    (running : forall worker now limit, .fetch worker now limit ∈ events ->
      Delay.Runs first.queue.lease claim.claimedAt now) :
    Guarded earlier claim ledger ∧ ledger.account.Placed ∧
      ledger.queue.lease = first.queue.lease := by
  induction steps with
  | refl => exact ⟨guarded, placed, rfl⟩
  | @step events ledger event steps proper ih =>
    obtain ⟨guarded, placed, lease⟩ := ih
      (fun event member => unsettled event (List.mem_append_left _ member))
      (fun worker now limit member => running worker now limit (List.mem_append_left _ member))
    have last : event ∈ events ++ [event] := List.mem_append_right _ List.mem_cons_self
    refine ⟨guarded.apply placed proper (unsettled event last) ?_,
      placed.moves (moves_apply placed proper.1), (lease_apply placed event).trans lease⟩
    rintro worker now limit rfl
    rw [lease]
    exact running worker now limit last

/-- A fetch hands jobs to the worker that fetches only. -/
theorem HandedTo.of_fetch {ledger : Ledger} {worker other : Nat} {now : Instant} {limit : Nat}
    {id : Uuid} (handed : (ledger.apply (.fetch worker now limit)).HandedTo other id) :
    other = worker ∨ ledger.HandedTo other id := by
  obtain ⟨delivery, member, same, id⟩ := handed
  rcases List.mem_append.mp member with before | begun
  · exact .inr ⟨delivery, before, same, id⟩
  · obtain ⟨job, _, rfl⟩ := List.mem_map.mp begun
    exact .inl same.symm

/-- From a fetch that claims a job for a worker on, until the worker or somebody to whom the job had
been handed before says what has become of it, and as long as no fetch finds that the lease has run
out, a fetch that does not find so either hands the job to nobody, and the queue accepts that the
job is done, or that it failed. -/
theorem exclusive {lease : Nat} {events since : List QueueEvent} {ledger later : Ledger}
    {worker : Nat} {now : Instant} {limit : Nat} {job : Job}
    (reached : Steps Proper (start lease) events ledger)
    (handed : job ∈ (ledger.queue.fetch now limit).claimed)
    (steps : Steps Proper (ledger.apply (.fetch worker now limit)) since later)
    (unsettled : ∀ event ∈ since, forall settler, event.Settles settler job.id ->
      settler ≠ worker ∧ ¬ ledger.HandedTo settler job.id)
    (running : forall other instant most, .fetch other instant most ∈ since ->
      Delay.Runs lease now instant)
    {instant : Instant} (alive : Delay.Runs lease now instant) (most : Nat) :
    (∀ again ∈ (later.queue.fetch instant most).claimed, again.id ≠ job.id) ∧
      (later.queue.complete job.id).1 = .ok () ∧
      forall retryAt, ∃ outcome, (later.queue.fail job.id retryAt).1 = .ok outcome := by
  have unrepeated := reached.weaken (fun _ _ proper => proper.1)
  have placed : ledger.account.Placed := unrepeated.placed (placed_start lease)
  have leased : ledger.queue.lease = lease := unrepeated.lease_eq
  have begun : Guarded (ledger.apply (.fetch worker now limit)) ⟨job, now⟩
      (ledger.apply (.fetch worker now limit)) :=
    ⟨Queue.mem_inFlight_fetch (distinct_expire placed now) handed, fun _ holds => holds⟩
  have fetched : Account.Moves ledger.account (ledger.apply (.fetch worker now limit)).account :=
    moves_apply placed trivial
  have nextLeased := (lease_apply placed (.fetch worker now limit)).trans leased
  obtain ⟨guarded, placed, kept⟩ := begun.steps (placed.moves fetched) steps
    (fun event member settler settles holds => by
      obtain ⟨notWorker, notBefore⟩ := unsettled event member settler settles
      exact holds.of_fetch.elim notWorker notBefore)
    (fun other instant most member => nextLeased ▸ running other instant most member)
  have found : later.queue.claim? job.id = some ⟨job, now⟩ :=
    Queue.claim?_of_mem (distinct_of_placed placed) guarded.underWay
  refine ⟨?_, ?_, ?_⟩
  · refine (Queue.fetch_of_runs (distinct_expire placed instant) guarded.underWay ?_ most).2
    rw [kept, nextLeased]
    exact alive
  · rw [Queue.complete, found]
  · intro retryAt
    simp only [Queue.fail, found]
    split
    · exact ⟨_, rfl⟩
    · exact ⟨_, rfl⟩

namespace Takeover

/-- A job that may be delivered three times. -/
def job : Job := .new (.ofNat 1) Continuation.jobKind .null .epoch 3

/-- The instant at which the usual lease of a delivery at the epoch runs out. -/
def lapse : Instant :=
  { Instant.epoch with second := 300, second_lt := by decide, nanosecond_lt := by decide }

/-- One second later. -/
def next : Instant :=
  { Instant.epoch with second := 301, second_lt := by decide, nanosecond_lt := by decide }

/-- The instant at which the usual lease of a delivery at the first instant runs out. -/
def relapse : Instant :=
  { Instant.epoch with second := 600, second_lt := by decide, nanosecond_lt := by decide }

/-- The job has been put in. -/
def put : Ledger := (start Queue.usualLease).apply (.enqueue job)

/-- The job has been delivered to a first worker. -/
def first : Ledger := put.apply (.fetch 1 .epoch 1)

theorem runs_next : Delay.Runs Queue.usualLease lapse next := by
  rintro cutoff ⟨⟩
  decide

theorem steps_put : Steps Proper (start Queue.usualLease) [.enqueue job] put :=
  .prepend ⟨List.not_mem_nil, fun _ _ none => none.elim⟩ .refl

theorem steps_first : Steps Proper (start Queue.usualLease) [.enqueue job, .fetch 1 .epoch 1] first :=
  .step steps_put ⟨trivial, fun _ _ none => none.elim⟩

/-- A second worker takes the job over. -/
theorem fetch_lapse : (first.queue.fetch lapse 1).claimed = [{ job with attempts := 2 }] := by rfl

/-- If the first says that the job failed, it is delivered to a third. -/
theorem fetch_late :
    (((first.apply (.fetch 2 lapse 1)).apply (.fail 1 job.id next)).queue.fetch next 1).claimed =
      [{ job with attempts := 3, runAt := next }] := by rfl

theorem fetch_put : (put.queue.fetch lapse 1).claimed = [{ job with attempts := 1 }] := by rfl

/-- A fetch that is late ends the delivery, and the job is delivered again by a clock that has gone
back. -/
theorem fetch_back :
    (((put.apply (.fetch 1 lapse 1)).apply (.fetch 2 relapse 0)).queue.fetch next 1).claimed =
      [{ job with attempts := 2 }] := by rfl

/-- The first worker has got the job. -/
theorem first_handedTo : (first.apply (.fetch 2 lapse 1)).HandedTo 1 job.id := by
  have delivered : first.deliveries = [⟨1, { job with attempts := 1 }, .epoch⟩] := by rfl
  refine ⟨⟨1, { job with attempts := 1 }, .epoch⟩, List.mem_append_left _ ?_, rfl, rfl⟩
  rw [delivered]
  exact List.mem_singleton_self _

end Takeover

open Takeover in
/-- A worker takes over the job of one that is late, and a third finds nothing to do. -/
theorem exclusive_takeover :
    let later := (first.apply (.fetch 2 lapse 1)).apply (.fetch 3 next 1)
    (∀ again ∈ (later.queue.fetch next 1).claimed, again.id ≠ job.id) ∧
      (later.queue.complete job.id).1 = .ok () := by
  intro later
  have handed : { job with attempts := 2 } ∈ (first.queue.fetch lapse 1).claimed :=
    fetch_lapse ▸ List.mem_singleton_self _
  have steps : Steps Proper (first.apply (.fetch 2 lapse 1)) [.fetch 3 next 1] later :=
    .prepend ⟨trivial, fun _ _ none => none.elim⟩ .refl
  obtain ⟨apart, accepted, _⟩ := exclusive steps_first handed steps
    (fun event member settler settles => by
      rw [List.mem_singleton.mp member] at settles
      exact settles.elim)
    (fun other instant most member => by
      cases List.mem_singleton.mp member
      exact runs_next)
    runs_next 1
  exact ⟨apart, accepted⟩

open Takeover in
/-- A delivery is not safe until its own worker says what has become of the job. Somebody to whom
the job had been handed before may still say so, even if every fetch finds that the lease runs; and
a fetch may find that the lease has run out and the next, by a clock that goes back, that it has
not, even if nobody says anything. -/
theorem not_exclusive :
    (¬ forall (lease : Nat) (events since : List QueueEvent) (ledger later : Ledger) (worker : Nat)
        (now : Instant) (limit : Nat) (job : Job) (instant : Instant) (most : Nat),
      Steps Proper (start lease) events ledger ->
      job ∈ (ledger.queue.fetch now limit).claimed ->
      Steps Proper (ledger.apply (.fetch worker now limit)) since later ->
      (∀ event ∈ since, ¬ event.Settles worker job.id) ->
      (forall other instant most, .fetch other instant most ∈ since ->
        Delay.Runs lease now instant) ->
      Delay.Runs lease now instant ->
      (∀ again ∈ (later.queue.fetch instant most).claimed, again.id ≠ job.id) ∧
        (later.queue.complete job.id).1 = .ok ()) ∧
    ¬ forall (lease : Nat) (events since : List QueueEvent) (ledger later : Ledger) (worker : Nat)
        (now : Instant) (limit : Nat) (job : Job) (instant : Instant) (most : Nat),
      Steps Proper (start lease) events ledger ->
      job ∈ (ledger.queue.fetch now limit).claimed ->
      Steps Proper (ledger.apply (.fetch worker now limit)) since later ->
      (∀ event ∈ since, forall settler, ¬ event.Settles settler job.id) ->
      Delay.Runs lease now instant ->
      (∀ again ∈ (later.queue.fetch instant most).claimed, again.id ≠ job.id) ∧
        (later.queue.complete job.id).1 = .ok () := by
  constructor
  · intro law
    let late := (first.apply (.fetch 2 lapse 1)).apply (.fail 1 job.id next)
    have steps : Steps Proper (first.apply (.fetch 2 lapse 1)) [.fail 1 job.id next] late := by
      refine .prepend ⟨trivial, ?_⟩ .refl
      rintro worker id ⟨rfl, rfl⟩
      exact first_handedTo
    have safe := law _ _ _ _ _ 2 lapse 1 { job with attempts := 2 } next 1 steps_first
      (fetch_lapse ▸ List.mem_singleton_self _) steps ?_ ?_ runs_next
    · exact safe.1 { job with attempts := 3, runAt := next } (fetch_late ▸ List.mem_singleton_self _) rfl
    · intro event member settles
      rw [List.mem_singleton.mp member] at settles
      exact absurd settles.1 (by decide)
    · intro other instant most member
      cases List.mem_singleton.mp member
  · intro law
    let back := (put.apply (.fetch 1 lapse 1)).apply (.fetch 2 relapse 0)
    have steps : Steps Proper (put.apply (.fetch 1 lapse 1)) [.fetch 2 relapse 0] back :=
      .prepend ⟨trivial, fun _ _ none => none.elim⟩ .refl
    have safe := law _ _ _ _ _ 1 lapse 1 { job with attempts := 1 } next 1 steps_put
      (fetch_put ▸ List.mem_singleton_self _) steps ?_ runs_next
    · exact safe.1 { job with attempts := 2 } (fetch_back ▸ List.mem_singleton_self _) rfl
    · intro event member settler settles
      rw [List.mem_singleton.mp member] at settles
      exact settles.elim

end Ledger

end Outreach
