import Outreach.Proofs.Queue.Ledger
import Outreach.Proofs.Queue.Whereabouts

/-!
# What a queue hands out

A batch holds the pending jobs that are due, the earliest first, and those of one instant in the
order in which they were put in. A job does not say when it was put in: `Ledger.arrivals` lists the
jobs that were, which are those that are new, those that failed, and those whose lease ran out.
`Ledger.Waiting` is what every event keeps of the pending jobs, and `Ledger.batched` says what a
batch is of every queue that events lead to. There is none if the deliveries of a job in it cannot be
counted any more: `Ledger.not_batched`.
-/

namespace Outreach

namespace Job

/-- A job was put in after another was put in for the last time. -/
def PutBefore (arrivals : List Job) (first second : Job) : Prop :=
  ∃ early late, arrivals = early ++ late ∧ first.id ∈ early.map id ∧ first.id ∉ late.map id ∧
    second.id ∈ late.map id

/-- A job is due before another, or at the same instant and was put in before it. -/
def Precedes (arrivals : List Job) (first second : Job) : Prop :=
  first.runAt <= second.runAt ∧ (second.runAt <= first.runAt -> PutBefore arrivals first second)

variable {arrivals others : List Job} {first second : Job}

/-- Others that are put in do not change which of two jobs was put in before. -/
theorem PutBefore.append (before : PutBefore arrivals first second)
    (absent : first.id ∉ others.map id) : PutBefore (arrivals ++ others) first second := by
  obtain ⟨early, late, rfl, known, gone, later⟩ := before
  refine ⟨early, late ++ others, List.append_assoc _ _ _, known, ?_, ?_⟩
  · rw [List.map_append, List.mem_append, not_or]
    exact ⟨gone, absent⟩
  · rw [List.map_append]
    exact List.mem_append_left _ later

/-- Nor did those that were put in after both. -/
theorem PutBefore.of_append (before : PutBefore (arrivals ++ others) first second)
    (absent : second.id ∉ others.map id) : PutBefore arrivals first second := by
  obtain ⟨early, late, parts, known, gone, later⟩ := before
  rcases List.append_eq_append_iff.mp parts with ⟨between, rfl, rfl⟩ | ⟨between, rfl, rfl⟩
  · exact absurd (List.map_subset id (List.subset_append_right between late) later) absent
  · rw [List.map_append, List.mem_append] at later
    refine ⟨early, between, rfl, known, fun back => gone ?_, later.resolve_right absent⟩
    exact List.map_subset id (List.subset_append_left between others) back

theorem Precedes.append (precedes : Precedes arrivals first second)
    (absent : first.id ∉ others.map id) : Precedes (arrivals ++ others) first second :=
  ⟨precedes.1, fun same => (precedes.2 same).append absent⟩

end Job

namespace Queue

/-- The deliveries whose lease has run out by an instant and whose jobs have deliveries left. -/
def returning (queue : Queue) (now : Instant) : List Claim :=
  (queue.inFlight.filter (Claim.expired queue.lease now)).filter
    (fun claim => claim.job.attempts < claim.job.maxAttempts)

/-- The job that is pending again with the failed delivery of an id, if the queue says so. -/
def retried (queue : Queue) (id : Uuid) (retryAt : Instant) : List Job :=
  match queue.claim? id, (queue.fail id retryAt).1 with
  | some claim, .ok (.retrying _ _) => [{ claim.job with runAt := retryAt }]
  | _, _ => []

/-- Put jobs among pending ones, one after the other. -/
def placeAll (jobs pending : List Job) : List Job :=
  jobs.foldl (fun pending job => place job pending) pending

section Order

variable {job : Job} {pending : List Job}

theorem mem_place {other : Job} : other ∈ place job pending ↔ other = job ∨ other ∈ pending := by
  rw [(place_perm job pending).mem_iff, List.mem_cons]

/-- A job at its place is in an order of pending jobs that goes by their instants. -/
theorem pairwise_place {Before : Job -> Job -> Prop}
    (timely : forall first second, Before first second -> first.runAt <= second.runAt)
    (inOrder : pending.Pairwise Before)
    (before : ∀ other ∈ pending, job.runAt < other.runAt -> Before job other)
    (after : ∀ other ∈ pending, ¬ job.runAt < other.runAt -> Before other job) :
    (place job pending).Pairwise Before := by
  induction pending with
  | nil => exact List.pairwise_singleton _ _
  | cons other rest ih =>
    obtain ⟨first, others⟩ := List.pairwise_cons.mp inOrder
    rw [place]
    split
    · rename_i earlier
      refine List.pairwise_cons.mpr ⟨fun next member => before next member ?_, inOrder⟩
      rcases List.mem_cons.mp member with rfl | later
      · exact earlier
      · exact Int.lt_of_lt_of_le earlier (timely _ _ (first next later))
    · rename_i notEarlier
      refine List.pairwise_cons.mpr ⟨fun next member => ?_, ?_⟩
      · rcases mem_place.mp member with rfl | later
        · exact after other List.mem_cons_self notEarlier
        · exact first next later
      · exact ih others (fun next later => before next (List.mem_cons_of_mem _ later))
          (fun next later => after next (List.mem_cons_of_mem _ later))

/-- The jobs that have deliveries left are those whose deliveries are not used up. -/
theorem returning_eq (queue : Queue) (now : Instant) :
    queue.returning now =
      (queue.inFlight.filter (Claim.expired queue.lease now)).filter
        (fun claim => !claim.job.exhausted) := by
  refine List.filter_congr fun claim _ => ?_
  simp [Job.exhausted, ← UInt32.not_le]

/-- Whoever waits after the leases have been looked at has waited before, or is delivered again. -/
theorem pending_expire_perm (queue : Queue) (now : Instant) :
    (queue.expire now).pending.Perm (queue.pending ++ (queue.returning now).map Claim.job) := by
  rw [returning_eq]
  exact (queue.pending_expire now).trans List.perm_append_comm

theorem pending_foldl_push_eq (claims : List Claim) (queue : Queue) :
    (claims.foldl (fun queue claim => queue.push claim.job) queue).pending =
      placeAll (claims.map Claim.job) queue.pending := by
  induction claims generalizing queue with
  | nil => rfl
  | cons claim rest ih => exact ih (queue.push claim.job)

/-- The jobs whose lease has run out are put in again, one after the other. -/
theorem pending_expire_eq (queue : Queue) (now : Instant) :
    (queue.expire now).pending = placeAll ((queue.returning now).map Claim.job) queue.pending := by
  rw [returning_eq]
  unfold expire Claim.expired
  cases Delay.leaseCutoff? now queue.lease with
  | none => simp [placeAll]
  | some cutoff => exact pending_foldl_push_eq _ _

theorem retried_eq {queue : Queue} {id : Uuid} {claim : Claim}
    (found : queue.claim? id = some claim) (retryAt : Instant) :
    queue.retried id retryAt =
      if claim.job.exhausted then [] else [{ claim.job with runAt := retryAt }] := by
  simp only [retried, fail, found]
  by_cases usedUp : claim.job.exhausted <;> simp only [usedUp, if_true, if_false,
    Bool.false_eq_true]

theorem retried_of_none {queue : Queue} {id : Uuid} (none : queue.claim? id = none)
    (retryAt : Instant) : queue.retried id retryAt = [] := by
  simp only [retried, none]

/-- A failure puts at most one job in: one that was under way and may be delivered again. -/
theorem retried_cases (queue : Queue) (id : Uuid) (retryAt : Instant) :
    queue.retried id retryAt = [] ∨
      ∃ claim ∈ queue.inFlight, claim.job.exhausted = false ∧
        queue.retried id retryAt = [{ claim.job with runAt := retryAt }] := by
  cases found : queue.claim? id with
  | none => exact .inl (retried_of_none found retryAt)
  | some claim =>
    rw [retried_eq found]
    cases more : claim.job.exhausted with
    | true => exact .inl rfl
    | false => exact .inr ⟨claim, (mem_of_claim? found).1, more, rfl⟩

theorem pending_fail (queue : Queue) (id : Uuid) (retryAt : Instant) :
    (queue.fail id retryAt).2.pending = placeAll (queue.retried id retryAt) queue.pending := by
  cases found : queue.claim? id with
  | none =>
    rw [retried_of_none found]
    simp only [fail, found]
    rfl
  | some claim =>
    rw [retried_eq found]
    simp only [fail, found]
    by_cases usedUp : claim.job.exhausted
    · simp only [usedUp, if_true]
      rfl
    · simp only [usedUp, if_false, Bool.false_eq_true]
      rfl

end Order

section Due

variable {queue : Queue} {now : Instant} {limit : Nat}

theorem length_due_le : (queue.due now limit).length <= limit :=
  Nat.le_trans (List.takeWhile_prefix _).length_le (List.length_take_le _ _)

theorem runAt_le_of_mem_due {job : Job} (taken : job ∈ queue.due now limit) : job.runAt <= now :=
  of_decide_eq_true (List.all_eq_true.mp List.all_takeWhile job taken)

/-- A batch that is not full leaves no due job. -/
theorem not_due_of_room (inOrder : queue.pending.Pairwise (fun first second =>
      first.runAt <= second.runAt)) (room : (queue.due now limit).length < limit) :
    ∀ job ∈ queue.pending.drop (queue.due now limit).length, now < job.runAt := by
  obtain ⟨pending, inFlight, lease⟩ := queue
  simp only [due] at inOrder room ⊢
  induction pending generalizing limit with
  | nil => exact fun job none => absurd (List.mem_of_mem_drop none) List.not_mem_nil
  | cons first rest ih =>
    obtain ⟨least, others⟩ := List.pairwise_cons.mp inOrder
    cases limit with
    | zero => exact absurd room (Nat.not_lt_zero _)
    | succ limit =>
      by_cases ready : first.runAt <= now
      · simp only [List.take_succ_cons, List.takeWhile_cons, ready, decide_true, if_true,
          List.length_cons, List.drop_succ_cons] at room ⊢
        exact ih others (Nat.lt_of_succ_lt_succ room)
      · have late : now < first.runAt := Int.not_le.mp ready
        simp only [List.take_succ_cons, List.takeWhile_cons, ready, decide_false, if_false,
          Bool.false_eq_true, List.length_nil, List.drop_zero]
        intro job member
        rcases List.mem_cons.mp member with rfl | later
        · exact late
        · exact Int.lt_of_lt_of_le late (least job later)

end Due

/-- The jobs that a batch is made of at an instant, and the pending ones that are left. -/
structure Choice (arrivals : List Job) (queue : Queue) (now : Instant) (limit : Nat)
    (taken left : List Job) : Prop where
  /-- The jobs of deliveries whose lease has run out are pending, too, before the batch is taken. -/
  pending : (taken ++ left).Perm (queue.pending ++ (queue.returning now).map Claim.job)
  /-- A batch is not larger than asked for. -/
  length_le : taken.length <= limit
  /-- No job is taken early. -/
  due : ∀ job ∈ taken, job.runAt <= now
  inOrder : taken.Pairwise (fun first second => first.runAt <= second.runAt)
  /-- A due job is left only if none that is later has been taken. -/
  earliest : ∀ job ∈ left, job.runAt <= now -> ∀ other ∈ taken, other.runAt <= job.runAt
  /-- A due job is left only if the batch is full. -/
  full : taken.length < limit -> ∀ job ∈ left, now < job.runAt
  /-- Of jobs of one instant that were pending the one comes first that was put in first. -/
  fair : taken.Pairwise (fun first second => first ∈ queue.pending -> second ∈ queue.pending ->
    first.runAt = second.runAt -> first.PutBefore arrivals second)

/-- The deliveries of jobs begin at an instant, and `after` is left. -/
structure Begins (queue : Queue) (now : Instant) (jobs : List Job) (after : Queue) : Prop where
  /-- Every job gets one more delivery, -/
  counted : ∀ job ∈ jobs, job.attempted.attempts.toNat = job.attempts.toNat + 1
  /-- and nothing else of it changes. -/
  kept : ∀ job ∈ jobs, job.attempted = { job with attempts := job.attempted.attempts }
  /-- Deliveries end whose lease has run out, and no others; those of the jobs begin. -/
  underWay : after.inFlight =
    queue.inFlight.filter (fun claim => !claim.expired queue.lease now) ++
      jobs.map (fun job => ⟨job.attempted, now⟩)
  /-- A job whose last delivery has ended is nowhere. -/
  gone : ∀ claim ∈ queue.inFlight, claim.expired queue.lease now = true ->
    claim.job.maxAttempts <= claim.job.attempts -> after.whereabouts claim.job.id = []

/-- What a queue does for a batch at an instant. -/
inductive Batch (arrivals : List Job) (queue : Queue) (now : Instant) (limit : Nat) :
    Except QueueError (List Job) × Queue -> Prop where
  /-- The jobs of the batch are handed out, each with one more delivery. -/
  | handed (taken : List Job) (after : Queue)
      (choice : queue.Choice arrivals now limit taken after.pending)
      (begins : queue.Begins now taken after) :
      Batch arrivals queue now limit (.ok (taken.map Job.attempted), after)
  /-- A job of the batch has had the highest number of deliveries. The deliveries of those before it
  have begun, it is nowhere, those after it are still pending, and nothing is handed out. -/
  | broken (first : List Job) (lost : Job) (last left : List Job) (after : Queue)
      (choice : queue.Choice arrivals now limit (first ++ lost :: last) left)
      (highest : lost.attempts.toNat + 1 = UInt32.size)
      (begins : queue.Begins now first after) (pending : after.pending = last ++ left)
      (nowhere : after.whereabouts lost.id = []) :
      Batch arrivals queue now limit (.error .overflow, after)

end Queue

namespace Ledger

/-- The jobs that are put among the pending ones with an event, the first one first. -/
def pushed (ledger : Ledger) : QueueEvent -> List Job
  | .enqueue job => [job]
  | .fetch _ now _ => (ledger.queue.returning now).map Claim.job
  | .fail _ id retryAt => ledger.queue.retried id retryAt
  | .complete _ _ | .rearrange _ => []

/-- The jobs that are put among the pending ones with events, the first one first. -/
def arrivals : Ledger -> List QueueEvent -> List Job
  | _, [] => []
  | ledger, event :: later => ledger.pushed event ++ (ledger.apply event).arrivals later

theorem arrivals_append (ledger : Ledger) (events : List QueueEvent) (event : QueueEvent) :
    ledger.arrivals (events ++ [event]) =
      ledger.arrivals events ++ (events.foldl apply ledger).pushed event := by
  induction events generalizing ledger with
  | nil => exact List.append_nil _
  | cons first later ih =>
    rw [List.cons_append, arrivals, arrivals, ih, List.append_assoc]
    rfl

/-- Jobs wait in the order of their instants, and those of one instant in the order in which they
were put in. -/
structure Waiting (arrivals pending : List Job) : Prop where
  arrived : pending ⊆ arrivals
  inOrder : pending.Pairwise (Job.Precedes arrivals)

namespace Waiting

variable {arrivals pending : List Job}

/-- A job that is put in waits with the others. -/
theorem place (waiting : Waiting arrivals pending) {job : Job} (new : job.id ∉ pending.map Job.id) :
    Waiting (arrivals ++ [job]) (Queue.place job pending) := by
  have apart : ∀ other ∈ pending, other.id ∉ [job].map Job.id := fun other waits same =>
    new (List.mem_singleton.mp same ▸ List.mem_map_of_mem waits)
  refine ⟨fun other member => ?_, ?_⟩
  · rcases Queue.mem_place.mp member with rfl | waits
    · exact List.mem_append_right _ (List.mem_singleton_self _)
    · exact List.mem_append_left _ (waiting.arrived waits)
  · refine Queue.pairwise_place (fun first second precedes => precedes.1) ?_ ?_ ?_
    · exact waiting.inOrder.imp_of_mem (fun waits _ precedes => precedes.append (apart _ waits))
    · intro other _ earlier
      exact ⟨Int.le_of_lt earlier, fun later => absurd earlier (Int.not_lt.mpr later)⟩
    · intro other waits notEarlier
      refine ⟨Int.not_lt.mp notEarlier, fun _ => ?_⟩
      exact ⟨arrivals, [job], rfl, List.mem_map_of_mem (waiting.arrived waits), apart other waits,
        List.mem_singleton_self _⟩

/-- Jobs that are put in one after the other wait with the others. -/
theorem placeAll {jobs : List Job} (waiting : Waiting arrivals pending)
    (new : (pending.map Job.id ++ jobs.map Job.id).Nodup) :
    Waiting (arrivals ++ jobs) (Queue.placeAll jobs pending) := by
  induction jobs generalizing arrivals pending with
  | nil =>
    rw [List.append_nil]
    exact waiting
  | cons job rest ih =>
    have first : job.id ∉ pending.map Job.id := fun waits =>
      (List.nodup_append.mp new).2.2 _ waits _ List.mem_cons_self rfl
    have placed := ((Queue.place_perm job pending).map Job.id).append_right (rest.map Job.id)
    have others := ih (waiting.place first) (placed.nodup_iff.mpr (List.perm_middle.nodup new))
    rw [List.append_assoc] at others
    exact others

/-- Jobs that are taken out leave the others waiting. -/
theorem sublist {kept : List Job} (waiting : Waiting arrivals pending)
    (fewer : kept.Sublist pending) : Waiting arrivals kept :=
  ⟨fun _ member => waiting.arrived (fewer.subset member), waiting.inOrder.sublist fewer⟩

end Waiting

section Events

variable {ledger : Ledger}

/-- With an event jobs are put among the pending ones, and then some may be taken out. -/
theorem pending_apply (distinct : ledger.queue.Distinct) (event : QueueEvent) :
    (ledger.apply event).queue.pending.Sublist
      (Queue.placeAll (ledger.pushed event) ledger.queue.pending) := by
  cases event with
  | enqueue job => exact .refl _
  | fetch worker now limit =>
    simp only [apply, pushed]
    rw [Queue.fetch_eq_of_distinct (distinct.expire now), ← Queue.pending_expire_eq]
    exact List.drop_sublist _ _
  | complete worker id =>
    simp only [apply, Queue.complete]
    cases ledger.queue.claim? id <;> exact .refl _
  | fail worker id retryAt =>
    simp only [apply, pushed, Queue.pending_fail]
    exact .refl _
  | rearrange order => exact .refl _

/-- The ids of the jobs that are put in are new among those of the pending ones. -/
theorem nodup_pushed (placed : ledger.account.Placed) {event : QueueEvent}
    (unrepeated : ledger.Unrepeated event) :
    (ledger.queue.pending.map Job.id ++ (ledger.pushed event).map Job.id).Nodup := by
  have distinct := distinct_of_placed placed
  rw [Queue.Distinct, Queue.entries_ids] at distinct
  -- All but new jobs were under way.
  have again (jobs : List Job) (underWay : (jobs.map Job.id).Sublist
      (ledger.queue.inFlight.map (fun claim => claim.job.id))) :
      (ledger.queue.pending.map Job.id ++ jobs.map Job.id).Nodup :=
    distinct.sublist (underWay.append_left _)
  cases event with
  | enqueue job =>
    have known := placed.ids.mem_iff (a := job.id)
    refine List.nodup_append.mpr ⟨distinct.of_append_left, List.nodup_singleton _, ?_⟩
    rintro id waits other new rfl
    obtain rfl := List.mem_singleton.mp new
    refine unrepeated (known.mp ?_)
    rw [account, entries, List.map_append, Queue.entries_ids]
    exact List.mem_append_left _ (List.mem_append_left _ waits)
  | fetch worker now limit =>
    refine again _ ?_
    rw [pushed, List.map_map]
    exact (List.filter_sublist.trans List.filter_sublist).map _
  | fail worker id retryAt =>
    refine again _ ?_
    rw [pushed]
    rcases ledger.queue.retried_cases id retryAt with none | ⟨claim, underWay, -, one⟩
    · rw [none]
      exact List.nil_sublist _
    · rw [one]
      exact List.singleton_sublist.mpr (List.mem_map_of_mem underWay)
  | complete worker id => exact again [] (List.nil_sublist _)
  | rearrange order => exact again [] (List.nil_sublist _)

/-- An event keeps the jobs waiting. -/
theorem Waiting.apply {arrivals : List Job} (waiting : Waiting arrivals ledger.queue.pending)
    (placed : ledger.account.Placed) {event : QueueEvent} (unrepeated : ledger.Unrepeated event) :
    Waiting (arrivals ++ ledger.pushed event) (ledger.apply event).queue.pending :=
  (waiting.placeAll (nodup_pushed placed unrepeated)).sublist
    (pending_apply (distinct_of_placed placed) event)

end Events

namespace Steps

variable {lease : Nat} {admits : Ledger -> QueueEvent -> Prop} {first : Ledger}
  {events : List QueueEvent} {ledger : Ledger}

theorem eq_foldl (steps : Steps admits first events ledger) :
    events.foldl apply first = ledger := by
  induction steps with
  | refl => rfl
  | step _ _ ih => rw [List.foldl_append, ih, List.foldl_cons, List.foldl_nil]

theorem arrivals_step {event : QueueEvent} (steps : Steps admits first events ledger) :
    first.arrivals (events ++ [event]) = first.arrivals events ++ ledger.pushed event := by
  rw [arrivals_append, steps.eq_foldl]

/-- Any number of events keep the jobs waiting. -/
theorem waiting (steps : Steps Unrepeated (start lease) events ledger) :
    Waiting ((start lease).arrivals events) ledger.queue.pending := by
  induction steps with
  | refl => exact ⟨List.Subset.refl _, .nil⟩
  | step steps unrepeated ih =>
    rw [steps.arrivals_step]
    exact ih.apply (steps.placed (placed_start lease)) unrepeated

end Steps

section Batches

variable {ledger : Ledger} {queue : Queue} {now : Instant} {limit : Nat}

/-- A job whose last delivery has ended is nowhere in a queue of other jobs and other deliveries. -/
theorem whereabouts_lapsed {after : Queue} (distinct : queue.Distinct) {claim : Claim}
    (listed : claim ∈ queue.inFlight) (expired : claim.expired queue.lease now = true)
    (usedUp : claim.job.maxAttempts <= claim.job.attempts)
    (pending : ∀ job ∈ after.pending,
      job ∈ queue.pending ++ (queue.returning now).map Claim.job)
    (underWay : ∀ other ∈ after.inFlight,
      other ∈ queue.inFlight.filter (fun claim => !claim.expired queue.lease now) ∨
        ∃ job ∈ queue.pending ++ (queue.returning now).map Claim.job, other.job.id = job.id) :
    after.whereabouts claim.job.id = [] := by
  have only : ∀ other ∈ queue.inFlight, other.job.id = claim.job.id -> other = claim :=
    fun other member same => List.inj_on_of_nodup_map distinct.inFlight member listed same
  have apart : ∀ job ∈ queue.pending ++ (queue.returning now).map Claim.job,
      job.id ≠ claim.job.id := by
    intro job member same
    rcases List.mem_append.mp member with waits | again
    · exact distinct.apart waits listed same.symm
    · obtain ⟨other, returns, rfl⟩ := List.mem_map.mp again
      obtain ⟨ended, more⟩ := List.mem_filter.mp returns
      rw [only other (List.mem_of_mem_filter ended) same] at more
      exact UInt32.not_lt.mpr usedUp (of_decide_eq_true more)
  refine List.filter_eq_nil_iff.mpr fun entry member same => ?_
  have same := of_decide_eq_true same
  rcases List.mem_append.mp member with first | last
  · obtain ⟨job, waits, rfl⟩ := List.mem_map.mp first
    exact apart job (pending job waits) same
  · obtain ⟨other, runs, rfl⟩ := List.mem_map.mp last
    rcases underWay other runs with kept | ⟨job, taken, id⟩
    · obtain ⟨before, running⟩ := List.mem_filter.mp kept
      rw [only other before same, expired] at running
      exact Bool.false_ne_true running
    · exact apart job taken (id.symm.trans same)

/-- The due jobs are those to be taken, if the jobs wait in order, those of ended deliveries among
them. -/
theorem Waiting.choice {arrivals : List Job} (distinct : queue.Distinct)
    (waiting : Waiting (arrivals ++ (queue.returning now).map Claim.job)
      (queue.expire now).pending) (limit : Nat) {left : List Job}
    (parts : (queue.expire now).due now limit ++ left = (queue.expire now).pending) :
    queue.Choice arrivals now limit ((queue.expire now).due now limit) left := by
  have timely := waiting.inOrder.imp (fun precedes => precedes.1)
  have order := waiting.inOrder
  rw [← parts, List.pairwise_append] at order
  obtain ⟨taken, -, between⟩ := order
  refine ⟨?_, Queue.length_due_le, fun job => Queue.runAt_le_of_mem_due, ?_, ?_, ?_, ?_⟩
  · rw [parts]
    exact queue.pending_expire_perm now
  · exact taken.imp (fun precedes => precedes.1)
  · exact fun job waits _ other member => (between other member job waits).1
  · have isLeft : (queue.expire now).pending.drop ((queue.expire now).due now limit).length = left :=
      by rw [← parts, List.drop_left]
    rw [← isLeft]
    exact Queue.not_due_of_room timely
  · refine taken.imp fun {first second} precedes known later same => ?_
    refine (precedes.2 (same ▸ Int.le_refl _)).of_append fun again => ?_
    obtain ⟨job, listed, id⟩ := List.mem_map.mp again
    obtain ⟨claim, returns, rfl⟩ := List.mem_map.mp listed
    exact distinct.apart later (List.mem_of_mem_filter (List.mem_of_mem_filter returns)) id

/-- With a fetch the deliveries begin of jobs that can be counted, and no others. -/
theorem begins_fetch (distinct : queue.Distinct) (now : Instant) (limit : Nat) :
    queue.Begins now ((queue.expire now).begun now limit) (queue.fetch now limit).queue := by
  have known (job : Job) (waits : job ∈ (queue.expire now).pending) :
      job ∈ queue.pending ++ (queue.returning now).map Claim.job :=
    (queue.pending_expire_perm now).subset waits
  rw [Queue.fetch_eq_of_distinct (distinct.expire now)]
  refine ⟨fun job begins => Job.attempted_toNat (Queue.of_mem_begun begins).2, fun _ _ => rfl, ?_,
    ?_⟩
  · rw [Queue.inFlight_expire]
    rfl
  · intro claim listed expired usedUp
    refine whereabouts_lapsed distinct listed expired usedUp (fun job waits => ?_)
      (fun other runs => ?_)
    · exact known job (List.mem_of_mem_drop waits)
    · rw [Queue.inFlight_expire] at runs
      refine (List.mem_append.mp runs).imp_right fun begun => ?_
      obtain ⟨job, begins, rfl⟩ := List.mem_map.mp begun
      exact ⟨job, known job (Queue.of_mem_begun begins).1, rfl⟩

/-- Whatever has happened to a queue into which no id was put twice: at every instant it ends the
deliveries whose lease has run out, and no others, and takes the pending jobs that are due, the
earliest first, at most as many as it is asked for and no fewer if it has them, and those of one
instant in the order in which they were put in. All of them, and nothing else, are under way from
then on, with one more delivery, and they are handed out, unless one of them has had the highest
number of deliveries. -/
theorem batched {lease : Nat} {events : List QueueEvent}
    (steps : Steps Unrepeated (start lease) events ledger) (now : Instant) (limit : Nat) :
    ledger.queue.Batch ((start lease).arrivals events) now limit
      (ledger.queue.fetchDue now limit) := by
  have placed := steps.placed (placed_start lease)
  have distinct := distinct_of_placed placed
  have fetch : ledger.Unrepeated (.fetch 0 now limit) := trivial
  have waiting := steps.waiting.placeAll (nodup_pushed placed fetch)
  rw [pushed, ← Queue.pending_expire_eq] at waiting
  have begins := begins_fetch distinct now limit
  obtain ⟨left, parts⟩ := (ledger.queue.expire now).isPrefix_due now limit
  have choice := waiting.choice distinct limit parts
  have fetched := Queue.fetch_eq_of_distinct (distinct.expire now) limit
  have pending : (ledger.queue.fetch now limit).queue.pending =
      (ledger.queue.expire now).pending.drop ((ledger.queue.expire now).taken now limit).length := by
    rw [fetched]
  have claimed : (ledger.queue.fetch now limit).claimed =
      ((ledger.queue.expire now).begun now limit).map Job.attempted := by rw [fetched]
  have broken : (ledger.queue.fetch now limit).lost = (ledger.queue.expire now).lost? now limit := by
    rw [fetched]
  rw [Queue.fetchDue, broken, claimed]
  rw [Queue.taken] at pending
  cases lost : (ledger.queue.expire now).lost? now limit with
  | none =>
    rw [lost, Option.toList_none, List.append_nil, ← parts] at pending
    rw [Queue.begun_of_lost?_none lost] at begins pending ⊢
    rw [List.drop_left] at pending
    exact .handed _ _ (pending ▸ choice) begins
  | some job =>
    obtain ⟨last, due⟩ := Queue.due_of_lost? lost
    rw [lost, Option.toList_some, ← parts, due] at pending
    rw [due] at choice
    refine .broken _ job last left _ choice ?_ begins ?_ ?_
    · exact of_decide_eq_true (Queue.of_lost? lost).2
    · rw [pending]
      simp
    · rw [Queue.fetch_eq]
      exact Queue.whereabouts_lost (distinct.expire now) lost

/-- A job whose worker is late waits again, behind two others that were put in since. -/
theorem batched_redelivery :
    let job (number : Nat) := Job.new (.ofNat number) "kind" .null .epoch 2
    let lapse : Instant := ⟨0, 300, 0, by decide, by decide, by decide⟩
    let events : List QueueEvent :=
      [.enqueue (job 1), .fetch 1 .epoch 1, .enqueue (job 3), .enqueue (job 2)]
    let ledger := events.foldl apply (start Queue.usualLease)
    let fetched := ledger.queue.fetchDue lapse 2
    Steps Unrepeated (start Queue.usualLease) events ledger ∧
      fetched.1.toOption.map (fun jobs => jobs.map Job.id) = some [.ofNat 3, .ofNat 2] ∧
      fetched.2.pending.map Job.id = [.ofNat 1] ∧
      ledger.queue.Batch ((start Queue.usualLease).arrivals events) lapse 2 fetched := by
  intro job lapse events ledger fetched
  have steps : Steps Unrepeated (start Queue.usualLease) events ledger :=
    .prepend List.not_mem_nil (.prepend trivial
      (.prepend (show Uuid.ofNat 3 ∉ [Uuid.ofNat 1] by decide)
        (.prepend (show Uuid.ofNat 2 ∉ [Uuid.ofNat 1, Uuid.ofNat 3] by decide) .refl)))
  exact ⟨steps, by decide +kernel, by decide +kernel, batched steps lapse 2⟩

/-- Not every queue hands its due jobs out: one that has had the highest number of deliveries breaks
the fetch off. -/
theorem not_batched :
    ¬ forall (lease : Nat) (events : List QueueEvent) (ledger : Ledger) (now : Instant) (limit : Nat),
      Steps Unrepeated (start lease) events ledger ->
      ∃ taken after,
        ledger.queue.fetchDue now limit = (.ok (taken.map Job.attempted), after) ∧
          ledger.queue.Choice ((start lease).arrivals events) now limit taken after.pending ∧
          ledger.queue.Begins now taken after := by
  intro law
  let job : Job := { Job.new (.ofNat 1) "kind" .null .epoch 2 with attempts := 4294967295 }
  have steps : Steps Unrepeated (start Queue.usualLease) [.enqueue job]
      ((start Queue.usualLease).apply (.enqueue job)) := .prepend List.not_mem_nil .refl
  have broken : (((start Queue.usualLease).apply (.enqueue job)).queue.fetchDue .epoch 1).1.isOk =
      false := by decide +kernel
  obtain ⟨taken, after, fetched, -⟩ := law _ _ _ .epoch 1 steps
  rw [fetched] at broken
  cases broken

end Batches

end Ledger

end Outreach
