import Mathlib.Data.List.Nodup
import Mathlib.Data.List.TakeWhile
import Outreach.Proofs.Queue.Account
import Outreach.Queue.Memory

/-!
# What a queue does with its jobs

One statement for every operation of a queue: which jobs are pending and which deliveries are under
way after it, as long as no id occurs twice among them.
-/

namespace Outreach

/-- The job as one that is pending. -/
def Job.entry (job : Job) : Place × Job := (.pending, job)

/-- The job of a delivery that is under way. -/
def Claim.entry (claim : Claim) : Place × Job := (.inFlight, claim.job)

/-- Whether the lease of a delivery has run out by an instant. -/
def Claim.expired (lease : Nat) (now : Instant) (claim : Claim) : Bool :=
  (Delay.leaseCutoff? now lease).any (fun cutoff => claim.claimedAt <= cutoff)

namespace Queue

/-- The jobs of a queue, where each of them is. -/
def entries (queue : Queue) : List (Place × Job) :=
  queue.pending.map Job.entry ++ queue.inFlight.map Claim.entry

/-- No id occurs twice in a queue. -/
def Distinct (queue : Queue) : Prop := (queue.entries.map (fun entry => entry.2.id)).Nodup

/-- The ids of a queue are those of its pending jobs and of its deliveries. -/
theorem entries_ids (queue : Queue) :
    queue.entries.map (fun entry => entry.2.id) =
      queue.pending.map Job.id ++ queue.inFlight.map (fun claim => claim.job.id) := by
  rw [entries, List.map_append, List.map_map, List.map_map]
  rfl

theorem Distinct.inFlight {queue : Queue} (distinct : queue.Distinct) :
    (queue.inFlight.map (fun claim => claim.job.id)).Nodup := by
  rw [Distinct, entries_ids] at distinct
  exact distinct.of_append_right

/-- A pending job is not under way. -/
theorem Distinct.apart {queue : Queue} (distinct : queue.Distinct) {job : Job} {claim : Claim}
    (waits : job ∈ queue.pending) (underWay : claim ∈ queue.inFlight) : claim.job.id ≠ job.id := by
  rw [Distinct, entries_ids, List.nodup_append] at distinct
  exact (distinct.2.2 _ (List.mem_map_of_mem waits) _
    (List.mem_map_of_mem (f := fun claim : Claim => claim.job.id) underWay)).symm

section Pending

/-- A job is put among pending ones. -/
theorem place_perm (job : Job) (pending : List Job) : (place job pending).Perm (job :: pending) := by
  induction pending with
  | nil => exact .refl _
  | cons other rest ih =>
    rw [place]
    split
    · exact .refl _
    · exact (ih.cons other).trans (.swap job other rest)

theorem entries_push (queue : Queue) (job : Job) :
    (queue.push job).entries.Perm ((.pending, job) :: queue.entries) :=
  ((place_perm job queue.pending).map _).append_right _

/-- Jobs that are put in one after the other are pending. -/
theorem pending_foldl_push (claims : List Claim) (queue : Queue) :
    (claims.foldl (fun queue claim => queue.push claim.job) queue).pending.Perm
      (claims.map Claim.job ++ queue.pending) := by
  induction claims generalizing queue with
  | nil => exact .refl _
  | cons claim rest ih =>
    rw [List.foldl_cons]
    refine (ih (queue.push claim.job)).trans ?_
    exact ((place_perm claim.job queue.pending).append_left _).trans List.perm_middle

@[simp]
theorem inFlight_foldl_push (claims : List Claim) (queue : Queue) :
    (claims.foldl (fun queue claim => queue.push claim.job) queue).inFlight = queue.inFlight := by
  induction claims generalizing queue with
  | nil => rfl
  | cons claim rest ih => exact ih (queue.push claim.job)

@[simp]
theorem lease_foldl_push (claims : List Claim) (queue : Queue) :
    (claims.foldl (fun queue claim => queue.push claim.job) queue).lease = queue.lease := by
  induction claims generalizing queue with
  | nil => rfl
  | cons claim rest ih => exact ih (queue.push claim.job)

end Pending

section Release

/-- The delivery that is found is under way and is one of the job. -/
theorem mem_of_claim? {queue : Queue} {id : Uuid} {claim : Claim}
    (found : queue.claim? id = some claim) : claim ∈ queue.inFlight ∧ claim.job.id = id :=
  ⟨List.mem_of_find?_eq_some found, by simpa using List.find?_some found⟩

/-- A delivery that is under way is found. -/
theorem claim?_of_mem {queue : Queue} (distinct : queue.Distinct) {claim : Claim}
    (underWay : claim ∈ queue.inFlight) : queue.claim? claim.job.id = some claim := by
  have only := filter_key_eq distinct.inFlight underWay
  rw [claim?, ← List.head?_filter, only, List.head?_cons]

/-- A delivery that ends is taken out, and no other. -/
theorem entries_release {queue : Queue} (distinct : queue.Distinct) {claim : Claim}
    (underWay : claim ∈ queue.inFlight) :
    queue.entries.Perm ((.inFlight, claim.job) :: (queue.release claim.job.id).entries) := by
  have only := filter_key_eq distinct.inFlight underWay
  have parts := List.filter_append_perm (fun other => decide (other.job.id = claim.job.id))
    queue.inFlight
  rw [only] at parts
  have kept : queue.inFlight.Perm (claim :: (queue.release claim.job.id).inFlight) := by
    simpa [release] using parts.symm
  exact ((kept.map _).append_left _).trans List.perm_middle

/-- A completion that is refused changes nothing. -/
theorem complete_of_error {queue : Queue} {id : Uuid} {cause : QueueError}
    (refused : (queue.complete id).1 = .error cause) : (queue.complete id).2 = queue := by
  unfold complete at refused ⊢
  cases found : queue.claim? id with
  | none => rfl
  | some claim =>
    rw [found] at refused
    cases refused

/-- A failure that is refused changes nothing. -/
theorem fail_of_error {queue : Queue} {id : Uuid} {retryAt : Instant} {cause : QueueError}
    (refused : (queue.fail id retryAt).1 = .error cause) : (queue.fail id retryAt).2 = queue := by
  unfold fail at refused ⊢
  cases found : queue.claim? id with
  | none => rfl
  | some claim =>
    simp only [found] at refused
    split at refused <;> cases refused

@[simp]
theorem lease_complete (queue : Queue) (id : Uuid) : (queue.complete id).2.lease = queue.lease := by
  unfold complete
  cases queue.claim? id <;> rfl

@[simp]
theorem lease_fail (queue : Queue) (id : Uuid) (retryAt : Instant) :
    (queue.fail id retryAt).2.lease = queue.lease := by
  unfold fail
  cases queue.claim? id with
  | none => rfl
  | some claim =>
    by_cases usedUp : claim.job.exhausted
    · simp only [usedUp, if_true]
      rfl
    · simp only [usedUp, if_false, Bool.false_eq_true]
      rfl

end Release

section Expiry

/-- Where the job of a delivery is after the deliveries have ended whose lease has run out. -/
def expiry (lease : Nat) (now : Instant) (claim : Claim) : Place × Job :=
  if claim.expired lease now then (if claim.job.exhausted then .dropped else .pending, claim.job)
  else claim.entry

/-- The queue after the deliveries have ended whose lease has run out by an instant. -/
def expire (queue : Queue) (now : Instant) : Queue :=
  match Delay.leaseCutoff? now queue.lease with
  | some cutoff => queue.reclaim cutoff
  | none => queue

/-- The deliveries whose lease has run out by an instant and that were the last of their jobs. -/
def lapsed (queue : Queue) (now : Instant) : List Claim :=
  (queue.inFlight.filter (Claim.expired queue.lease now)).filter (fun claim => claim.job.exhausted)

/-- A fetch looks at the leases first. -/
theorem fetch_eq (queue : Queue) (now : Instant) (limit : Nat) :
    queue.fetch now limit = (queue.expire now).deliverDue now limit := rfl

/-- A fetch that is not broken off hands out the jobs whose deliveries have begun. -/
theorem of_fetchDue_ok {queue after : Queue} {now : Instant} {limit : Nat} {jobs : List Job}
    (fetched : queue.fetchDue now limit = (.ok jobs, after)) :
    (queue.fetch now limit).claimed = jobs ∧ (queue.fetch now limit).queue = after := by
  obtain ⟨answer, left⟩ := Prod.mk.inj fetched
  refine ⟨?_, left⟩
  split at answer
  · cases answer
  · exact Except.ok.inj answer

@[simp]
theorem lease_expire (queue : Queue) (now : Instant) : (queue.expire now).lease = queue.lease := by
  unfold expire
  cases Delay.leaseCutoff? now queue.lease with
  | none => rfl
  | some cutoff => exact lease_foldl_push _ _

/-- The deliveries go on whose lease has not run out. -/
theorem inFlight_expire (queue : Queue) (now : Instant) :
    (queue.expire now).inFlight =
      queue.inFlight.filter (fun claim => !claim.expired queue.lease now) := by
  unfold expire Claim.expired
  cases Delay.leaseCutoff? now queue.lease with
  | none => simp
  | some cutoff => simp [reclaim]

/-- The jobs of the others are pending again, unless their deliveries are used up. -/
theorem pending_expire (queue : Queue) (now : Instant) :
    (queue.expire now).pending.Perm
      (((queue.inFlight.filter (Claim.expired queue.lease now)).filter
        (fun claim => !claim.job.exhausted)).map Claim.job ++ queue.pending) := by
  unfold expire Claim.expired
  cases Delay.leaseCutoff? now queue.lease with
  | none => simp
  | some cutoff => exact pending_foldl_push _ _

/-- Deliveries end with their jobs pending or gone, or they go on. -/
theorem expiry_perm (lease : Nat) (now : Instant) (claims : List Claim) :
    (claims.map (expiry lease now)).Perm
      (((claims.filter (Claim.expired lease now)).filter (fun claim => !claim.job.exhausted)).map
          (fun claim => claim.job.entry) ++
        (claims.filter (fun claim => !claim.expired lease now)).map Claim.entry ++
        ((claims.filter (Claim.expired lease now)).filter (fun claim => claim.job.exhausted)).map
          (fun claim => (.dropped, claim.job))) := by
  induction claims with
  | nil => exact .refl _
  | cons claim rest ih =>
    rw [List.map_cons]
    by_cases expired : claim.expired lease now
    · by_cases usedUp : claim.job.exhausted
      · simp only [expiry, expired, usedUp, List.filter_cons, if_true, Bool.not_true, if_false,
          Bool.false_eq_true, List.map_cons]
        exact (ih.cons _).trans List.perm_middle.symm
      · simp only [expiry, expired, usedUp, List.filter_cons, if_true, Bool.not_true, if_false,
          Bool.false_eq_true, Bool.not_false, List.map_cons]
        exact ih.cons _
    · simp only [expiry, expired, List.filter_cons, if_true, if_false, Bool.false_eq_true,
        Bool.not_false, List.map_cons]
      refine (ih.cons _).trans ?_
      rw [List.append_assoc, List.append_assoc]
      exact List.perm_middle.symm

/-- Every job of a delivery that is over is pending or gone. -/
theorem entries_expire (queue : Queue) (now : Instant) :
    ((queue.expire now).entries ++
        (queue.lapsed now).map (fun claim => (Place.dropped, claim.job))).Perm
      (queue.pending.map Job.entry ++ queue.inFlight.map (expiry queue.lease now)) := by
  have parts := expiry_perm queue.lease now queue.inFlight
  have waiting := (pending_expire queue now).map Job.entry
  rw [List.map_append, List.map_map] at waiting
  rw [entries, inFlight_expire, lapsed]
  refine (((waiting.append_right _).append_right _).trans ?_).trans (parts.symm.append_left _)
  simp only [List.append_assoc]
  exact List.perm_append_comm_assoc _ _ _

end Expiry

section Due

/-- The first pending jobs that are due, at most `limit` of them. -/
def due (queue : Queue) (now : Instant) (limit : Nat) : List Job :=
  (queue.pending.take limit).takeWhile (fun job => job.runAt <= now)

/-- The due jobs whose deliveries begin: those before one that has had the highest number. -/
def begun (queue : Queue) (now : Instant) (limit : Nat) : List Job :=
  (queue.due now limit).takeWhile (fun job => !job.full)

/-- The due job that has had the highest number of deliveries, if there is one. -/
def lost? (queue : Queue) (now : Instant) (limit : Nat) : Option Job :=
  ((queue.due now limit).dropWhile (fun job => !job.full)).head?

/-- The jobs that are pending no more when deliveries have begun. -/
def taken (queue : Queue) (now : Instant) (limit : Nat) : List Job :=
  queue.begun now limit ++ (queue.lost? now limit).toList

/-- The due jobs come first among the pending ones. -/
theorem isPrefix_due (queue : Queue) (now : Instant) (limit : Nat) :
    queue.due now limit <+: queue.pending :=
  (List.takeWhile_prefix _).trans (List.take_prefix limit queue.pending)

/-- The jobs that are taken are the first of those that are due. -/
theorem isPrefix_taken (queue : Queue) (now : Instant) (limit : Nat) :
    queue.taken now limit <+: queue.due now limit := by
  unfold taken begun lost?
  have parts : (queue.due now limit).takeWhile (fun job => !job.full) ++
      (queue.due now limit).dropWhile (fun job => !job.full) = queue.due now limit :=
    List.takeWhile_append_dropWhile
  cases rest : (queue.due now limit).dropWhile (fun job => !job.full) with
  | nil =>
    rw [List.head?_nil, Option.toList_none, List.append_nil]
    exact List.takeWhile_prefix _
  | cons job others =>
    rw [rest] at parts
    exact ⟨others, by rw [List.head?_cons, Option.toList_some, List.append_assoc]; exact parts⟩

/-- A batch that is not made up of all due jobs breaks off with the next. -/
theorem due_of_lost? {queue : Queue} {now : Instant} {limit : Nat} {job : Job}
    (lost : queue.lost? now limit = some job) :
    ∃ last, queue.due now limit = queue.begun now limit ++ job :: last := by
  obtain ⟨last, parts⟩ := queue.isPrefix_taken now limit
  rw [taken, lost, Option.toList_some, List.append_assoc] at parts
  exact ⟨last, parts.symm⟩

/-- The jobs that are taken and the others are the pending ones. -/
theorem taken_append (queue : Queue) (now : Instant) (limit : Nat) :
    queue.taken now limit ++ queue.pending.drop (queue.taken now limit).length = queue.pending := by
  obtain ⟨rest, parts⟩ := (queue.isPrefix_taken now limit).trans (queue.isPrefix_due now limit)
  rw [← parts, List.drop_left]

/-- A job of which a delivery begins is due, and it can be counted. -/
theorem of_mem_begun {queue : Queue} {now : Instant} {limit : Nat} {job : Job}
    (begins : job ∈ queue.begun now limit) :
    job ∈ queue.pending ∧ job.full = false := by
  refine ⟨?_, ?_⟩
  · exact (queue.isPrefix_due now limit).subset ((List.takeWhile_prefix _).subset begins)
  · simpa using List.all_eq_true.mp List.all_takeWhile job begins

/-- The job at which deliveries break off is a due one whose deliveries cannot be counted. -/
theorem of_lost? {queue : Queue} {now : Instant} {limit : Nat} {job : Job}
    (lost : queue.lost? now limit = some job) : job ∈ queue.due now limit ∧ job.full = true := by
  refine ⟨(List.dropWhile_suffix _).subset (List.mem_of_mem_head? lost), ?_⟩
  have found := List.head?_dropWhile_not (fun job : Job => !job.full) (queue.due now limit)
  unfold lost? at lost
  simpa [lost] using found

/-- If deliveries do not break off, those of all due jobs begin. -/
theorem begun_of_lost?_none {queue : Queue} {now : Instant} {limit : Nat}
    (whole : queue.lost? now limit = none) : queue.begun now limit = queue.due now limit :=
  List.takeWhile_eq_self_iff.mpr
    (List.dropWhile_eq_nil_iff.mp (List.head?_eq_none_iff.mp whole))

/-- The delivery of a job from an instant on. -/
def claimAt (now : Instant) (job : Job) : Claim := ⟨job.attempted, now⟩

/-- A delivery begins without ending another. -/
theorem deliver_eq {job : Job} {rest : List Job} {inFlight : List Claim} {lease : Nat}
    (distinct : (Queue.mk (job :: rest) inFlight lease).Distinct) (now : Instant) :
    (Queue.mk rest inFlight lease).deliver job now =
      ⟨rest, inFlight ++ [claimAt now job], lease⟩ := by
  have others : inFlight.filter (fun claim => claim.job.id ≠ job.id) = inFlight := by
    apply List.filter_eq_self.mpr
    intro claim underWay
    exact decide_eq_true (distinct.apart List.mem_cons_self underWay)
  rw [deliver, others]
  rfl

/-- No id occurs twice after a delivery has begun. -/
theorem Distinct.deliver {job : Job} {rest : List Job} {inFlight : List Claim} {lease : Nat}
    (distinct : (Queue.mk (job :: rest) inFlight lease).Distinct) (now : Instant) :
    (Queue.mk rest (inFlight ++ [claimAt now job]) lease).Distinct := by
  rw [Distinct, entries_ids] at distinct ⊢
  refine List.Perm.nodup ?_ distinct
  rw [List.map_append, ← List.append_assoc]
  exact (List.perm_append_singleton _ _).symm

/-- The due jobs are delivered, each once more than before, and are under way from now on, up to one
that has had the highest number of deliveries. -/
theorem deliverDue_eq {queue : Queue} (distinct : queue.Distinct) (now : Instant) (limit : Nat) :
    queue.deliverDue now limit =
      { claimed := (queue.begun now limit).map Job.attempted
        lost := queue.lost? now limit
        queue :=
          { queue with
            pending := queue.pending.drop (queue.taken now limit).length
            inFlight := queue.inFlight ++ (queue.begun now limit).map (claimAt now) } } := by
  induction limit generalizing queue with
  | zero => simp [deliverDue, taken, begun, lost?, due]
  | succ limit ih =>
    obtain ⟨pending, inFlight, lease⟩ := queue
    cases pending with
    | nil => simp [deliverDue, taken, begun, lost?, due]
    | cons job rest =>
      by_cases ready : job.runAt <= now
      · have first : (Queue.mk (job :: rest) inFlight lease).due now (limit + 1) =
            job :: (Queue.mk rest (inFlight ++ [claimAt now job]) lease).due now limit := by
          simp [due, ready]
        cases room : job.full with
        | true => simp [deliverDue, ready, room, taken, begun, lost?, first]
        | false =>
          simp only [deliverDue, ready, if_true, room, if_false, Bool.false_eq_true,
            deliver_eq distinct now]
          rw [ih (distinct.deliver now)]
          simp [taken, begun, lost?, first, room]
      · simp [deliverDue, taken, begun, lost?, due, ready]

/-- A fetch takes the due jobs once the leases have been looked at. -/
theorem fetch_eq_of_distinct {queue : Queue} {now : Instant}
    (distinct : (queue.expire now).Distinct) (limit : Nat) :
    queue.fetch now limit =
      { claimed := ((queue.expire now).begun now limit).map Job.attempted
        lost := (queue.expire now).lost? now limit
        queue :=
          { queue.expire now with
            pending :=
              (queue.expire now).pending.drop ((queue.expire now).taken now limit).length
            inFlight := (queue.expire now).inFlight ++
              ((queue.expire now).begun now limit).map (claimAt now) } } :=
  deliverDue_eq distinct now limit

/-- The lease stays as it is. -/
@[simp]
theorem lease_fetch {queue : Queue} {now : Instant} (distinct : (queue.expire now).Distinct)
    (limit : Nat) : (queue.fetch now limit).queue.lease = queue.lease := by
  rw [fetch_eq_of_distinct distinct, lease_expire]

end Due

end Queue

end Outreach
