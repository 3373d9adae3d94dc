import Mathlib.Data.List.Nodup
import Mathlib.Logic.Relation
import Outreach.Queue.Job

/-!
# Accounts of jobs

An account says where every job is that has been put into a queue and how often each has been
delivered. Its moves are all that may become of jobs: one is put in, delivered, done, pending
again, or gone. What a queue does is a sequence of moves, and what moves keep holds of every queue.
-/

namespace Outreach

/-- Among members with different keys there is only one with the key of a member. -/
theorem filter_key_eq {α : Type} {key : α -> Uuid} {members : List α} {member : α}
    (distinct : (members.map key).Nodup) (known : member ∈ members) :
    members.filter (fun other => key other = key member) = [member] := by
  induction members with
  | nil => cases known
  | cons first rest ih =>
    obtain ⟨apart, distinct⟩ := List.nodup_cons.mp distinct
    rcases List.mem_cons.mp known with rfl | later
    · have none : rest.filter (fun other => key other = key member) = [] := by
        apply List.filter_eq_nil_iff.mpr
        intro other others same
        exact apart (List.mem_map.mpr ⟨other, others, of_decide_eq_true same⟩)
      rw [List.filter_cons_of_pos (by simp), none]
    · have other : key first ≠ key member := fun same =>
        apart (List.mem_map.mpr ⟨member, later, same.symm⟩)
      rw [List.filter_cons_of_neg (by simpa using other)]
      exact ih distinct later

/-- Where a job is that has been put into a queue. -/
inductive Place where
  | pending
  | inFlight
  | completed
  | dropped
deriving DecidableEq

namespace Job

/-- What of a job stays while it is delivered, and delivered again. -/
def work (job : Job) : Uuid × String × Json × UInt32 :=
  (job.id, job.kind, job.payload, job.maxAttempts)

/-- Whether a job may be delivered: it has never been, or its deliveries are not used up. -/
def Deliverable (job : Job) : Prop := job.attempts = 0 ∨ job.exhausted = false

theorem attempts_lt_of_not_exhausted {job : Job} (more : job.exhausted = false) :
    job.attempts.toNat < job.maxAttempts.toNat := by
  have notLe : ¬ job.maxAttempts <= job.attempts := of_decide_eq_false more
  rw [UInt32.le_iff_toNat_le] at notLe
  omega

/-- A job that is delivered once more stays within its deliveries; a job with none gets one. -/
theorem Deliverable.attempts_lt {job : Job} (deliverable : job.Deliverable) :
    job.attempts.toNat < max 1 job.maxAttempts.toNat := by
  rcases deliverable with fresh | more
  · rw [fresh]
    exact Nat.lt_of_lt_of_le Nat.one_pos (Nat.le_max_left _ _)
  · exact Nat.lt_of_lt_of_le (attempts_lt_of_not_exhausted more) (Nat.le_max_right _ _)

/-- The deliveries of a new job can be counted. -/
theorem full_new (id : Uuid) (kind : String) (payload : Json) (runAt : Instant)
    (maxAttempts : UInt32) : (Job.new id kind payload runAt maxAttempts).full = false := rfl

@[simp]
theorem attempted_id (job : Job) : job.attempted.id = job.id := rfl

/-- A count of deliveries that is not the highest there is goes up by one. -/
theorem attempted_toNat {job : Job} (room : job.full = false) :
    job.attempted.attempts.toNat = job.attempts.toNat + 1 := by
  have notLast : job.attempts.toNat + 1 ≠ UInt32.size := of_decide_eq_false room
  have within : job.attempts.toNat + 1 < UInt32.size :=
    Nat.lt_of_le_of_ne job.attempts.toNat_lt notLast
  have added := UInt32.toNat_add job.attempts 1
  rw [show (1 : UInt32).toNat = 1 from rfl, Nat.mod_eq_of_lt within] at added
  exact added

/-- The count of a job that may be delivered is not the highest there is. -/
theorem Deliverable.room {job : Job} (deliverable : job.Deliverable) : job.full = false := by
  refine decide_eq_false (Nat.ne_of_lt ?_)
  rcases deliverable with fresh | more
  · rw [fresh]
    decide
  · exact Nat.lt_of_le_of_lt (attempts_lt_of_not_exhausted more) job.maxAttempts.toNat_lt

end Job

/-- The jobs that have been put into a queue, where each of them is, and their deliveries. -/
structure Account where
  /-- The jobs as they were put in. -/
  enqueued : List Job
  /-- The jobs as they are now, in no particular order. -/
  entries : List (Place × Job)
  /-- The jobs as they were delivered. -/
  delivered : List Job

namespace Account

/-- The deliveries of a job. -/
def deliveriesOf (delivered : List Job) (id : Uuid) : List Job :=
  delivered.filter (fun job => job.id = id)

/-- What may become of one job, the others being left alone. -/
inductive Move : Account -> Account -> Prop where
  | reordered {enqueued entries others delivered} (order : entries.Perm others) :
      Move ⟨enqueued, entries, delivered⟩ ⟨enqueued, others, delivered⟩
  | enqueued {enqueued entries delivered} (job : Job) (unknown : job.id ∉ enqueued.map Job.id) :
      Move ⟨enqueued, entries, delivered⟩
        ⟨enqueued ++ [job], (.pending, job) :: entries, delivered⟩
  | delivered {enqueued rest delivered} (job : Job) :
      Move ⟨enqueued, (.pending, job) :: rest, delivered⟩
        ⟨enqueued, (.inFlight, job.attempted) :: rest, delivered ++ [job.attempted]⟩
  | completed {enqueued rest delivered} (job : Job) :
      Move ⟨enqueued, (.inFlight, job) :: rest, delivered⟩
        ⟨enqueued, (.completed, job) :: rest, delivered⟩
  | retried {enqueued rest delivered} (job : Job) (runAt : Instant)
      (more : job.exhausted = false) :
      Move ⟨enqueued, (.inFlight, job) :: rest, delivered⟩
        ⟨enqueued, (.pending, { job with runAt }) :: rest, delivered⟩
  | dropped {enqueued rest delivered} (job : Job) (usedUp : job.exhausted = true) :
      Move ⟨enqueued, (.inFlight, job) :: rest, delivered⟩
        ⟨enqueued, (.dropped, job) :: rest, delivered⟩
  | lost {enqueued rest delivered} (job : Job) (full : job.full = true) :
      Move ⟨enqueued, (.pending, job) :: rest, delivered⟩
        ⟨enqueued, (.dropped, job) :: rest, delivered⟩

/-- Any number of moves. -/
abbrev Moves : Account -> Account -> Prop := Relation.ReflTransGen Move

/-- Every job that has been put in is at one place, with its work, and nothing else is anywhere. -/
structure Placed (account : Account) : Prop where
  distinct : (account.enqueued.map Job.id).Nodup
  works : (account.entries.map (fun entry => entry.2.work)).Perm (account.enqueued.map Job.work)
  handed : ∀ job ∈ account.delivered, job.work ∈ account.enqueued.map Job.work

/-- The count of an entry is that of its deliveries, and it is where its count lets it be. -/
structure Tallied (delivered : List Job) (entry : Place × Job) : Prop where
  numbered : (deliveriesOf delivered entry.2.id).map (fun job => job.attempts.toNat) =
    List.range' 1 entry.2.attempts.toNat
  bounded : entry.2.attempts.toNat <= max 1 entry.2.maxAttempts.toNat
  ready : entry.1 = .pending -> entry.2.Deliverable
  spent : entry.1 = .dropped -> entry.2.exhausted = true

/-- The counts of all entries are right. -/
def Counted (account : Account) : Prop := ∀ entry ∈ account.entries, Tallied account.delivered entry

/-- A move that leaves the works alone keeps the jobs placed. -/
theorem Placed.of_works {account next : Account} (placed : account.Placed)
    (enqueued : next.enqueued = account.enqueued)
    (works : (next.entries.map (fun entry => entry.2.work)).Perm
      (account.entries.map (fun entry => entry.2.work)))
    (delivered : next.delivered = account.delivered) : next.Placed where
  distinct := enqueued ▸ placed.distinct
  works := enqueued ▸ works.trans placed.works
  handed := by
    rw [enqueued, delivered]
    exact placed.handed

/-- The ids of placed jobs are those that have been put in. -/
theorem Placed.ids {account : Account} (placed : account.Placed) :
    (account.entries.map (fun entry => entry.2.id)).Perm (account.enqueued.map Job.id) := by
  have ids := placed.works.map Prod.fst
  rw [List.map_map, List.map_map] at ids
  exact ids

theorem Placed.ids_nodup {account : Account} (placed : account.Placed) :
    (account.entries.map (fun entry => entry.2.id)).Nodup :=
  placed.ids.nodup_iff.mpr placed.distinct

/-- Moves keep the jobs placed. -/
theorem Placed.move {account next : Account} (placed : account.Placed)
    (move : Move account next) : next.Placed := by
  cases move with
  | reordered order => exact placed.of_works rfl (order.symm.map _) rfl
  | completed job => exact placed.of_works rfl (.refl _) rfl
  | retried job runAt more => exact placed.of_works rfl (.refl _) rfl
  | dropped job usedUp => exact placed.of_works rfl (.refl _) rfl
  | lost job full => exact placed.of_works rfl (.refl _) rfl
  | enqueued job unknown =>
    refine ⟨?_, ?_, ?_⟩
    · rw [List.map_append, List.nodup_append]
      refine ⟨placed.distinct, List.nodup_singleton _, ?_⟩
      rintro id known other last rfl
      exact unknown (List.mem_singleton.mp last ▸ known)
    · rw [List.map_append]
      exact (placed.works.cons _).trans (List.perm_append_singleton _ _).symm
    · intro handed member
      rw [List.map_append]
      exact List.mem_append_left _ (placed.handed handed member)
  | delivered job =>
    refine ⟨placed.distinct, placed.works, ?_⟩
    intro handed member
    rcases List.mem_append.mp member with earlier | last
    · exact placed.handed handed earlier
    · rw [List.mem_singleton.mp last]
      exact placed.works.mem_iff.mp List.mem_cons_self

/-- A job that has not been put in has not been delivered. -/
theorem Placed.deliveriesOf_eq_nil {account : Account} (placed : account.Placed) {id : Uuid}
    (unknown : id ∉ account.enqueued.map Job.id) : deliveriesOf account.delivered id = [] := by
  apply List.filter_eq_nil_iff.mpr
  intro handed member same
  obtain ⟨original, known, work⟩ := List.mem_map.mp (placed.handed handed member)
  have sameId : original.id = handed.id := congrArg Prod.fst work
  rw [of_decide_eq_true same] at sameId
  exact unknown (sameId ▸ List.mem_map_of_mem known)

/-- What counts for an entry is what is said of its job. -/
theorem Tallied.congr {delivered : List Job} {place other : Place} {job next : Job}
    (tallied : Tallied delivered (place, job)) (work : next.work = job.work)
    (attempts : next.attempts = job.attempts) (ready : other = .pending -> next.Deliverable)
    (spent : other = .dropped -> next.exhausted = true) : Tallied delivered (other, next) := by
  have id : next.id = job.id := congrArg Prod.fst work
  have maxAttempts : next.maxAttempts = job.maxAttempts := congrArg (fun work => work.2.2.2) work
  refine ⟨?_, ?_, ready, spent⟩
  · rw [id, attempts]
    exact tallied.numbered
  · rw [maxAttempts, attempts]
    exact tallied.bounded

/-- The delivery of another job does not count for an entry. -/
theorem Tallied.other {delivered : List Job} {entry : Place × Job}
    (tallied : Tallied delivered entry) {job : Job} (other : entry.2.id ≠ job.id) :
    Tallied (delivered ++ [job]) entry := by
  refine ⟨?_, tallied.bounded, tallied.ready, tallied.spent⟩
  have same : deliveriesOf (delivered ++ [job]) entry.2.id = deliveriesOf delivered entry.2.id := by
    unfold deliveriesOf
    rw [List.filter_append, List.filter_singleton, decide_eq_false other.symm]
    exact List.append_nil _
  rw [same]
  exact tallied.numbered

/-- The delivery of a job counts for it. -/
theorem Tallied.deliver {delivered : List Job} {job : Job}
    (tallied : Tallied delivered (.pending, job)) :
    Tallied (delivered ++ [job.attempted]) (.inFlight, job.attempted) := by
  have deliverable : job.Deliverable := tallied.ready rfl
  have counted := Job.attempted_toNat deliverable.room
  refine ⟨?_, ?_, nofun, nofun⟩
  · have grown : deliveriesOf (delivered ++ [job.attempted]) job.id =
        deliveriesOf delivered job.id ++ [job.attempted] := by
      unfold deliveriesOf
      have same : job.attempted.id = job.id := rfl
      rw [List.filter_append, List.filter_singleton, decide_eq_true same]
      rfl
    show (deliveriesOf (delivered ++ [job.attempted]) job.id).map _ = _
    rw [grown, List.map_append, tallied.numbered, counted, List.range'_1_concat, List.map_singleton,
      counted, Nat.add_comm 1]
  · show job.attempted.attempts.toNat <= max 1 job.maxAttempts.toNat
    rw [counted]
    exact deliverable.attempts_lt

/-- Moves keep the counts right, as long as jobs are put in without deliveries. -/
theorem Counted.move {account next : Account} (counted : account.Counted)
    (placed : account.Placed) (fresh : ∀ job ∈ next.enqueued, job.attempts = 0)
    (move : Move account next) : next.Counted := by
  cases move with
  | reordered order =>
    intro entry member
    exact counted entry (order.mem_iff.mpr member)
  | enqueued job unknown =>
    intro entry member
    rcases List.mem_cons.mp member with rfl | others
    · have none : job.attempts = 0 := fresh job (List.mem_append_right _ List.mem_cons_self)
      refine ⟨?_, ?_, fun _ => .inl none, nofun⟩
      · rw [placed.deliveriesOf_eq_nil unknown, none]
        rfl
      · rw [none]
        exact Nat.zero_le _
    · exact counted entry others
  | delivered job =>
    intro entry member
    rcases List.mem_cons.mp member with rfl | others
    · exact (counted _ List.mem_cons_self).deliver
    · have apart := (List.nodup_cons.mp placed.ids_nodup).1
      refine (counted entry (List.mem_cons_of_mem _ others)).other ?_
      intro same
      exact apart (List.mem_map.mpr ⟨entry, others, same⟩)
  | completed job =>
    intro entry member
    rcases List.mem_cons.mp member with rfl | others
    · exact (counted _ List.mem_cons_self).congr rfl rfl nofun nofun
    · exact counted entry (List.mem_cons_of_mem _ others)
  | retried job runAt more =>
    intro entry member
    rcases List.mem_cons.mp member with rfl | others
    · exact (counted _ List.mem_cons_self).congr rfl rfl (fun _ => .inr more) nofun
    · exact counted entry (List.mem_cons_of_mem _ others)
  | dropped job usedUp =>
    intro entry member
    rcases List.mem_cons.mp member with rfl | others
    · exact (counted _ List.mem_cons_self).congr rfl rfl nofun (fun _ => usedUp)
    · exact counted entry (List.mem_cons_of_mem _ others)
  | lost job full =>
    -- No job that waits has had the highest number of deliveries.
    have room := ((counted _ List.mem_cons_self).ready rfl).room
    exact nomatch full.symm.trans room

/-- What has been put in stays put in. -/
theorem Move.enqueued_subset {account next : Account} (move : Move account next) :
    account.enqueued ⊆ next.enqueued := by
  cases move with
  | enqueued job unknown => exact List.subset_append_left _ _
  | reordered order => exact List.Subset.refl _
  | delivered job => exact List.Subset.refl _
  | completed job => exact List.Subset.refl _
  | retried job runAt more => exact List.Subset.refl _
  | dropped job usedUp => exact List.Subset.refl _
  | lost job full => exact List.Subset.refl _

theorem Placed.moves {account next : Account} (placed : account.Placed)
    (moves : Moves account next) : next.Placed := by
  induction moves with
  | refl => exact placed
  | tail _ move ih => exact ih.move move

theorem Counted.moves {account next : Account} (counted : account.Counted)
    (placed : account.Placed) (fresh : ∀ job ∈ next.enqueued, job.attempts = 0)
    (moves : Moves account next) : next.Counted := by
  induction moves with
  | refl => exact counted
  | tail earlier move ih =>
    have before := ih (fun job member => fresh job (move.enqueued_subset member))
    exact before.move (placed.moves earlier) fresh move

/-- A job that has been put in is at exactly one place, once, with its work. -/
theorem Placed.entry {account : Account} (placed : account.Placed) {job : Job}
    (known : job ∈ account.enqueued) :
    ∃ place held, account.entries.filter (fun entry => entry.2.id = job.id) = [(place, held)] ∧
      held.work = job.work := by
  obtain ⟨⟨place, held⟩, member, work⟩ :=
    List.mem_map.mp (placed.works.mem_iff.mpr (List.mem_map_of_mem known))
  have id : held.id = job.id := congrArg Prod.fst work
  have only := filter_key_eq placed.ids_nodup member
  simp only [id] at only
  exact ⟨place, held, only, work⟩

/-- A job is delivered with its work. -/
theorem Placed.delivered_work {account : Account} (placed : account.Placed) {job handed : Job}
    (known : job ∈ account.enqueued) (delivered : handed ∈ account.delivered)
    (id : handed.id = job.id) : handed.work = job.work := by
  obtain ⟨original, put, work⟩ := List.mem_map.mp (placed.handed handed delivered)
  have sameId : original.id = job.id := (congrArg Prod.fst work).trans id
  rw [← work, List.inj_on_of_nodup_map placed.distinct put known sameId]

end Account

end Outreach
