import Outreach.Proofs.Queue.Delivery
import Outreach.Rehearsal.Basic

/-!
# Where a job is

The entries of one id in a queue: none, or one as long as no id occurs twice. What an operation does
with one job leaves the entries of all other ids as they are. What jobs are about never changes: no
operation brings another work into a queue than that of the job that is put in.
-/

namespace Outreach

namespace Queue

/-- The entries of an id in a queue. -/
def whereabouts (queue : Queue) (id : Uuid) : List (Place × Job) :=
  queue.entries.filter (fun entry => entry.2.id = id)

section Entries

variable {queue : Queue} {job : Job} {id : Uuid}

/-- A job is pending or under way, and what is pending comes first. -/
theorem whereabouts_eq (queue : Queue) (id : Uuid) :
    queue.whereabouts id =
      (queue.pending.filter (fun job => job.id = id)).map Job.entry ++
        (queue.inFlight.filter (fun claim => claim.job.id = id)).map Claim.entry := by
  rw [whereabouts, entries, List.filter_append, List.filter_map, List.filter_map]
  rfl

/-- Without repeated ids an entry is the only one of its id. -/
theorem whereabouts_of_mem (distinct : queue.Distinct) {entry : Place × Job}
    (member : entry ∈ queue.entries) : queue.whereabouts entry.2.id = [entry] :=
  filter_key_eq distinct member

/-- A job that is only under way has one delivery and is not pending. -/
theorem inFlight_of_whereabouts (here : queue.whereabouts id = [(.inFlight, job)]) :
    queue.pending.filter (fun job => job.id = id) = [] ∧
      ∃ claim, queue.inFlight.filter (fun claim => claim.job.id = id) = [claim] ∧
        claim.job = job := by
  rw [whereabouts_eq] at here
  cases waits : queue.pending.filter (fun job => job.id = id) with
  | nil =>
    rw [waits, List.map_nil, List.nil_append] at here
    obtain ⟨claim, only, entry⟩ := List.map_eq_singleton_iff.mp here
    exact ⟨rfl, claim, only, congrArg Prod.snd entry⟩
  | cons first others =>
    rw [waits, List.map_cons, List.cons_append] at here
    exact nomatch congrArg Prod.fst (List.cons.inj here).1

/-- The delivery of a job that is only under way is found. -/
theorem claim?_of_whereabouts (here : queue.whereabouts id = [(.inFlight, job)]) :
    ∃ claim, queue.claim? id = some claim ∧ claim.job = job := by
  obtain ⟨-, claim, only, same⟩ := inFlight_of_whereabouts here
  exact ⟨claim, by rw [claim?, ← List.head?_filter, only, List.head?_cons], same⟩

end Entries

section Others

variable {queue : Queue} {job : Job} {id other : Uuid}

theorem filter_place (apart : job.id ≠ other) (pending : List Job) :
    (place job pending).filter (fun job => job.id = other) =
      pending.filter (fun job => job.id = other) := by
  induction pending with
  | nil => simp [place, apart]
  | cons first rest ih =>
    rw [place]
    split
    · exact List.filter_cons_of_neg (by simpa using apart)
    · rw [List.filter_cons, List.filter_cons, ih]

theorem whereabouts_push_other (apart : job.id ≠ other) :
    (queue.push job).whereabouts other = queue.whereabouts other := by
  rw [whereabouts_eq, whereabouts_eq, push, filter_place apart]

/-- A job of an id that was unknown is pending once it has been put in. -/
theorem whereabouts_push (unknown : queue.whereabouts job.id = []) :
    (queue.push job).whereabouts job.id = [(.pending, job)] := by
  have order := (queue.entries_push job).filter (fun entry => entry.2.id = job.id)
  rw [List.filter_cons_of_pos (by simp), show queue.entries.filter _ = [] from unknown] at order
  exact List.perm_singleton.mp order

theorem whereabouts_release_other (apart : id ≠ other) :
    (queue.release id).whereabouts other = queue.whereabouts other := by
  rw [whereabouts_eq, whereabouts_eq, release, List.filter_filter]
  congr 3
  funext claim
  by_cases same : claim.job.id = other
  · simp [same, apart.symm]
  · simp [same]

/-- A job that was under way is nowhere in the queue once its delivery has been taken out. -/
theorem whereabouts_release (here : queue.whereabouts id = [(.inFlight, job)]) :
    (queue.release id).whereabouts id = [] := by
  obtain ⟨absent, -⟩ := inFlight_of_whereabouts here
  rw [whereabouts_eq, release, absent, List.filter_filter]
  simp

theorem whereabouts_complete_other (apart : id ≠ other) :
    (queue.complete id).2.whereabouts other = queue.whereabouts other := by
  unfold complete
  split
  · exact whereabouts_release_other apart
  · rfl

/-- A job that was under way is nowhere in the queue once it is done. -/
theorem complete_of_whereabouts (here : queue.whereabouts id = [(.inFlight, job)]) :
    (queue.complete id).1 = .ok () ∧ (queue.complete id).2.whereabouts id = [] := by
  obtain ⟨claim, found, -⟩ := claim?_of_whereabouts here
  simp only [complete, found]
  exact ⟨trivial, whereabouts_release here⟩

theorem whereabouts_fail_other (apart : id ≠ other) (retryAt : Instant) :
    (queue.fail id retryAt).2.whereabouts other = queue.whereabouts other := by
  unfold fail
  cases found : queue.claim? id with
  | none => rfl
  | some claim =>
    have same := (mem_of_claim? found).2
    dsimp only
    split
    · exact whereabouts_release_other apart
    · rw [whereabouts_push_other (by simpa only [same] using apart),
        whereabouts_release_other apart]

/-- What a queue holds of a job that was given back at an instant: a pending job, unless its
deliveries are used up. -/
def handedBack (job : Job) (runAt : Instant) : List (Place × Job) :=
  if job.exhausted then [] else [(.pending, { job with runAt })]

/-- A job that was under way is given back, or gone if its deliveries are used up. -/
theorem fail_of_whereabouts (here : queue.whereabouts id = [(.inFlight, job)]) (retryAt : Instant) :
    (queue.fail id retryAt).1 =
        .ok (if job.exhausted then .dropped job.attempts else .retrying job.attempts retryAt) ∧
      (queue.fail id retryAt).2.whereabouts id = handedBack job retryAt := by
  obtain ⟨claim, found, rfl⟩ := claim?_of_whereabouts here
  have same := (mem_of_claim? found).2
  have gone := whereabouts_release here
  unfold handedBack
  by_cases usedUp : claim.job.exhausted
  · simp only [fail, found, usedUp, if_true]
    exact ⟨trivial, gone⟩
  · simp only [fail, found, usedUp, if_false, Bool.false_eq_true]
    refine ⟨trivial, ?_⟩
    subst same
    exact whereabouts_push gone

end Others

section Fetching

variable {queue : Queue}

/-- No id occurs twice after the deliveries have ended whose lease has run out. -/
theorem Distinct.expire (distinct : queue.Distinct) (now : Instant) :
    (queue.expire now).Distinct := by
  have ended := (queue.entries_expire now).map (fun entry => entry.2.id)
  have ids : (queue.pending.map Job.entry ++ queue.inFlight.map (expiry queue.lease now)).map
      (fun entry => entry.2.id) = queue.entries.map (fun entry => entry.2.id) := by
    rw [entries, List.map_append, List.map_append, List.map_map, List.map_map (l := queue.inFlight),
      List.map_map]
    congr 2
    funext claim
    simp only [Function.comp, expiry]
    split <;> rfl
  rw [ids, List.map_append] at ended
  exact (ended.symm.nodup distinct).of_append_left

/-- No id occurs twice after deliveries have begun. -/
theorem Distinct.deliverDue (distinct : queue.Distinct) (now : Instant) (limit : Nat) :
    (queue.deliverDue now limit).queue.Distinct := by
  rw [deliverDue_eq distinct, Distinct, entries_ids]
  rw [Distinct, entries_ids, ← queue.taken_append now limit, taken, List.map_append,
    List.map_append] at distinct
  -- But for the one that is lost, the jobs are the same as before.
  have fewer : ((queue.begun now limit).map Job.id ++
      (queue.pending.drop (queue.taken now limit).length).map Job.id ++
        queue.inFlight.map (fun claim => claim.job.id)).Nodup :=
    distinct.sublist (((List.sublist_append_left _ _).append_right _).append_right _)
  refine List.Perm.nodup ?_ fewer
  rw [List.map_append, List.map_map, List.append_assoc]
  refine List.perm_append_comm.trans ?_
  rw [List.append_assoc]
  exact .refl _

/-- A job with which deliveries break off is nowhere. -/
theorem whereabouts_lost (distinct : queue.Distinct) {now : Instant} {limit : Nat} {job : Job}
    (lost : queue.lost? now limit = some job) :
    (queue.deliverDue now limit).queue.whereabouts job.id = [] := by
  let left := queue.pending.drop (queue.taken now limit).length
  have parts : queue.taken now limit ++ left = queue.pending := queue.taken_append now limit
  have isTaken : queue.taken now limit = queue.begun now limit ++ [job] := by rw [taken, lost]; rfl
  rw [isTaken, List.append_assoc, List.singleton_append] at parts
  have ids := distinct
  rw [Distinct, entries_ids, ← parts, List.map_append, List.map_cons, List.append_assoc,
    List.cons_append] at ids
  have absent := (List.nodup_cons.mp (List.perm_middle.nodup ids)).1
  rw [deliverDue_eq distinct]
  refine List.filter_eq_nil_iff.mpr (fun entry member same => absent ?_)
  have listed := List.mem_map_of_mem (f := fun entry : Place × Job => entry.2.id) member
  rw [of_decide_eq_true same, entries_ids, List.map_append, List.map_map] at listed
  rcases List.mem_append.mp listed with waits | listed
  · exact List.mem_append_right _ (List.mem_append_left _ waits)
  · rcases List.mem_append.mp listed with runs | begins
    · exact List.mem_append_right _ (List.mem_append_right _ runs)
    · exact List.mem_append_left _ begins

/-- A fetch leaves no two jobs with one id. -/
theorem Distinct.fetch (distinct : queue.Distinct) (now : Instant) (limit : Nat) :
    (queue.fetch now limit).queue.Distinct := by
  rw [fetch_eq]
  exact (distinct.expire now).deliverDue now limit

/-- No id occurs twice among the jobs of a batch. -/
theorem nodup_fetch (distinct : queue.Distinct) (now : Instant) (limit : Nat) :
    ((queue.fetch now limit).claimed.map Job.id).Nodup := by
  rw [fetch_eq_of_distinct (distinct.expire now), List.map_map]
  have pending := distinct.expire now
  rw [Distinct, entries_ids, ← (queue.expire now).taken_append now limit, taken, List.map_append,
    List.map_append] at pending
  exact pending.of_append_left.of_append_left.of_append_left

/-- The jobs of a batch are under way. -/
theorem whereabouts_fetch (distinct : queue.Distinct) (now : Instant) (limit : Nat) :
    ∀ job ∈ (queue.fetch now limit).claimed,
      (queue.fetch now limit).queue.whereabouts job.id = [(.inFlight, job)] := by
  intro job handed
  suffices (Place.inFlight, job) ∈ (queue.fetch now limit).queue.entries from
    whereabouts_of_mem (distinct.fetch now limit) this
  rw [fetch_eq_of_distinct (distinct.expire now)] at handed ⊢
  obtain ⟨before, begins, rfl⟩ := List.mem_map.mp handed
  refine List.mem_append_right _ (List.mem_map.mpr ⟨claimAt now before, ?_, rfl⟩)
  exact List.mem_append_right _ (List.mem_map_of_mem begins)

end Fetching

section Works

/-- What the jobs of a queue are about. -/
def works (queue : Queue) : List (Uuid × String × Json × UInt32) :=
  queue.entries.map (fun entry => entry.2.work)

variable {queue : Queue}

theorem work_mem_of_pending {job : Job} (waits : job ∈ queue.pending) : job.work ∈ queue.works :=
  List.mem_map.mpr ⟨job.entry, List.mem_append_left _ (List.mem_map_of_mem waits), rfl⟩

theorem work_mem_of_inFlight {claim : Claim} (underWay : claim ∈ queue.inFlight) :
    claim.job.work ∈ queue.works :=
  List.mem_map.mpr ⟨claim.entry, List.mem_append_right _ (List.mem_map_of_mem underWay), rfl⟩

/-- A queue all whose jobs are about works of another has no other works. -/
theorem works_subset {next : Queue} (pending : ∀ job ∈ next.pending, job.work ∈ queue.works)
    (inFlight : ∀ claim ∈ next.inFlight, claim.job.work ∈ queue.works) :
    next.works ⊆ queue.works := by
  intro work listed
  obtain ⟨entry, member, rfl⟩ := List.mem_map.mp listed
  rcases List.mem_append.mp member with first | last
  · obtain ⟨job, waits, rfl⟩ := List.mem_map.mp first
    exact pending job waits
  · obtain ⟨claim, underWay, rfl⟩ := List.mem_map.mp last
    exact inFlight claim underWay

/-- A queue that gets a job has the work of that job besides its own. -/
theorem works_push (queue : Queue) (job : Job) :
    (queue.push job).works.Perm (job.work :: queue.works) :=
  (queue.entries_push job).map (fun entry : Place × Job => entry.2.work)

theorem works_release (queue : Queue) (id : Uuid) : (queue.release id).works ⊆ queue.works :=
  works_subset (fun job waits => work_mem_of_pending (show job ∈ queue.pending from waits))
    (fun _ underWay => work_mem_of_inFlight (List.mem_of_mem_filter underWay))

theorem works_complete (queue : Queue) (id : Uuid) : (queue.complete id).2.works ⊆ queue.works := by
  unfold complete
  split
  · exact works_release queue id
  · exact List.Subset.refl _

theorem works_fail (queue : Queue) (id : Uuid) (retryAt : Instant) :
    (queue.fail id retryAt).2.works ⊆ queue.works := by
  unfold fail
  cases found : queue.claim? id with
  | none => exact List.Subset.refl _
  | some claim =>
    dsimp only
    split
    · exact works_release queue id
    · intro work listed
      rcases List.mem_cons.mp ((works_push _ _).subset listed) with rfl | kept
      · exact work_mem_of_inFlight (mem_of_claim? found).1
      · exact works_release queue id kept

/-- Claims that have expired only move their works. -/
theorem works_expire (queue : Queue) (now : Instant) : (queue.expire now).works ⊆ queue.works := by
  refine works_subset (fun job waits => ?_) (fun claim underWay => ?_)
  · rcases List.mem_append.mp ((queue.pending_expire now).subset waits) with again | waits
    · obtain ⟨claim, ended, rfl⟩ := List.mem_map.mp again
      exact work_mem_of_inFlight (List.mem_of_mem_filter (List.mem_of_mem_filter ended))
    · exact work_mem_of_pending waits
  · rw [inFlight_expire] at underWay
    exact work_mem_of_inFlight (List.mem_of_mem_filter underWay)

/-- Deliveries that begin are deliveries of works of the queue, and leave nothing else in it. -/
theorem works_deliverDue (queue : Queue) (now : Instant) (limit : Nat) :
    (∀ job ∈ (queue.deliverDue now limit).claimed, job.work ∈ queue.works) ∧
      (queue.deliverDue now limit).queue.works ⊆ queue.works := by
  induction limit generalizing queue with
  | zero => exact ⟨fun job none => absurd none List.not_mem_nil, List.Subset.refl _⟩
  | succ limit ih =>
    obtain ⟨pending, inFlight, lease⟩ := queue
    cases pending with
    | nil => exact ⟨fun job none => absurd none List.not_mem_nil, List.Subset.refl _⟩
    | cons job rest =>
      by_cases ready : job.runAt <= now
      · have first : job.work ∈ (Queue.mk (job :: rest) inFlight lease).works :=
          work_mem_of_pending List.mem_cons_self
        have others (claims : List Claim) (known : ∀ claim ∈ claims, claim.job.work ∈
            (Queue.mk (job :: rest) inFlight lease).works) :
            (Queue.mk rest claims lease).works ⊆ (Queue.mk (job :: rest) inFlight lease).works :=
          works_subset (fun _ waits => work_mem_of_pending (List.mem_cons_of_mem _ waits)) known
        cases room : job.full with
        | true =>
          simp only [deliverDue, ready, if_true, room]
          exact ⟨fun job none => absurd none List.not_mem_nil,
            others inFlight (fun _ underWay => work_mem_of_inFlight underWay)⟩
        | false =>
          have begun : ((Queue.mk rest inFlight lease).deliver job now).works ⊆
              (Queue.mk (job :: rest) inFlight lease).works := by
            refine others _ (fun claim underWay => ?_)
            rcases List.mem_append.mp underWay with kept | last
            · exact work_mem_of_inFlight (List.mem_of_mem_filter kept)
            · rw [List.mem_singleton.mp last]
              exact first
          obtain ⟨handed, left⟩ := ih ((Queue.mk rest inFlight lease).deliver job now)
          simp only [deliverDue, ready, if_true, room, if_false, Bool.false_eq_true]
          refine ⟨fun other member => ?_, fun work listed => begun (left listed)⟩
          rcases List.mem_cons.mp member with rfl | later
          · exact first
          · exact begun (handed other later)
      · simp only [deliverDue, ready, if_false]
        exact ⟨fun job none => absurd none List.not_mem_nil, List.Subset.refl _⟩

/-- A fetch claims works of the queue, and leaves nothing else in it. -/
theorem works_fetch (queue : Queue) (now : Instant) (limit : Nat) :
    (∀ job ∈ (queue.fetch now limit).claimed, job.work ∈ queue.works) ∧
      (queue.fetch now limit).queue.works ⊆ queue.works := by
  obtain ⟨handed, left⟩ := works_deliverDue (queue.expire now) now limit
  rw [fetch_eq]
  exact ⟨fun job member => works_expire queue now (handed job member),
    fun work listed => works_expire queue now (left listed)⟩

end Works

end Queue

namespace Rehearsal

/-- The entries of an id in the queue of a rehearsal, if it has one. -/
def whereabouts (rehearsal : Rehearsal) (id : Uuid) : List (Place × Job) :=
  match rehearsal.jobs with
  | .queue queue _ => queue.whereabouts id
  | .notes _ _ => []

variable {shift : Shift Rehearsal} {job : Job} {id other : Uuid}

/-- What a rehearsal knows of a job it knows from its queue. -/
theorem queue_of_whereabouts {rehearsal : Rehearsal} {entry : Place × Job}
    (here : rehearsal.whereabouts id = [entry]) :
    ∃ queue maxAttempts, rehearsal.jobs = .queue queue maxAttempts ∧
      queue.whereabouts id = [entry] := by
  unfold whereabouts at here
  cases desk : rehearsal.jobs with
  | queue queue maxAttempts =>
    rw [desk] at here
    exact ⟨queue, maxAttempts, rfl, here⟩
  | notes jobs refuseNext =>
    rw [desk] at here
    cases here

/-- A request to the queue changes nothing but the queue. -/
theorem askQueue_shift {α : Type} (idle : α) (ask : Queue -> Except QueueError α × Queue)
    (shift : Shift Rehearsal) :
    ∃ jobs, (askQueue idle ask shift).2 = { shift with world := { shift.world with jobs } } := by
  unfold askQueue
  cases desk : shift.world.jobs with
  | queue queue maxAttempts => exact ⟨_, rfl⟩
  | notes jobs refuseNext => exact ⟨shift.world.jobs, rfl⟩

/-- The jobs whose deliveries begin with a fetch. -/
def claimed (now : Instant) (limit : Nat) (rehearsal : Rehearsal) : List Job :=
  match rehearsal.jobs with
  | .queue queue _ => (queue.fetch now limit).claimed
  | .notes _ _ => []

/-- A fetch hands out those jobs, or it is broken off. -/
theorem fetchDue_cases (now : Instant) (limit : Nat) (shift : Shift Rehearsal) :
    (jobSource.fetchDue now limit shift).1 = .ok (shift.world.claimed now limit) ∨
      (jobSource.fetchDue now limit shift).1 = .error .overflow := by
  simp only [jobSource, askQueue, claimed]
  cases shift.world.jobs with
  | notes jobs refuseNext => exact .inl rfl
  | queue queue maxAttempts =>
    simp only [Queue.fetchDue]
    split
    · exact .inr rfl
    · exact .inl rfl

theorem whereabouts_complete_other (apart : id ≠ other) :
    (jobSource.complete id shift).2.world.whereabouts other = shift.world.whereabouts other := by
  simp only [jobSource, askQueue]
  cases desk : shift.world.jobs with
  | queue queue maxAttempts =>
    simp only [whereabouts, desk]
    exact Queue.whereabouts_complete_other apart
  | notes jobs refuseNext => rfl

theorem whereabouts_fail_other (apart : id ≠ other) (detail : String) (retryAt : Instant) :
    (jobSource.fail id detail retryAt shift).2.world.whereabouts other =
      shift.world.whereabouts other := by
  simp only [jobSource, askQueue]
  cases desk : shift.world.jobs with
  | queue queue maxAttempts =>
    simp only [whereabouts, desk]
    exact Queue.whereabouts_fail_other apart retryAt
  | notes jobs refuseNext => rfl

/-- The worker's source takes back a job that was under way. -/
theorem whereabouts_fail (here : shift.world.whereabouts id = [(.inFlight, job)]) (detail : String)
    (retryAt : Instant) :
    (jobSource.fail id detail retryAt shift).2.world.whereabouts id =
      Queue.handedBack job retryAt := by
  obtain ⟨queue, maxAttempts, desk, here⟩ := queue_of_whereabouts here
  simp only [jobSource, askQueue, desk, whereabouts]
  exact (Queue.fail_of_whereabouts here retryAt).2

/-- The worker's source lets go of a job that is done. -/
theorem whereabouts_complete (here : shift.world.whereabouts id = [(.inFlight, job)]) :
    (jobSource.complete id shift).1 = .ok () ∧
      (jobSource.complete id shift).2.world.whereabouts id = [] := by
  obtain ⟨queue, maxAttempts, desk, here⟩ := queue_of_whereabouts here
  simp only [jobSource, askQueue, desk, whereabouts]
  exact Queue.complete_of_whereabouts here

/-- What the jobs of a rehearsal's queue are about, if it has one. -/
def works (rehearsal : Rehearsal) : List (Uuid × String × Json × UInt32) :=
  match rehearsal.jobs with
  | .queue queue _ => queue.works
  | .notes _ _ => []

/-- What a worker fetches are works of the queue, and nothing else is left in it. -/
theorem works_fetch (now : Instant) (limit : Nat) (shift : Shift Rehearsal) :
    (∀ job ∈ shift.world.claimed now limit, job.work ∈ shift.world.works) ∧
      (jobSource.fetchDue now limit shift).2.world.works ⊆ shift.world.works := by
  simp only [jobSource, askQueue, claimed]
  cases desk : shift.world.jobs with
  | queue queue maxAttempts =>
    simp only [works, desk]
    exact Queue.works_fetch queue now limit
  | notes notes refuseNext =>
    exact ⟨fun job none => absurd none List.not_mem_nil, List.Subset.refl _⟩

theorem works_complete (id : Uuid) :
    (jobSource.complete id shift).2.world.works ⊆ shift.world.works := by
  simp only [jobSource, askQueue]
  cases desk : shift.world.jobs with
  | queue queue maxAttempts =>
    simp only [works, desk]
    exact Queue.works_complete queue id
  | notes notes refuseNext => exact List.Subset.refl _

theorem works_fail (id : Uuid) (detail : String) (retryAt : Instant) :
    (jobSource.fail id detail retryAt shift).2.world.works ⊆ shift.world.works := by
  simp only [jobSource, askQueue]
  cases desk : shift.world.jobs with
  | queue queue maxAttempts =>
    simp only [works, desk]
    exact Queue.works_fail queue id retryAt
  | notes notes refuseNext => exact List.Subset.refl _

end Rehearsal

end Outreach
