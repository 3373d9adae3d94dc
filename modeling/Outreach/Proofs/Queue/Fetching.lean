import Outreach.Proofs.Queue.Whereabouts

/-!
# One job and the batches of a queue

A batch claims a pending job once it is due, and not before; a job that is not pending it does not
claim. Either way the deliveries of all other jobs do not matter.
-/

namespace Outreach

namespace Queue

variable {queue : Queue} {job : Job} {id : Uuid}

/-- A job that is only pending is under way nowhere. -/
theorem pending_of_whereabouts (here : queue.whereabouts id = [(.pending, job)]) :
    queue.pending.filter (fun job => job.id = id) = [job] ∧
      queue.inFlight.filter (fun claim => claim.job.id = id) = [] := by
  rw [whereabouts_eq] at here
  cases waits : queue.pending.filter (fun job => job.id = id) with
  | nil =>
    rw [waits, List.map_nil, List.nil_append] at here
    obtain ⟨claim, -, entry⟩ := List.map_eq_singleton_iff.mp here
    exact nomatch congrArg Prod.fst entry
  | cons first others =>
    rw [waits, List.map_cons, List.cons_append] at here
    obtain ⟨entry, none⟩ := List.cons.inj here
    obtain ⟨noOthers, noClaims⟩ := List.append_eq_nil_iff.mp none
    rw [List.map_eq_nil_iff] at noOthers noClaims
    exact ⟨by rw [noOthers, show first = job from congrArg Prod.snd entry], noClaims⟩

/-- A job that is nowhere is neither pending nor under way. -/
theorem absent_of_whereabouts (gone : queue.whereabouts id = []) :
    queue.pending.filter (fun job => job.id = id) = [] ∧
      queue.inFlight.filter (fun claim => claim.job.id = id) = [] := by
  rw [whereabouts_eq] at gone
  obtain ⟨noJobs, noClaims⟩ := List.append_eq_nil_iff.mp gone
  exact ⟨List.map_eq_nil_iff.mp noJobs, List.map_eq_nil_iff.mp noClaims⟩

/-- The end of deliveries is nothing to a job that is not under way. -/
theorem whereabouts_expire_perm
    (idle : queue.inFlight.filter (fun claim => claim.job.id = id) = []) (now : Instant) :
    ((queue.expire now).whereabouts id).Perm (queue.whereabouts id) := by
  have none : forall (claims : List Claim) (keep : Claim -> Bool),
      claims.filter (fun claim => claim.job.id = id) = [] ->
        (claims.filter keep).filter (fun claim => claim.job.id = id) = [] := by
    intro claims keep idle
    rw [List.filter_comm, idle, List.filter_nil]
  have pending := (queue.pending_expire now).filter (fun job => job.id = id)
  have noneAgain := none _ (fun claim => !claim.job.exhausted)
    (none queue.inFlight (Claim.expired queue.lease now) idle)
  rw [List.filter_append, List.filter_map, show List.filter (_ ∘ _) _ = [] from noneAgain,
    List.map_nil, List.nil_append] at pending
  rw [whereabouts_eq, whereabouts_eq, inFlight_expire, none _ _ idle, idle, List.map_nil,
    List.append_nil, List.append_nil]
  exact pending.map Job.entry

/-- The beginning of the delivery of one job is nothing to the others. -/
theorem whereabouts_deliver_other {rest : List Job} {inFlight : List Claim} {lease : Nat}
    (apart : job.id ≠ id) (now : Instant) :
    ((Queue.mk rest inFlight lease).deliver job now).whereabouts id =
      (Queue.mk (job :: rest) inFlight lease).whereabouts id := by
  have others : (inFlight.filter (fun claim => claim.job.id ≠ job.id)).filter
      (fun claim => claim.job.id = id) = inFlight.filter (fun claim => claim.job.id = id) := by
    rw [List.filter_filter]
    congr 1
    funext claim
    by_cases same : claim.job.id = id
    · simp [same, apart.symm]
    · simp [same]
  have none : [Claim.mk job.attempted now].filter (fun claim => claim.job.id = id) = [] := by
    simpa using apart
  rw [whereabouts_eq, whereabouts_eq, List.filter_cons_of_neg (by simpa using apart)]
  simp only [deliver]
  rw [List.filter_append, others, none, List.append_nil]

/-- A job that is only pending is only under way once its delivery has begun. -/
theorem whereabouts_deliver {rest : List Job} {inFlight : List Claim} {lease : Nat}
    (here : (Queue.mk (job :: rest) inFlight lease).whereabouts job.id = [(.pending, job)])
    (now : Instant) :
    ((Queue.mk rest inFlight lease).deliver job now).whereabouts job.id =
      [(.inFlight, job.attempted)] := by
  obtain ⟨only, idle⟩ := pending_of_whereabouts here
  simp only [List.filter_cons, decide_true, if_true, List.cons.injEq, true_and] at only
  rw [whereabouts_eq]
  simp only [deliver]
  rw [only, List.filter_append, List.filter_comm, idle]
  simp [Claim.entry]

/-- Where a job is does not depend on another one that is taken out. -/
theorem whereabouts_tail {rest : List Job} {inFlight : List Claim} {lease : Nat}
    (apart : job.id ≠ id) :
    (Queue.mk rest inFlight lease).whereabouts id =
      (Queue.mk (job :: rest) inFlight lease).whereabouts id := by
  rw [whereabouts_eq, whereabouts_eq, List.filter_cons_of_neg (by simpa using apart)]

/-- The delivery of another job is none of this one. -/
theorem filter_attempted_other (apart : job.id ≠ id) (others : List Job) :
    (job.attempted :: others).filter (fun job => job.id = id) =
      others.filter (fun job => job.id = id) :=
  List.filter_cons_of_neg (fun same => apart (of_decide_eq_true same))

/-- A batch claims no job that is not pending, and leaves it where it is. -/
theorem deliverDue_absent (now : Instant) (limit : Nat)
    (absent : queue.pending.filter (fun job => job.id = id) = []) :
    (queue.deliverDue now limit).claimed.filter (fun job => job.id = id) = [] ∧
      (queue.deliverDue now limit).queue.whereabouts id = queue.whereabouts id := by
  induction limit generalizing queue with
  | zero => exact ⟨rfl, rfl⟩
  | succ limit ih =>
    obtain ⟨pending, inFlight, lease⟩ := queue
    cases pending with
    | nil => exact ⟨rfl, rfl⟩
    | cons job rest =>
      have apart : job.id ≠ id := by
        intro same
        simp [same] at absent
      have later : rest.filter (fun job => job.id = id) = [] := by
        rwa [List.filter_cons_of_neg (by simpa using apart)] at absent
      by_cases ready : job.runAt <= now
      · cases room : job.full with
        | true =>
          simp only [deliverDue, ready, if_true, room]
          exact ⟨List.filter_nil, whereabouts_tail apart⟩
        | false =>
          have others : ((Queue.mk rest inFlight lease).deliver job now).pending.filter
              (fun job => job.id = id) = [] := later
          obtain ⟨none, same⟩ := ih others
          simp only [deliverDue, ready, if_true, room, if_false, Bool.false_eq_true]
          rw [filter_attempted_other apart]
          exact ⟨none, same.trans (whereabouts_deliver_other apart now)⟩
      · simp only [deliverDue, ready, if_false]
        exact ⟨List.filter_nil, trivial⟩

/-- A batch claims a job that is pending and whose deliveries can be counted once, and only if it is
due. -/
theorem deliverDue_pending (now : Instant) (limit : Nat) (countable : job.full = false)
    (here : queue.whereabouts id = [(.pending, job)]) :
    ((queue.deliverDue now limit).claimed.filter (fun job => job.id = id) = [] ∧
        (queue.deliverDue now limit).queue.whereabouts id = [(.pending, job)]) ∨
      (job.runAt <= now ∧
        (queue.deliverDue now limit).claimed.filter (fun job => job.id = id) = [job.attempted] ∧
        (queue.deliverDue now limit).queue.whereabouts id = [(.inFlight, job.attempted)]) := by
  induction limit generalizing queue with
  | zero => exact .inl ⟨rfl, here⟩
  | succ limit ih =>
    obtain ⟨pending, inFlight, lease⟩ := queue
    cases pending with
    | nil => exact .inl ⟨rfl, here⟩
    | cons first rest =>
      by_cases ready : first.runAt <= now
      · by_cases same : first.id = id
        · subst same
          obtain ⟨only, -⟩ := pending_of_whereabouts here
          simp only [List.filter_cons, decide_true, if_true, List.cons.injEq] at only
          obtain ⟨rfl, later⟩ := only
          have begun := whereabouts_deliver here now
          have others : ((Queue.mk rest inFlight lease).deliver first now).pending.filter
              (fun job => job.id = first.id) = [] := later
          obtain ⟨none, kept⟩ := deliverDue_absent now limit others
          simp only [deliverDue, ready, if_true, countable, if_false, Bool.false_eq_true]
          rw [List.filter_cons_of_pos (by simp), none]
          exact .inr ⟨trivial, rfl, kept.trans begun⟩
        · cases room : first.full with
          | true =>
            simp only [deliverDue, ready, if_true, room]
            exact .inl ⟨List.filter_nil, (whereabouts_tail same).trans here⟩
          | false =>
            simp only [deliverDue, ready, if_true, room, if_false, Bool.false_eq_true]
            rw [filter_attempted_other same]
            exact ih ((whereabouts_deliver_other same now).trans here)
      · simp only [deliverDue, ready, if_false]
        exact .inl ⟨rfl, here⟩

theorem fetch_pending (now : Instant) (limit : Nat) (countable : job.full = false)
    (here : queue.whereabouts id = [(.pending, job)]) :
    ((queue.fetch now limit).claimed.filter (fun job => job.id = id) = [] ∧
        (queue.fetch now limit).queue.whereabouts id = [(.pending, job)]) ∨
      (job.runAt <= now ∧
        (queue.fetch now limit).claimed.filter (fun job => job.id = id) = [job.attempted] ∧
        (queue.fetch now limit).queue.whereabouts id = [(.inFlight, job.attempted)]) := by
  have waits : (queue.expire now).whereabouts id = [(.pending, job)] :=
    List.perm_singleton.mp (here ▸ whereabouts_expire_perm (pending_of_whereabouts here).2 now)
  exact deliverDue_pending now limit countable waits

theorem fetch_absent (now : Instant) (limit : Nat) (gone : queue.whereabouts id = []) :
    (queue.fetch now limit).claimed.filter (fun job => job.id = id) = [] ∧
      (queue.fetch now limit).queue.whereabouts id = [] := by
  have still : (queue.expire now).whereabouts id = [] :=
    List.perm_nil.mp (gone ▸ whereabouts_expire_perm (absent_of_whereabouts gone).2 now)
  obtain ⟨none, same⟩ := deliverDue_absent now limit (absent_of_whereabouts still).1
  exact ⟨none, same.trans still⟩

end Queue

namespace Rehearsal

variable {job : Job} {id : Uuid}

theorem claimed_pending (shift : Shift Rehearsal) (now : Instant) (limit : Nat)
    (countable : job.full = false) (here : shift.world.whereabouts id = [(.pending, job)]) :
    ((shift.world.claimed now limit).filter (fun job => job.id = id) = [] ∧
        (jobSource.fetchDue now limit shift).2.world.whereabouts id = [(.pending, job)]) ∨
      (job.runAt <= now ∧
        (shift.world.claimed now limit).filter (fun job => job.id = id) = [job.attempted] ∧
        (jobSource.fetchDue now limit shift).2.world.whereabouts id =
          [(.inFlight, job.attempted)]) := by
  obtain ⟨queue, maxAttempts, desk, here⟩ := queue_of_whereabouts here
  simp only [claimed, jobSource, askQueue, desk, whereabouts]
  exact Queue.fetch_pending now limit countable here

theorem claimed_absent (shift : Shift Rehearsal) (now : Instant) (limit : Nat)
    (gone : shift.world.whereabouts id = []) :
    (shift.world.claimed now limit).filter (fun job => job.id = id) = [] ∧
      (jobSource.fetchDue now limit shift).2.world.whereabouts id = [] := by
  cases desk : shift.world.jobs with
  | queue queue maxAttempts =>
    simp only [claimed, jobSource, askQueue, desk, whereabouts] at gone ⊢
    exact Queue.fetch_absent now limit gone
  | notes jobs refuseNext =>
    simp only [claimed, jobSource, askQueue, desk, whereabouts]
    exact ⟨rfl, trivial⟩

end Rehearsal

end Outreach
