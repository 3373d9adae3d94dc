import Outreach.Proofs.Queue.Whereabouts
import Outreach.Queue.Worker

/-!
# What a cancelled worker hands back

The jobs of a batch have their turns one after the other. A turn that finds the worker cancelled
passes its job over: the job goes back to the queue, where it is due at once. A job that was on its
last delivery does not: its deliveries count from when they begin, so it is gone.
-/

namespace Outreach

/-- Handlers that leave the deliveries of other jobs alone. They may put jobs into the queue, and
they may cancel the worker. -/
def Handlers.Considerate (handlers : Handlers Rehearsal) : Prop :=
  forall (job other : Job) (shift : Shift Rehearsal), other.id ≠ job.id ->
    shift.world.whereabouts other.id = [(.inFlight, other)] ->
    (handlers.dispatch job shift).2.world.whereabouts other.id = [(.inFlight, other)]

namespace Worker

section Turns

variable {σ : Type} {worker : Worker σ}

/-- The turns of the jobs of a batch, each with the shift that it finds. After a fault that nothing
goes on after there are no more. -/
def turns (worker : Worker σ) (shift : Shift σ) : List Job -> List (Job × Shift σ)
  | [] => []
  | job :: rest =>
    (job, shift) ::
      if shift.cancelled then worker.turns (worker.giveBack job shift) rest
      else
        match worker.process job shift with
        | (.error .overflow, _) => []
        | (_, shift) => worker.turns shift rest

theorem processAll_cancelled {shift : Shift σ} (cancelled : shift.cancelled = true)
    (stats : PollStats) (job : Job) (rest : List Job) :
    worker.processAll stats shift (job :: rest) =
      worker.processAll stats (worker.giveBack job shift) rest := by
  rw [processAll, if_pos cancelled]

theorem turns_cancelled {shift : Shift σ} (cancelled : shift.cancelled = true) (job : Job)
    (rest : List Job) :
    worker.turns shift (job :: rest) =
      (job, shift) :: worker.turns (worker.giveBack job shift) rest := by
  rw [turns, if_pos cancelled]

/-- After a job has been processed things are as its handler left them, but for what the source was
told of the job. -/
theorem process_shift (worker : Worker σ) (job : Job) (shift : Shift σ) :
    let after := (worker.handlers.dispatch job shift).2
    (worker.process job shift).2 = after ∨
      (worker.process job shift).2 = (worker.source.complete job.id after).2 ∨
      exists detail retryAt,
        (worker.process job shift).2 = (worker.source.fail job.id detail retryAt after).2 := by
  unfold process
  split
  · rename_i ends
    exact .inl (by rw [ends])
  · rename_i done
    exact .inr (.inl (by rw [done]))
  · rename_i failed
    split
    · exact .inl (by rw [failed])
    · exact .inr (.inr ⟨_, _, by rw [failed]⟩)

/-- A date out of range in a handler is one in the processing of its job. -/
theorem process_overflow {job : Job} {shift next : Shift σ}
    (ends : worker.handlers.dispatch job shift = (.error .overflow, next)) :
    worker.process job shift = (.error .overflow, next) := by
  rw [process, ends]

/-- A job whose turn finds the worker at work is processed; the turns end with a fault that nothing
goes on after. -/
theorem process_cases {shift : Shift σ} (working : shift.cancelled = false) (job : Job) :
    ((worker.process job shift).1 = .error .overflow ∧
      (forall stats rest, worker.processAll stats shift (job :: rest) =
        (.error .overflow, (worker.process job shift).2)) ∧
      forall rest, worker.turns shift (job :: rest) = [(job, shift)]) ∨
    ((worker.process job shift).1 ≠ .error .overflow ∧
      (forall stats rest, worker.processAll stats shift (job :: rest) =
        worker.processAll (stats.count (worker.process job shift).1)
          (worker.process job shift).2 rest) ∧
      forall rest, worker.turns shift (job :: rest) =
        (job, shift) :: worker.turns (worker.process job shift).2 rest) := by
  have open' : ¬ shift.cancelled = true := by simp [working]
  cases processed : worker.process job shift with
  | mk answer next =>
    by_cases ends : answer = .error .overflow
    · subst ends
      refine .inl ⟨rfl, fun stats rest => ?_, fun rest => ?_⟩
      · rw [processAll, if_neg open', processed]
      · rw [turns, if_neg open', processed]
    · refine .inr ⟨ends, fun stats rest => ?_, fun rest => ?_⟩
      · rw [processAll, if_neg open', processed]
        split
        · rename_i same
          exact absurd (congrArg Prod.fst same) ends
        · rename_i same
          cases same
          rfl
      · rw [turns, if_neg open', processed]
        split
        · rename_i same
          exact absurd (congrArg Prod.fst same) ends
        · rename_i same
          cases same
          rfl

/-- What a turn leaves. -/
def afterTurn (worker : Worker σ) (turn : Job × Shift σ) : Shift σ :=
  if turn.2.cancelled then worker.giveBack turn.1 turn.2 else (worker.process turn.1 turn.2).2

/-- A batch is handled by a turn of its first job. Then the others have their turns, or there are no
more of them. -/
theorem turns_cons (worker : Worker σ) (shift : Shift σ) (job : Job) (rest : List Job) :
    ((worker.turns shift (job :: rest) = [(job, shift)] ∧
        forall stats, (worker.processAll stats shift (job :: rest)).2 =
          worker.afterTurn (job, shift)) ∨
      worker.turns shift (job :: rest) =
          (job, shift) :: worker.turns (worker.afterTurn (job, shift)) rest ∧
        forall stats, ∃ counted, worker.processAll stats shift (job :: rest) =
          worker.processAll counted (worker.afterTurn (job, shift)) rest) := by
  unfold afterTurn
  cases working : shift.cancelled with
  | true =>
    simp only [if_true]
    exact .inr ⟨turns_cancelled working job rest, fun stats =>
      ⟨stats, processAll_cancelled working stats job rest⟩⟩
  | false =>
    simp only [if_false, Bool.false_eq_true]
    rcases worker.process_cases working job with ⟨-, ends, last⟩ | ⟨-, goesOn, turns⟩
    · exact .inl ⟨last rest, fun stats => by rw [ends]⟩
    · exact .inr ⟨turns rest, fun stats => ⟨_, goesOn stats rest⟩⟩

theorem turns_singleton (worker : Worker σ) (shift : Shift σ) (job : Job) :
    worker.turns shift [job] = [(job, shift)] := by
  rcases worker.turns_cons shift job [] with ⟨last, -⟩ | ⟨turns, -⟩
  · exact last
  · exact turns

/-- What every turn preserves holds at every turn and at the end of the batch. -/
theorem processAll_preserves (Holds : Shift σ -> Prop) (stats : PollStats) {shift : Shift σ}
    {jobs : List Job} (start : Holds shift)
    (preserved : ∀ turn ∈ worker.turns shift jobs, Holds turn.2 -> Holds (worker.afterTurn turn)) :
    (∀ turn ∈ worker.turns shift jobs, Holds turn.2) ∧
      Holds (worker.processAll stats shift jobs).2 := by
  induction jobs generalizing shift stats with
  | nil => exact ⟨fun turn none => absurd none List.not_mem_nil, start⟩
  | cons job rest ih =>
    rcases worker.turns_cons shift job rest with ⟨last, ends⟩ | ⟨turns, goesOn⟩
    · rw [last] at preserved ⊢
      rw [ends]
      exact ⟨fun turn only => List.mem_singleton.mp only ▸ start,
        preserved _ (List.mem_singleton_self _) start⟩
    · rw [turns] at preserved ⊢
      obtain ⟨counted, same⟩ := goesOn stats
      obtain ⟨later, final⟩ := ih counted (preserved _ List.mem_cons_self start)
        (fun turn member => preserved turn (List.mem_cons_of_mem _ member))
      rw [same]
      refine ⟨fun turn member => ?_, final⟩
      rcases List.mem_cons.mp member with rfl | below
      · exact start
      · exact later turn below

/-- From a turn on a batch goes on like one that begins with what the turn leaves, unless the turn
was the last. -/
theorem turns_split (stats : PollStats) {shift : Shift σ} {jobs : List Job}
    {before after : List (Job × Shift σ)} {turn : Job × Shift σ}
    (split : worker.turns shift jobs = before ++ turn :: after) :
    (after = [] ∧ (worker.processAll stats shift jobs).2 = worker.afterTurn turn) ∨
      ∃ rest counted, jobs = before.map Prod.fst ++ turn.1 :: rest ∧
        after = worker.turns (worker.afterTurn turn) rest ∧
        worker.processAll stats shift jobs =
          worker.processAll counted (worker.afterTurn turn) rest := by
  induction jobs generalizing shift stats before with
  | nil => exact absurd split.symm (by simp [turns])
  | cons job rest ih =>
    rcases worker.turns_cons shift job rest with ⟨last, ends⟩ | ⟨turns, goesOn⟩
    · rw [last] at split
      cases before with
      | nil =>
        obtain ⟨rfl, rfl⟩ := List.cons.inj split
        exact .inl ⟨rfl, ends stats⟩
      | cons other before => exact absurd (List.cons.inj split).2.symm (by simp)
    · rw [turns] at split
      obtain ⟨counted, same⟩ := goesOn stats
      cases before with
      | nil =>
        obtain ⟨rfl, rfl⟩ := List.cons.inj split
        exact .inr ⟨rest, counted, rfl, rfl, same⟩
      | cons other before =>
        obtain ⟨rfl, later⟩ := List.cons.inj split
        rcases ih counted later with ⟨none, ends⟩ | ⟨rest, counted, parts, turns, ends⟩
        · exact .inl ⟨none, by rw [same, ends]⟩
        · exact .inr ⟨rest, counted, by rw [parts]; rfl, turns, by rw [same, ends]⟩

/-- What the turns before one preserve holds at that turn. -/
theorem holds_at_turn (Holds : Shift σ -> Prop) {shift : Shift σ} {jobs : List Job}
    {before after : List (Job × Shift σ)} {turn : Job × Shift σ}
    (split : worker.turns shift jobs = before ++ turn :: after) (start : Holds shift)
    (preserved : ∀ earlier ∈ before, Holds earlier.2 -> Holds (worker.afterTurn earlier)) :
    Holds turn.2 := by
  induction jobs generalizing shift before with
  | nil => exact absurd split.symm (by simp [turns])
  | cons job rest ih =>
    rcases worker.turns_cons shift job rest with ⟨last, -⟩ | ⟨turns, -⟩
    · rw [last] at split
      cases before with
      | nil =>
        obtain ⟨rfl, -⟩ := List.cons.inj split
        exact start
      | cons other before => exact absurd (List.cons.inj split).2.symm (by simp)
    · rw [turns] at split
      cases before with
      | nil =>
        obtain ⟨rfl, -⟩ := List.cons.inj split
        exact start
      | cons other before =>
        obtain ⟨rfl, later⟩ := List.cons.inj split
        obtain ⟨here, others⟩ := List.forall_mem_cons.mp preserved
        exact ih later (here start) others

/-- If no date is out of range in a batch, every job of it has its turn, and none in a turn. -/
theorem turns_jobs {shift : Shift σ} {jobs : List Job} {stats : PollStats}
    (inRange : (worker.processAll stats shift jobs).1 ≠ .error .overflow) :
    (worker.turns shift jobs).map Prod.fst = jobs ∧
      ∀ turn ∈ worker.turns shift jobs, turn.2.cancelled = false ->
        (worker.process turn.1 turn.2).1 ≠ .error .overflow := by
  induction jobs generalizing shift stats with
  | nil => exact ⟨rfl, fun turn none => absurd none List.not_mem_nil⟩
  | cons job rest ih =>
    cases working : shift.cancelled with
    | true =>
      rw [processAll_cancelled working] at inRange
      obtain ⟨jobs, others⟩ := ih inRange
      rw [turns_cancelled working, List.map_cons, jobs]
      refine ⟨rfl, List.forall_mem_cons.mpr ⟨fun idle => ?_, others⟩⟩
      exact nomatch working.symm.trans idle
    | false =>
      rcases worker.process_cases working job with ⟨-, ends, -⟩ | ⟨here, goesOn, turns⟩
      · rw [ends] at inRange
        exact absurd rfl inRange
      · rw [goesOn] at inRange
        obtain ⟨jobs, others⟩ := ih inRange
        rw [turns, List.map_cons, jobs]
        exact ⟨rfl, List.forall_mem_cons.mpr ⟨fun _ => here, others⟩⟩

/-- The jobs that have their turns are the first ones of the batch. -/
theorem turns_prefix (shift : Shift σ) (jobs : List Job) :
    (worker.turns shift jobs).map Prod.fst <+: jobs := by
  induction jobs generalizing shift with
  | nil => exact List.prefix_refl []
  | cons job rest ih =>
    rcases worker.turns_cons shift job rest with ⟨last, -⟩ | ⟨turns, -⟩
    · rw [last]
      exact (List.prefix_cons_inj job).mpr List.nil_prefix
    · rw [turns, List.map_cons]
      exact (List.prefix_cons_inj job).mpr (ih _)

end Turns

section InMemory

variable {worker : Worker Rehearsal} {shift : Shift Rehearsal} {job : Job} {id : Uuid}

theorem whereabouts_giveBack_other (source : worker.source = Rehearsal.jobSource)
    (apart : job.id ≠ id) :
    (worker.giveBack job shift).world.whereabouts id = shift.world.whereabouts id := by
  rw [giveBack, source]
  exact Rehearsal.whereabouts_fail_other apart _ _

/-- A job that is passed over is due again at once, or gone if its deliveries are used up. -/
theorem whereabouts_giveBack (source : worker.source = Rehearsal.jobSource)
    (here : shift.world.whereabouts job.id = [(.inFlight, job)]) :
    (worker.giveBack job shift).world.whereabouts job.id =
      Queue.handedBack job (worker.now shift.world) := by
  rw [giveBack, source]
  exact Rehearsal.whereabouts_fail here _ _

/-- Giving a job back does not put a cancelled worker to work again. -/
theorem giveBack_cancelled (source : worker.source = Rehearsal.jobSource) :
    (worker.giveBack job shift).cancelled = shift.cancelled := by
  rw [giveBack, source]
  simp only [Rehearsal.jobSource, Rehearsal.askQueue]
  cases shift.world.jobs <;> rfl

/-- Processing a job leaves the deliveries of others alone if its handler does. -/
theorem whereabouts_process_other (source : worker.source = Rehearsal.jobSource)
    (considerate : worker.handlers.Considerate) {other : Job} (apart : other.id ≠ job.id)
    (here : shift.world.whereabouts other.id = [(.inFlight, other)]) :
    (worker.process job shift).2.world.whereabouts other.id = [(.inFlight, other)] := by
  have kept := considerate job other shift apart here
  rcases worker.process_shift job shift with same | completed | ⟨detail, retryAt, failed⟩
  · rw [same]
    exact kept
  · rw [completed, source, Rehearsal.whereabouts_complete_other apart.symm]
    exact kept
  · rw [failed, source, Rehearsal.whereabouts_fail_other apart.symm]
    exact kept

/-- Once the worker has been cancelled, only the jobs of its batch are touched. -/
theorem whereabouts_processAll_cancelled (source : worker.source = Rehearsal.jobSource)
    (stats : PollStats) {jobs : List Job} (cancelled : shift.cancelled = true)
    (absent : id ∉ jobs.map Job.id) :
    (worker.processAll stats shift jobs).2.world.whereabouts id = shift.world.whereabouts id := by
  induction jobs generalizing shift with
  | nil => rfl
  | cons job rest ih =>
    rw [List.map_cons, List.mem_cons, not_or] at absent
    rw [processAll_cancelled cancelled, ih ((giveBack_cancelled source).trans cancelled) absent.2,
      whereabouts_giveBack_other source (Ne.symm absent.1)]

/-- A turn leaves the deliveries of other jobs alone. -/
theorem whereabouts_afterTurn_other (source : worker.source = Rehearsal.jobSource)
    (considerate : worker.handlers.Considerate) {other : Job} (apart : other.id ≠ job.id)
    (here : shift.world.whereabouts other.id = [(.inFlight, other)]) :
    (worker.afterTurn (job, shift)).world.whereabouts other.id = [(.inFlight, other)] := by
  unfold afterTurn
  split
  · exact (whereabouts_giveBack_other source apart.symm).trans here
  · exact whereabouts_process_other source considerate apart here

/-- The jobs of a batch that are passed over are handed back, as long as they are under way when
the batch begins. -/
theorem handedBack_processAll (source : worker.source = Rehearsal.jobSource)
    (considerate : worker.handlers.Considerate) (stats : PollStats) {jobs : List Job}
    (distinct : (jobs.map Job.id).Nodup)
    (underWay : ∀ job ∈ jobs, shift.world.whereabouts job.id = [(.inFlight, job)]) :
    ∀ turn ∈ worker.turns shift jobs, turn.2.cancelled = true ->
      (worker.processAll stats shift jobs).2.world.whereabouts turn.1.id =
        Queue.handedBack turn.1 (worker.now turn.2.world) := by
  induction jobs generalizing shift stats with
  | nil => exact fun turn none => absurd none List.not_mem_nil
  | cons job rest ih =>
    obtain ⟨apart, distinct⟩ := List.nodup_cons.mp distinct
    have here := underWay job List.mem_cons_self
    have others : ∀ other ∈ rest, other.id ≠ job.id := fun other later same =>
      apart (same ▸ List.mem_map_of_mem later)
    intro turn member passedOver
    rcases worker.turns_cons shift job rest with ⟨last, ends⟩ | ⟨turns, goesOn⟩
    · rw [last] at member
      obtain rfl := List.mem_singleton.mp member
      rw [ends, afterTurn, if_pos passedOver]
      exact whereabouts_giveBack source here
    · obtain ⟨counted, same⟩ := goesOn stats
      rw [turns] at member
      rw [same]
      rcases List.mem_cons.mp member with rfl | later
      · have given : worker.afterTurn (job, shift) = worker.giveBack job shift := if_pos passedOver
        rw [given, whereabouts_processAll_cancelled source counted
          ((giveBack_cancelled source).trans passedOver) apart]
        exact whereabouts_giveBack source here
      · refine ih counted distinct (fun other listed => ?_) turn later passedOver
        exact whereabouts_afterTurn_other source considerate (others other listed)
          (underWay other (List.mem_cons_of_mem _ listed))

/-- Whatever the state of a queue without repeated ids, the size of a batch, the clock and the
moment at which a considerate handler cancels the worker: a job that the worker fetched and passed
over is pending, due from the instant of its turn on, unless its deliveries are used up. Then it is
gone. -/
theorem passed_over {queue after : Queue} {maxAttempts : UInt32} {jobs : List Job}
    (source : worker.source = Rehearsal.jobSource) (considerate : worker.handlers.Considerate)
    (desk : shift.world.jobs = .queue queue maxAttempts) (distinct : queue.Distinct)
    (fetched : queue.fetchDue (worker.now shift.world) worker.batchSize = (.ok jobs, after)) :
    let begun := { shift with world := { shift.world with jobs := .queue after maxAttempts } }
    ∀ turn ∈ worker.turns begun jobs, turn.2.cancelled = true ->
      (worker.runOnce shift).2.world.whereabouts turn.1.id =
        if turn.1.exhausted then []
        else [(.pending, { turn.1 with runAt := worker.now turn.2.world })] := by
  intro begun
  have polled : worker.runOnce shift = worker.processAll .none begun jobs := by
    simp only [runOnce, source, Rehearsal.jobSource, Rehearsal.askQueue, desk, fetched]
    rfl
  obtain ⟨rfl, rfl⟩ := Queue.of_fetchDue_ok fetched
  rw [polled]
  exact handedBack_processAll source considerate .none (Queue.nodup_fetch distinct _ _)
    (Queue.whereabouts_fetch distinct _ _)

end InMemory

namespace Shutdown

/-- A job with a number, which may be delivered so many times. -/
def job (number : Nat) (maxAttempts : UInt32) : Job :=
  .new (.ofNat number) "kind" .null .epoch maxAttempts

/-- Three jobs that are due, the last of which may be delivered only once. -/
def queue : Queue := ⟨[job 1 2, job 2 2, job 3 1], [], Queue.usualLease⟩

/-- A worker that is cancelled by the first handler it calls. -/
def worker : Worker Rehearsal :=
  { source := Rehearsal.jobSource
    handlers :=
      Keyed.empty.insert "kind" (fun _ shift => (.ok (), { shift with cancelled := true }))
    now := Rehearsal.now
    batchSize := 3
    retryBase := 0 }

/-- The shift before the poll. -/
def shift : Shift Rehearsal :=
  ⟨{ Rehearsal.start .epoch .empty with jobs := .queue queue 2 }, false⟩

theorem distinct : queue.Distinct := by
  have apart : [Uuid.ofNat 1, Uuid.ofNat 2, Uuid.ofNat 3].Nodup := by decide
  exact apart

theorem considerate : worker.handlers.Considerate := by
  intro job other shift _ here
  have world : (worker.handlers.dispatch job shift).2.world = shift.world := by
    by_cases kind : "kind" = job.kind <;>
      simp [Handlers.dispatch, Keyed.get?, Keyed.insert, Keyed.insertEntry, Keyed.empty, worker,
        kind]
  rw [world]
  exact here

/-- The jobs as they are fetched. -/
def jobs : List Job := [(job 1 2).attempted, (job 2 2).attempted, (job 3 1).attempted]

/-- The queue after that. -/
def left : Queue := ⟨[], jobs.map (fun job => ⟨job, .epoch⟩), Queue.usualLease⟩

theorem fetched : queue.fetchDue (worker.now shift.world) worker.batchSize = (.ok jobs, left) := by
  rfl

/-- The shift after the jobs have been fetched. -/
def begun : Shift Rehearsal :=
  { shift with world := { shift.world with jobs := .queue left 2 } }

/-- The first job is handled; the others have their turns when the worker has been cancelled. -/
theorem turns_begun :
    (worker.turns begun jobs).map
        (fun turn => (turn.1, turn.2.cancelled, turn.2.world.now)) =
      [((job 1 2).attempted, false, .epoch), ((job 2 2).attempted, true, .epoch),
        ((job 3 1).attempted, true, .epoch)] := by rfl

/-- The job that is on its last delivery is nowhere after the poll. -/
theorem gone : (worker.runOnce shift).2.world.whereabouts (.ofNat 3) = [] := by rfl

end Shutdown

open Shutdown in
/-- The worker is cancelled with the first of three jobs; the second one is due again. -/
theorem passed_over_retried :
    (worker.runOnce shift).2.world.whereabouts (.ofNat 2) = [(.pending, (job 2 2).attempted)] := by
  have listed : ((job 2 2).attempted, true, Instant.epoch) ∈
      (worker.turns begun jobs).map
        (fun turn => (turn.1, turn.2.cancelled, turn.2.world.now)) := by
    rw [turns_begun]
    exact List.mem_cons_of_mem _ List.mem_cons_self
  obtain ⟨⟨turn, found⟩, member, same⟩ := List.mem_map.mp listed
  obtain ⟨rfl, cancelled, now⟩ := Prod.mk.inj same |>.imp_right Prod.mk.inj
  have passed := passed_over rfl considerate rfl distinct fetched _ member cancelled
  have due : worker.now found.world = .epoch := now
  rw [due] at passed
  exact passed

open Shutdown in
/-- Not every job that is passed over is delivered again: the third one was on its last delivery,
and it is lost without having been handled. -/
theorem not_passed_over :
    ¬ forall (worker : Worker Rehearsal) (shift : Shift Rehearsal) (queue after : Queue)
        (maxAttempts : UInt32) (jobs : List Job),
      worker.source = Rehearsal.jobSource -> worker.handlers.Considerate ->
      shift.world.jobs = .queue queue maxAttempts -> queue.Distinct ->
      queue.fetchDue (worker.now shift.world) worker.batchSize = (.ok jobs, after) ->
      let begun := { shift with world := { shift.world with jobs := .queue after maxAttempts } }
      ∀ turn ∈ worker.turns begun jobs, turn.2.cancelled = true ->
        (worker.runOnce shift).2.world.whereabouts turn.1.id =
          [(.pending, { turn.1 with runAt := worker.now turn.2.world })] := by
  intro law
  have listed : ((job 3 1).attempted, true, Instant.epoch) ∈
      (worker.turns begun jobs).map
        (fun turn => (turn.1, turn.2.cancelled, turn.2.world.now)) := by
    rw [turns_begun]
    exact List.mem_cons_of_mem _ (List.mem_cons_of_mem _ List.mem_cons_self)
  obtain ⟨⟨turn, found⟩, member, same⟩ := List.mem_map.mp listed
  obtain ⟨rfl, cancelled, -⟩ := Prod.mk.inj same |>.imp_right Prod.mk.inj
  have again := law worker shift queue left 2 jobs rfl considerate rfl distinct fetched _ member
    cancelled
  exact nomatch gone.symm.trans again

end Worker

end Outreach
