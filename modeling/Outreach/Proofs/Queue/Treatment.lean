import Outreach.Proofs.Queue.Handover

/-!
# What a poll does with its batch

A worker treats the jobs of its batch one after the other. `Worker.Treats` says, one constructor a
case, which calls that takes and on what grounds: a job is handled and then completed or failed, or
it is failed without having been handled. `Worker.Treated` strings the treatments of a batch
together, so that every call finds what the one before it left. A poll is such a string, whatever
handlers do and whatever the source answers, and its counters count it (`Worker.treated`).
-/

namespace Outreach

/-- What is done with a job of a batch, and what the source answers. -/
inductive Treatment where
  /-- The job was handled, and it was completed. -/
  | done (answer : Except QueueError Unit)
  /-- The job was handed to the handlers in vain, and it was failed. -/
  | failed (cause : QueueError) (retryAt : Instant) (answer : Except QueueError FailOutcome)
  /-- The worker had been cancelled: the job was failed without having been handled. -/
  | passedOver (retryAt : Instant) (answer : Except QueueError FailOutcome)

namespace Treatment

/-- Whether the source recorded that the job is done. -/
def isCompleted : Treatment -> Bool
  | .done (.ok _) => true
  | _ => false

/-- Whether the source recorded that the job is delivered again. -/
def isRetried : Treatment -> Bool
  | .failed _ _ (.ok (.retrying _ _)) => true
  | _ => false

/-- Whether the source recorded that the job is gone. -/
def isDropped : Treatment -> Bool
  | .failed _ _ (.ok (.dropped _)) => true
  | _ => false

/-- Whether the job was handled and the source could not record what came of it. -/
def isUnrecorded : Treatment -> Bool
  | .done (.error _) | .failed _ _ (.error _) => true
  | _ => false

/-- Whether the job was not handled. -/
def isPassedOver : Treatment -> Bool
  | .passedOver _ _ => true
  | _ => false

/-- What the source recorded of a job that was handled. -/
def recorded? : Treatment -> Option (Except QueueError (Option FailOutcome))
  | .done answer => some (answer.map (fun _ => none))
  | .failed _ _ answer => some (answer.map some)
  | .passedOver _ _ => none

end Treatment

namespace PollStats

/-- Counters count treatments on top of what they counted before. -/
structure Counts (before : PollStats) (treatments : List Treatment) (stats : PollStats) :
    Prop where
  completed : stats.completed = before.completed + treatments.countP Treatment.isCompleted
  retried : stats.retried = before.retried + treatments.countP Treatment.isRetried
  dropped : stats.dropped = before.dropped + treatments.countP Treatment.isDropped
  unrecorded : stats.unrecorded = before.unrecorded + treatments.countP Treatment.isUnrecorded

variable {before middle stats : PollStats} {treatment : Treatment} {treatments : List Treatment}

theorem Counts.nil (stats : PollStats) : stats.Counts [] stats := ⟨rfl, rfl, rfl, rfl⟩

/-- The counters with one more treatment: a job that was not handled is not counted. -/
def counting (stats : PollStats) (treatment : Treatment) : PollStats :=
  match treatment.recorded? with
  | some answer => stats.count answer
  | .none => stats

/-- A treatment is counted before the others. -/
theorem Counts.cons (rest : (before.counting treatment).Counts treatments stats) :
    before.Counts (treatment :: treatments) stats := by
  obtain ⟨completed, retried, dropped, unrecorded⟩ := rest
  have parts : (before.counting treatment).completed =
        before.completed + (if treatment.isCompleted then 1 else 0) ∧
      (before.counting treatment).retried =
        before.retried + (if treatment.isRetried then 1 else 0) ∧
      (before.counting treatment).dropped =
        before.dropped + (if treatment.isDropped then 1 else 0) ∧
      (before.counting treatment).unrecorded =
        before.unrecorded + (if treatment.isUnrecorded then 1 else 0) := by
    rcases treatment with (_ | _) | ⟨_, _, _ | _ | _⟩ | ⟨_, _⟩ <;> exact ⟨rfl, rfl, rfl, rfl⟩
  constructor <;> rw [List.countP_cons] <;> omega

/-- Every treatment is counted once, or its job was not handled. -/
theorem Counts.processed (counts : before.Counts treatments stats) :
    stats.processed + treatments.countP Treatment.isPassedOver =
      before.processed + treatments.length := by
  have once : forall treatments : List Treatment,
      treatments.countP Treatment.isCompleted + treatments.countP Treatment.isRetried +
          treatments.countP Treatment.isDropped + treatments.countP Treatment.isUnrecorded +
          treatments.countP Treatment.isPassedOver = treatments.length := by
    intro treatments
    induction treatments with
    | nil => rfl
    | cons treatment rest ih =>
      simp only [List.countP_cons, List.length_cons]
      rcases treatment with (_ | _) | ⟨_, _, _ | _ | _⟩ | ⟨_, _⟩ <;>
        simp only [Treatment.isCompleted, Treatment.isRetried, Treatment.isDropped,
          Treatment.isUnrecorded, Treatment.isPassedOver, Bool.false_eq_true, if_true, if_false] <;>
        omega
  have all := once treatments
  obtain ⟨completed, retried, dropped, unrecorded⟩ := counts
  unfold PollStats.processed
  omega

end PollStats

namespace Worker

section Poll

variable {σ : Type} {worker : Worker σ}

/-- The instant that lies the delay of a job after an instant, if the delay can be counted and the
instant has a date. -/
def delayed? (worker : Worker σ) (job : Job) (now : Instant) : Option Instant :=
  (Delay.afterAttempts? worker.retryBase job.attempts).bind
    (fun delay => (Span.ofNanoseconds? delay).bind now.add?)

/-- A delay after which there is a date is a span of time. -/
theorem retryAt?_of_delayed? {job : Job} {now retryAt : Instant}
    (delayed : worker.delayed? job now = some retryAt) :
    worker.retryAt? job now = some retryAt := by
  obtain ⟨delay, counted, later⟩ := Option.bind_eq_some_iff.mp delayed
  obtain ⟨span, short, added⟩ := Option.bind_eq_some_iff.mp later
  rw [retryAt?, counted, Option.bind_some, Delay.toSpan, short]
  exact added

/-- The treatment of one job: the calls that are made, and no others. -/
inductive Treats (worker : Worker σ) (job : Job) (before : Shift σ) :
    Treatment -> Shift σ -> Prop where
  | done {handled after : Shift σ} {answer : Except QueueError Unit}
      (working : before.cancelled = false)
      (handling : worker.handlers.dispatch job before = (.ok (), handled))
      (recording : worker.source.complete job.id handled = (answer, after)) :
      Treats worker job before (.done answer) after
  | failed {handled after : Shift σ} {cause : QueueError} {retryAt : Instant}
      {answer : Except QueueError FailOutcome}
      (working : before.cancelled = false)
      (handling : worker.handlers.dispatch job before = (.error cause, handled))
      (delayed : worker.delayed? job (worker.now handled.world) = some retryAt)
      (recording : worker.source.fail job.id cause.message retryAt handled = (answer, after)) :
      Treats worker job before (.failed cause retryAt answer) after
  | passedOver {after : Shift σ} {answer : Except QueueError FailOutcome}
      (cancelled : before.cancelled = true)
      (recording : worker.source.fail job.id "worker shutting down" (worker.now before.world)
        before = (answer, after)) :
      Treats worker job before (.passedOver (worker.now before.world) answer) after

/-- The treatments of the jobs of a batch, one after the other. -/
inductive Treated (worker : Worker σ) :
    Shift σ -> List Job -> List Treatment -> Shift σ -> Prop where
  | nil {shift : Shift σ} : Treated worker shift [] [] shift
  | cons {before between after : Shift σ} {job : Job} {jobs : List Job} {treatment : Treatment}
      {treatments : List Treatment}
      (first : worker.Treats job before treatment between)
      (rest : Treated worker between jobs treatments after) :
      Treated worker before (job :: jobs) (treatment :: treatments) after

/-- Handlers and the source always answer, and go on after it. -/
structure Answers (worker : Worker σ) : Prop where
  dispatch : forall job shift, (worker.handlers.dispatch job shift).1 ≠ .error .overflow
  complete : forall id shift, (worker.source.complete id shift).1 ≠ .error .overflow
  fail : forall id detail retryAt shift,
    (worker.source.fail id detail retryAt shift).1 ≠ .error .overflow

/-- Neither handlers nor the source cancel the worker. -/
structure Undisturbed (worker : Worker σ) : Prop where
  dispatch : forall job shift, shift.cancelled = false ->
    (worker.handlers.dispatch job shift).2.cancelled = false
  complete : forall id shift, shift.cancelled = false ->
    (worker.source.complete id shift).2.cancelled = false
  fail : forall id detail retryAt shift, shift.cancelled = false ->
    (worker.source.fail id detail retryAt shift).2.cancelled = false

variable {shift : Shift σ} {jobs : List Job}

/-- A job that is passed over is given back. -/
theorem treats_giveBack (cancelled : shift.cancelled = true) (job : Job) :
    ∃ answer, worker.Treats job shift (.passedOver (worker.now shift.world) answer)
      (worker.giveBack job shift) :=
  ⟨_, .passedOver cancelled rfl⟩

theorem process_done {job : Job} {handled : Shift σ}
    (handling : worker.handlers.dispatch job shift = (.ok (), handled)) :
    worker.process job shift =
      ((worker.source.complete job.id handled).1.map (fun _ => none),
        (worker.source.complete job.id handled).2) := by
  rw [process, handling]

theorem process_failed {job : Job} {handled : Shift σ} {cause : QueueError} {retryAt : Instant}
    (handling : worker.handlers.dispatch job shift = (.error cause, handled))
    (goesOn : cause ≠ .overflow)
    (delayed : worker.delayed? job (worker.now handled.world) = some retryAt) :
    worker.process job shift =
      ((worker.source.fail job.id cause.message retryAt handled).1.map some,
        (worker.source.fail job.id cause.message retryAt handled).2) := by
  rw [process, handling]
  cases cause with
  | overflow => exact absurd rfl goesOn
  | _ => simp only [retryAt?_of_delayed? delayed]

/-- A job whose delay leads to a date is treated as it is processed, and the answer is that of the
source. -/
theorem treats_process (answers : worker.Answers) (working : shift.cancelled = false) {job : Job}
    (inRange : (worker.delayed? job
      (worker.now (worker.handlers.dispatch job shift).2.world)).isSome = true) :
    ∃ treatment, worker.Treats job shift treatment (worker.process job shift).2 ∧
      treatment.recorded? = some (worker.process job shift).1 ∧
      (worker.process job shift).1 ≠ .error .overflow := by
  have goesOn := answers.dispatch job shift
  have mapped : forall {α : Type} {answer : Except QueueError α} {report : α -> Option FailOutcome},
      answer ≠ .error .overflow -> answer.map report ≠ .error .overflow := by
    intro α answer report recorded
    cases answer with
    | ok => exact nofun
    | error cause => exact fun ends => recorded (congrArg Except.error (Except.error.inj ends))
  cases handling : worker.handlers.dispatch job shift with
  | mk result handled =>
    rw [handling] at goesOn inRange
    cases result with
    | ok =>
      rw [process_done handling]
      exact ⟨_, .done working handling rfl, rfl, mapped (answers.complete job.id handled)⟩
    | error cause =>
      obtain ⟨retryAt, delayed⟩ := Option.isSome_iff_exists.mp inRange
      rw [process_failed handling (fun ends => goesOn (ends ▸ rfl)) delayed]
      exact ⟨_, .failed working handling delayed rfl, rfl,
        mapped (answers.fail job.id cause.message retryAt handled)⟩

/-- The jobs of a batch are treated one after the other, and the counters count the treatments. -/
theorem treated_processAll (answers : worker.Answers)
    (inRange : ∀ turn ∈ worker.turns shift jobs, turn.2.cancelled = false ->
      (worker.delayed? turn.1
        (worker.now (worker.handlers.dispatch turn.1 turn.2).2.world)).isSome = true)
    (before : PollStats) :
    ∃ treatments stats final, worker.processAll before shift jobs = (.ok stats, final) ∧
      worker.Treated shift jobs treatments final ∧ before.Counts treatments stats := by
  induction jobs generalizing shift before with
  | nil => exact ⟨[], before, shift, rfl, .nil, .nil before⟩
  | cons job rest ih =>
    cases working : shift.cancelled with
    | true =>
      rw [turns_cancelled working] at inRange
      obtain ⟨treatments, stats, final, same, treated, counts⟩ :=
        ih (fun turn later => inRange turn (List.mem_cons_of_mem _ later)) before
      obtain ⟨answer, treats⟩ := worker.treats_giveBack working job
      rw [processAll_cancelled working]
      refine ⟨_, stats, final, same, .cons treats treated, .cons ?_⟩
      exact counts
    | false =>
      have here : (job, shift) ∈ worker.turns shift (job :: rest) := by
        rw [turns]
        exact List.mem_cons_self
      obtain ⟨treatment, treats, recorded, goesOn⟩ :=
        treats_process answers working (inRange (job, shift) here working)
      rcases worker.process_cases working job with ⟨ends, -⟩ | ⟨-, processed, turns⟩
      · exact absurd ends goesOn
      rw [turns] at inRange
      obtain ⟨treatments, stats, final, same, treated, counts⟩ :=
        ih (fun turn later => inRange turn (List.mem_cons_of_mem _ later))
          (before.count (worker.process job shift).1)
      rw [processed]
      refine ⟨_, stats, final, same, .cons treats treated, .cons ?_⟩
      rwa [PollStats.counting, recorded]

/-- A treatment for every job. -/
theorem Treated.length_eq {treatments : List Treatment} {after : Shift σ}
    (treated : worker.Treated shift jobs treatments after) : treatments.length = jobs.length := by
  induction treated with
  | nil => rfl
  | cons _ _ ih => rw [List.length_cons, List.length_cons, ih]

/-- A treatment does not cancel a worker that nobody disturbs. -/
theorem Treats.working {job : Job} {before after : Shift σ} {treatment : Treatment}
    (undisturbed : worker.Undisturbed) (treats : worker.Treats job before treatment after)
    (working : before.cancelled = false) :
    treatment.isPassedOver = false ∧ after.cancelled = false := by
  cases treats with
  | done _ handling recording =>
    have handled := undisturbed.dispatch job before working
    rw [handling] at handled
    have recorded := undisturbed.complete job.id _ handled
    rw [recording] at recorded
    exact ⟨rfl, recorded⟩
  | @failed _ _ cause retryAt _ _ handling _ recording =>
    have handled := undisturbed.dispatch job before working
    rw [handling] at handled
    have recorded := undisturbed.fail job.id cause.message retryAt _ handled
    rw [recording] at recorded
    exact ⟨rfl, recorded⟩
  | passedOver cancelled _ => exact absurd (working.symm.trans cancelled) Bool.false_ne_true

/-- A worker that nobody disturbs passes no job over. -/
theorem Treated.none_passedOver {treatments : List Treatment} {before after : Shift σ}
    (undisturbed : worker.Undisturbed) (treated : worker.Treated before jobs treatments after)
    (working : before.cancelled = false) :
    ∀ treatment ∈ treatments, treatment.isPassedOver = false := by
  induction treated with
  | nil => exact fun treatment none => absurd none List.not_mem_nil
  | cons first _ ih =>
    obtain ⟨handled, still⟩ := first.working undisturbed working
    exact List.forall_mem_cons.mpr ⟨handled, ih still⟩

/-- Whatever the source and the handlers do, as long as they answer and the delays lead to dates: a
poll treats every job that was fetched once, in the order in which they were fetched. A job that is
handled is completed, and nothing else, if its handler succeeds, and is failed once, due after its
delay, if not; one that is passed over, which takes a cancelled worker, is failed once, due at once.
The counters count what the source recorded of the jobs that were handled. -/
theorem treated (answers : worker.Answers) {begun : Shift σ}
    (fetched : worker.source.fetchDue (worker.now shift.world) worker.batchSize shift =
      (.ok jobs, begun))
    (inRange : ∀ turn ∈ worker.turns begun jobs, turn.2.cancelled = false ->
      (worker.delayed? turn.1
        (worker.now (worker.handlers.dispatch turn.1 turn.2).2.world)).isSome = true) :
    ∃ treatments stats final, worker.runOnce shift = (.ok stats, final) ∧
      worker.Treated begun jobs treatments final ∧
      stats.completed = treatments.countP Treatment.isCompleted ∧
      stats.retried = treatments.countP Treatment.isRetried ∧
      stats.dropped = treatments.countP Treatment.isDropped ∧
      stats.unrecorded = treatments.countP Treatment.isUnrecorded ∧
      stats.processed + treatments.countP Treatment.isPassedOver = jobs.length ∧
      (worker.Undisturbed -> begun.cancelled = false ->
        (∀ treatment ∈ treatments, treatment.isPassedOver = false) ∧
          stats.processed = jobs.length) := by
  obtain ⟨treatments, stats, final, same, treated, counts⟩ :=
    treated_processAll answers inRange .none
  have polled : worker.runOnce shift = (.ok stats, final) := by
    rw [runOnce, fetched]
    exact same
  have processed := counts.processed
  rw [treated.length_eq, show PollStats.none.processed = 0 from rfl, Nat.zero_add] at processed
  obtain ⟨completed, retried, dropped, unrecorded⟩ := counts
  simp only [PollStats.none, Nat.zero_add] at completed retried dropped unrecorded
  refine ⟨treatments, stats, final, polled, treated, completed, retried, dropped, unrecorded,
    processed, fun undisturbed working => ?_⟩
  have handled := treated.none_passedOver undisturbed working
  rw [List.countP_eq_zero.mpr (by simpa using handled), Nat.add_zero] at processed
  exact ⟨handled, processed⟩

end Poll

namespace Faulty

/-- A job with a number that has begun its first delivery. -/
def job (number : Nat) (kind : String) : Job :=
  (Job.new (.ofNat number) kind .null .epoch 3).attempted

/-- A job that is done, one whose end cannot be recorded, one whose handler fails, and one without a
handler. -/
def jobs : List Job := [job 1 "sound", job 2 "sound", job 3 "broken", job 4 "unknown"]

/-- A source that cannot record that the second job is done. -/
def source : JobSource Unit :=
  { fetchDue := fun _ _ shift => (.ok jobs, shift)
    complete := fun id shift =>
      (if id = .ofNat 2 then .error (.source "gone") else .ok (), shift)
    fail := fun _ _ retryAt shift => (.ok (.retrying 1 retryAt), shift) }

/-- What does the jobs that can be done. -/
def sound : Handler Unit := fun _ shift => (.ok (), shift)

/-- What does not get its jobs done. -/
def broken : Handler Unit := fun job shift => (.error (.handler job.kind "boom"), shift)

def worker : Worker Unit :=
  { source
    handlers := (Keyed.empty.insert "sound" sound).insert "broken" broken
    now := fun _ => .epoch
    batchSize := 4
    retryBase := 1000000000 }

/-- The shift at work. -/
def shift : Shift Unit := ⟨(), false⟩

theorem dispatch_eq (job : Job) (shift : Shift Unit) :
    worker.handlers.dispatch job shift =
      (if job.kind = "broken" then .error (.handler job.kind "boom")
        else if job.kind = "sound" then .ok ()
        else .error (.unknownKind job.kind), shift) := by
  have entries : worker.handlers.entries = [("broken", broken), ("sound", sound)] := by rfl
  simp only [Handlers.dispatch, Keyed.get?, entries, List.find?]
  by_cases broken : "broken" = job.kind
  · simp [broken, Faulty.broken]
  · by_cases sound : "sound" = job.kind
    · simp [← sound, Faulty.sound]
    · simp [broken, sound, Ne.symm broken, Ne.symm sound]

theorem answers : worker.Answers where
  dispatch job shift := by
    rw [dispatch_eq]
    split
    · exact nofun
    · split <;> exact nofun
  complete id shift := by
    simp only [worker, source]
    split <;> exact nofun
  fail _ _ _ _ := nofun

theorem keepsWorking : worker.Undisturbed where
  dispatch job shift working := by rw [dispatch_eq]; exact working
  complete _ _ working := working
  fail _ _ _ _ working := working

theorem delayed : ∀ job ∈ jobs, (worker.delayed? job .epoch).isSome = true := by decide

theorem inRange : ∀ turn ∈ worker.turns shift jobs, turn.2.cancelled = false ->
    (worker.delayed? turn.1
      (worker.now (worker.handlers.dispatch turn.1 turn.2).2.world)).isSome = true :=
  fun turn member _ => delayed turn.1
    ((worker.turns_prefix shift jobs).subset (List.mem_map_of_mem member))

end Faulty

open Faulty in
/-- An end that cannot be recorded does not keep the worker from the jobs after it. -/
theorem treated_faulty :
    ∃ treatments stats final, worker.runOnce shift = (.ok stats, final) ∧
      worker.Treated shift jobs treatments final ∧ stats.processed = 4 := by
  have fetched : worker.source.fetchDue (worker.now shift.world) worker.batchSize shift =
      (.ok jobs, shift) := rfl
  obtain ⟨treatments, stats, final, polled, treated, -, -, -, -, -, all⟩ :=
    treated answers fetched inRange
  exact ⟨treatments, stats, final, polled, treated, (all keepsWorking rfl).2⟩

end Worker

end Outreach
