import Outreach.Proofs.Document.Continuation
import Outreach.Proofs.History.Occurrence

/-!
# Runs that have nothing to do with a contact

A context gets its contact from whoever starts the run, from the continuation that the run resumes,
or from the catalog. A run that is *parted* from a contact stays parted as long as the catalog lacks
the contact, and hands over no continuation that brings it back; a run that unregisters the contact
parts from it. What holds of one run holds of the batches of a worker and of whole histories, but
for the jobs that were there before.
-/

namespace Outreach

/-- No contact of a catalog has an id. -/
def Catalog.Lacks (catalog : Catalog) (contactId : ContactId) : Prop :=
  ∀ entry ∈ catalog.contacts.entries, entry.2.id ≠ some contactId

/-- The context that is restored from a payload has the contact with an id, and not as deleted. -/
def Revives (contactId : ContactId) (payload : Json) : Prop :=
  ∃ continuation project, Continuation.decode payload = .ok continuation ∧
    (Context.ofSnapshot continuation.snapshot project).liveContactId = some contactId

/-- No queued job brings a contact back, but for the known ones. -/
def Rehearsal.Clear (contactId : ContactId) (known : List Uuid) (world : Rehearsal) : Prop :=
  ∀ work ∈ world.works, work.1 ∈ known ∨ ¬ Revives contactId work.2.2.1

/-- A run that has nothing to do with a contact, and neither have the queued jobs, but for the
known ones. -/
structure Run.Parted (contactId : ContactId) (known : List Uuid) (run : Run Rehearsal) : Prop where
  context : run.context.liveContactId ≠ some contactId
  world : run.world.Clear contactId known

section

variable {contactId : ContactId} {known : List Uuid} {world next : Rehearsal}

theorem Rehearsal.Clear.of_subset (clear : world.Clear contactId known)
    (fewer : next.works ⊆ world.works) : next.Clear contactId known :=
  fun work listed => clear work (fewer listed)

theorem Rehearsal.Quiet.works (quiet : world.Quiet next) : next.works = world.works := by
  unfold Rehearsal.works
  rw [quiet.jobs]

/-- The live contact of a context is told by its contact and what the run did to it. -/
theorem Context.liveContactId_congr {context other : Context}
    (contact : other.contact = context.contact)
    (state : other.contactState = context.contactState) :
    other.liveContactId = context.liveContactId := by
  unfold Context.liveContactId Context.contactDeleted Context.contactId
  rw [contact, state]

theorem Context.liveContactId_deleted {context : Context}
    (state : context.contactState = .deleted) : context.liveContactId = none := by
  simp [Context.liveContactId, Context.contactDeleted, state]

/-- Of the jobs after a continuation has been handed over only the new one is about something new:
the continuation. -/
theorem Rehearsal.works_schedule (runAt : Instant) (continuation : Continuation)
    (world : Rehearsal) :
    ∀ work ∈ (schedule runAt continuation world).2.works,
      work ∈ world.works ∨ work.2.2.1 = continuation.toJson := by
  intro work listed
  unfold schedule Faults.answer at listed
  cases fault : world.faults.lookup .schedule with
  | some cause =>
    rw [fault] at listed
    exact .inl listed
  | none =>
    rw [fault] at listed
    cases desk : world.jobs with
    | notes jobs refuseNext =>
      rw [desk] at listed
      cases refuseNext <;> exact absurd listed List.not_mem_nil
    | queue queue maxAttempts =>
      rw [desk] at listed
      rcases List.mem_cons.mp ((Queue.works_push _ _).subset listed) with rfl | before
      · exact .inr rfl
      · exact .inl (by rw [Rehearsal.works, desk]; exact before)

/-- What a context without a contact hands over does not bring the contact back. -/
theorem not_revives {context : Context} (parted : context.liveContactId ≠ some contactId) :
    ¬ Revives contactId (Steps.continuationOf context).toJson := by
  rintro ⟨continuation, project, decoded, revived⟩
  cases (Continuation.reads_decode _).symm.trans decoded
  exact parted revived

variable {lifetime : Span} {maxDepth : Nat}

/-- A visit after which the catalog lacks a contact brings no run to the contact. -/
theorem Run.Parted.visit {run : Run Rehearsal} (parted : run.Parted contactId known)
    (action : Action) (depth : Nat)
    (lacks : ((Executor.standard lifetime maxDepth).visit action depth run).2.world.catalog.Lacks
      contactId) :
    ((Executor.standard lifetime maxDepth).visit action depth run).2.Parted contactId known := by
  rcases Executor.visit_cases lifetime maxDepth action depth run with
    ⟨outcome, kept, -⟩ | ⟨-, cancelled⟩ | ⟨-, taken⟩
  · rw [kept]
    exact parted
  · rw [cancelled]
    exact ⟨parted.context, parted.world⟩
  · rw [taken] at lacks ⊢
    cases (Executor.sound_stepOf lifetime action run).effect with
    | quiet contact state quiet =>
      refine ⟨?_, parted.world.of_subset (quiet.works ▸ List.Subset.refl _)⟩
      rw [Context.liveContactId_congr contact state]
      exact parted.context
    | stored contact held filed alive quiet =>
      obtain ⟨key, filed⟩ := filed
      refine ⟨?_, parted.world.of_subset (quiet.works ▸ List.Subset.refl _)⟩
      have other := lacks _ filed
      simpa [Context.liveContactId, Context.contactDeleted, Context.contactId, held, alive]
        using other
    | removed state quiet =>
      refine ⟨?_, parted.world.of_subset (quiet.works ▸ List.Subset.refl _)⟩
      rw [Context.liveContactId_deleted state]
      nofun
    | deferred runAt same handed =>
      refine ⟨?_, ?_⟩
      · rw [same]
        exact parted.context
      · intro work listed
        rw [← handed] at listed
        rcases Rehearsal.works_schedule _ _ _ work listed with before | new
        · exact parted.world work before
        · rw [new]
          exact .inr (not_revives parted.context)

/-- A run that is parted from a contact stays so if no contact with its id is stored. -/
theorem Run.Parted.loop {run : Run Rehearsal} (parted : run.Parted contactId known)
    (stack : List Executor.Pending) (first : Option Outcome)
    (unstored : ∀ arrival ∈ (Executor.standard lifetime maxDepth).arrivals stack run,
      (arrival.visit (Executor.standard lifetime maxDepth)).2.world.catalog.Lacks contactId) :
    (∀ arrival ∈ (Executor.standard lifetime maxDepth).arrivals stack run,
        arrival.run.Parted contactId known) ∧
      ((Executor.standard lifetime maxDepth).loop stack first run).2.Parted contactId known :=
  Executor.loop_preserves (Run.Parted contactId known) parted (fun arrival member here =>
    here.visit arrival.action arrival.depth (unstored arrival member))

/-- Whatever the source is told of a job, no other work gets into the queue. -/
theorem Rehearsal.Told.works {id : Uuid} {before after : Shift Rehearsal}
    (told : Rehearsal.Told id before after) : after.world.works ⊆ before.world.works := by
  rcases told with rfl | rfl | ⟨detail, retryAt, rfl⟩
  · exact List.Subset.refl _
  · exact Rehearsal.works_complete id
  · exact Rehearsal.works_fail id detail retryAt

/-- An outing of a batch that no known job resumes and that was not queued for the contact is parted
from it. -/
theorem turnOuting?_parted {turn : Job × Shift Rehearsal} {tree : Action} {start : Run Rehearsal}
    (resumed : turnOuting? lifetime turn = some (tree, start))
    (clear : turn.2.world.Clear contactId known)
    (foreign : turn.1.id ∈ known ∨ ¬ Revives contactId turn.1.payload)
    (unrevived : turn.1.id ∈ known -> start.context.liveContactId ≠ some contactId) :
    start.Parted contactId known := by
  obtain ⟨continuation, project, decoded, rfl⟩ := turnOuting?_some lifetime resumed
  refine ⟨?_, clear⟩
  rcases foreign with before | apart
  · exact unrevived before
  · exact fun live => apart ⟨continuation, project, decoded, live⟩

variable {batchSize retryBase : Nat}

/-- A batch of jobs that do not bring a contact back has nothing to do with it, and neither have the
jobs that it queues. -/
theorem turns_parted {shift : Shift Rehearsal} {jobs : List Job} (stats : PollStats)
    (clear : shift.world.Clear contactId known)
    (foreign : ∀ turn ∈ (continuationWorker lifetime maxDepth batchSize retryBase).turns shift jobs,
      turn.1.id ∈ known ∨ ¬ Revives contactId turn.1.payload)
    (unrevived : ∀ outing ∈ turnOutings lifetime
        ((continuationWorker lifetime maxDepth batchSize retryBase).turns shift jobs),
      (∀ job ∈ outing.job, job.id ∈ known) -> outing.start.context.liveContactId ≠ some contactId)
    (unstored : ∀ outing ∈ turnOutings lifetime
        ((continuationWorker lifetime maxDepth batchSize retryBase).turns shift jobs),
      ∀ arrival ∈ outing.arrivals (Executor.standard lifetime maxDepth),
        (arrival.visit (Executor.standard lifetime maxDepth)).2.world.catalog.Lacks contactId) :
    (∀ outing ∈ turnOutings lifetime
        ((continuationWorker lifetime maxDepth batchSize retryBase).turns shift jobs),
      ∀ arrival ∈ outing.arrivals (Executor.standard lifetime maxDepth),
        arrival.run.Parted contactId known) ∧
      ((continuationWorker lifetime maxDepth batchSize retryBase).processAll stats shift
        jobs).2.world.Clear contactId known := by
  have parted : ∀ turn ∈
        (continuationWorker lifetime maxDepth batchSize retryBase).turns shift jobs,
      turn.2.world.Clear contactId known -> forall tree start,
        turnOuting? lifetime turn = some (tree, start) -> start.Parted contactId known := by
    intro turn member clear tree start resumed
    obtain ⟨waiting, listed⟩ := outing_mem_turnOutings lifetime member resumed
    refine turnOuting?_parted resumed clear (foreign turn member) (fun before => ?_)
    exact unrevived _ listed (fun job same => Option.some.inj same ▸ before)
  obtain ⟨allClear, final⟩ := Worker.processAll_preserves
    (fun shift : Shift Rehearsal => shift.world.Clear contactId known) stats clear (by
      intro turn member clear
      rcases afterTurn_cases lifetime maxDepth batchSize retryBase turn with
        ⟨-, told⟩ | ⟨tree, start, resumed, told⟩
      · exact clear.of_subset told.works
      · obtain ⟨waiting, listed⟩ := outing_mem_turnOutings lifetime member resumed
        have after := ((parted turn member clear tree start resumed).loop [(tree, 0)] none
          (unstored _ listed)).2
        exact after.world.of_subset told.works)
  refine ⟨fun outing member => ?_, final⟩
  obtain ⟨turn, listed, resumed, -⟩ := mem_turnOutings lifetime member
  exact ((parted turn listed (allClear turn listed) _ _ resumed).loop _ none (unstored _ member)).1

/-- What happens once a contact is gone has nothing to do with it, as long as no known job and no
context that somebody starts with brings it back. -/
theorem Occurrence.parted (occurrence : Occurrence) (clear : world.Clear contactId known)
    (unrevived : ∀ outing ∈ occurrence.outings lifetime maxDepth world,
      (∀ job ∈ outing.job, job.id ∈ known) -> outing.start.context.liveContactId ≠ some contactId)
    (unstored : ∀ outing ∈ occurrence.outings lifetime maxDepth world,
      ∀ arrival ∈ outing.arrivals (Executor.standard lifetime maxDepth),
        (arrival.visit (Executor.standard lifetime maxDepth)).2.world.catalog.Lacks contactId) :
    (∀ outing ∈ occurrence.outings lifetime maxDepth world,
      ∀ arrival ∈ outing.arrivals (Executor.standard lifetime maxDepth),
        arrival.run.Parted contactId known) ∧
      (occurrence.after lifetime maxDepth world).Clear contactId known := by
  cases occurrence with
  | run tree context cancelled =>
    have only := List.mem_singleton_self (Outing.mk tree ⟨context, world, cancelled⟩ none [])
    have start : Run.Parted contactId known ⟨context, world, cancelled⟩ :=
      ⟨unrevived _ only (fun _ absent => nomatch absent), clear⟩
    obtain ⟨all, final⟩ := start.loop [(tree, 0)] none (unstored _ only)
    refine ⟨fun outing member => ?_, final.world⟩
    rw [List.mem_singleton.mp member]
    exact all
  | poll batchSize retryBase cancelled =>
    obtain ⟨handed, left⟩ := Rehearsal.works_fetch world.now batchSize ⟨world, cancelled⟩
    rcases poll_cases lifetime maxDepth batchSize retryBase cancelled world with
      ⟨turns, polled⟩ | ⟨none, broken⟩
    · simp only [outings, turns] at unrevived unstored ⊢
      simp only [after, polled]
      refine turns_parted .none (clear.of_subset left) (fun turn member => ?_) unrevived unstored
      have inBatch := (Worker.turns_prefix _ _).subset (List.mem_map_of_mem member)
      exact clear _ (handed turn.1 inBatch)
    · simp only [outings, none, after, broken]
      exact ⟨fun outing member => absurd member List.not_mem_nil, clear.of_subset left⟩
  | change now catalog faults => exact ⟨fun outing none => absurd none List.not_mem_nil, clear⟩

/-- So has a whole history. -/
theorem Occurrence.allParted (history : List Occurrence) (clear : world.Clear contactId known)
    (unrevived : ∀ outing ∈ allOutings lifetime maxDepth world history,
      (∀ job ∈ outing.job, job.id ∈ known) -> outing.start.context.liveContactId ≠ some contactId)
    (unstored : ∀ outing ∈ allOutings lifetime maxDepth world history,
      ∀ arrival ∈ outing.arrivals (Executor.standard lifetime maxDepth),
        (arrival.visit (Executor.standard lifetime maxDepth)).2.world.catalog.Lacks contactId) :
    ∀ outing ∈ allOutings lifetime maxDepth world history,
      ∀ arrival ∈ outing.arrivals (Executor.standard lifetime maxDepth),
        arrival.run.Parted contactId known := by
  induction history generalizing world with
  | nil => exact fun outing none => absurd none List.not_mem_nil
  | cons occurrence rest ih =>
    obtain ⟨here, after⟩ := occurrence.parted clear
      (fun outing member => unrevived outing (List.mem_append_left _ member))
      (fun outing member => unstored outing (List.mem_append_left _ member))
    have later := ih after (fun outing member => unrevived outing (List.mem_append_right _ member))
      (fun outing member => unstored outing (List.mem_append_right _ member))
    intro outing member
    rcases List.mem_append.mp member with first | last
    · exact here outing first
    · exact later outing last

/-- What remains of an outing after a visit that parts it from a contact. -/
theorem Outing.parted {outing : Outing} {before after : List (Arrival Rehearsal)}
    {arrival : Arrival Rehearsal}
    (split : outing.arrivals (Executor.standard lifetime maxDepth) = before ++ arrival :: after)
    (parted : (arrival.visit (Executor.standard lifetime maxDepth)).2.Parted contactId known)
    (unstored : ∀ next ∈ after,
      (next.visit (Executor.standard lifetime maxDepth)).2.world.catalog.Lacks contactId) :
    (∀ next ∈ after, next.run.Parted contactId known) ∧
      ((Executor.standard lifetime maxDepth).execute outing.tree outing.start).2.Parted contactId
        known := by
  obtain ⟨-, ⟨fault, -, rfl, ends⟩ | ⟨outcome, rest, held, -, rfl, ends⟩⟩ :=
    Executor.arrivals_split none split
  · rw [Executor.execute, ends]
    exact ⟨fun next none => absurd none List.not_mem_nil, parted⟩
  · rw [Executor.execute, ends]
    exact parted.loop rest held unstored

/-- A step that unregisters the contact of its run leaves it as deleted. -/
theorem Steps.unregister_deletes {σ : Type} {services : Services σ} {context : Context} {world : σ}
    {outcome : Outcome} (answered : (unregister services context world).outcome = .ok outcome)
    (success : outcome.isSuccess = true) :
    (unregister services context world).context.contactState = .deleted := by
  unfold unregister at answered ⊢
  cases live : context.liveContactId with
  | none =>
    simp only [live, StepResult.finish] at answered
    cases answered
    cases success
  | some id =>
    simp only [live] at answered ⊢
    generalize services.removeContact context.project.id id world = reply at answered ⊢
    obtain ⟨answer, after⟩ := reply
    rcases answer with cause | done
    · cases cause <;> cases answered <;> cases success
    · rfl

/-- A visit succeeds only if its step does. -/
theorem Executor.absorb_success {answer : Except StepFault Outcome} {outcome : Outcome}
    (absorbed : absorb answer = .ok outcome) (success : outcome.isSuccess = true) :
    answer = .ok outcome := by
  rcases answer with (_ | cause | _) | other
  · cases absorbed
  · cases absorbed
    cases success
  · cases absorbed
  · cases absorbed
    rfl

theorem Arrival.unregister_deletes {arrival : Arrival Rehearsal} {outcome : Outcome}
    (kind : arrival.action.kind = .unregister)
    (answered : (arrival.visit (Executor.standard lifetime maxDepth)).1 = .ok outcome)
    (success : outcome.isSuccess = true) :
    (arrival.visit (Executor.standard lifetime maxDepth)).2.context.contactState = .deleted := by
  unfold Arrival.visit at answered ⊢
  rcases Executor.visit_cases lifetime maxDepth arrival.action arrival.depth arrival.run with
    ⟨failure, kept, failed, -⟩ | ⟨-, cancelled⟩ | ⟨-, taken⟩
  · rw [kept] at answered
    cases answered
    simp [Outcome.isSuccess, failed] at success
  · rw [cancelled] at answered
    cases answered
  · rw [taken] at answered ⊢
    have stepped := Executor.absorb_success answered success
    simp only [Executor.stepOf, kind, Steps.forKind] at stepped ⊢
    exact Steps.unregister_deletes stepped success

/-- A step to send mail for a contact that is not live fails before it asks for anything. -/
theorem Steps.sendMail_parted {σ : Type} {services : Services σ} {context : Context} {world : σ}
    (contact : context.contactId = some contactId)
    (parted : context.liveContactId ≠ some contactId) :
    sendMail services context world = .finish .failed context world := by
  have deleted : context.contactDeleted = true := by
    by_contra alive
    exact parted (by simpa [Context.liveContactId, alive] using contact)
  unfold sendMail
  cases context.contact with
  | none => rfl
  | some held => simp [Context.hasLiveContact, deleted]

/-- A step to send mail for a contact that its run is parted from fails before it asks for
anything. -/
theorem Arrival.sendMail_fails {arrival : Arrival Rehearsal}
    (working : arrival.run.cancelled = false) (kind : arrival.action.kind = .sendMail)
    (contact : arrival.run.context.contactId = some contactId)
    (parted : arrival.run.context.liveContactId ≠ some contactId) :
    ∃ outcome, (arrival.visit (Executor.standard lifetime maxDepth)).1 = .ok outcome ∧
      outcome.isSuccess = false ∧
      (arrival.visit (Executor.standard lifetime maxDepth)).2.world = arrival.run.world := by
  unfold Arrival.visit
  rcases Executor.visit_cases lifetime maxDepth arrival.action arrival.depth arrival.run with
    ⟨failure, kept, failed, -⟩ | ⟨cancelled, -⟩ | ⟨-, taken⟩
  · rw [kept]
    exact ⟨failure, rfl, by simp [Outcome.isSuccess, failed], rfl⟩
  · rw [working] at cancelled
    cases cancelled
  · have stepped : Executor.stepOf lifetime arrival.action arrival.run =
        .finish .failed (Executor.entering arrival.run arrival.action).context
          arrival.run.world := by
      rw [Executor.stepOf, kind]
      exact Steps.sendMail_parted contact parted
    rw [taken, stepped]
    exact ⟨.failed, rfl, rfl, rfl⟩

/-- An outing of a history stands in one occurrence of it. The outings after it are the others of
the occurrence and those of the rest of the history. -/
theorem Occurrence.allOutings_split {history : List Occurrence} {earlier later : List Outing}
    {outing : Outing}
    (split : allOutings lifetime maxDepth world history = earlier ++ outing :: later) :
    ∃ occurrence start first last rest,
      outings lifetime maxDepth start occurrence = first ++ outing :: last ∧
        later =
          last ++ allOutings lifetime maxDepth (occurrence.after lifetime maxDepth start) rest := by
  induction history generalizing world earlier with
  | nil => exact absurd split.symm (by simp [allOutings])
  | cons occurrence rest ih =>
    rw [allOutings] at split
    rcases List.append_eq_append_iff.mp split with ⟨first, -, there⟩ | ⟨last, here, there⟩
    · exact ih there
    · cases last with
      | nil =>
        have none : allOutings lifetime maxDepth _ rest = [] ++ outing :: later := there.symm
        exact ih none
      | cons other last =>
        obtain ⟨rfl, rest'⟩ := List.cons.inj there
        exact ⟨occurrence, world, earlier, last, rest, here, rest'⟩

/-- What remains of an occurrence after a visit that parts a run from a contact, as long as all jobs
of the same batch are known. -/
theorem Occurrence.parted_rest {occurrence : Occurrence} {first last : List Outing}
    {outing : Outing}
    {before after : List (Arrival Rehearsal)} {arrival : Arrival Rehearsal}
    (outings : occurrence.outings lifetime maxDepth world = first ++ outing :: last)
    (arrivals : outing.arrivals (Executor.standard lifetime maxDepth) = before ++ arrival :: after)
    (parted : (arrival.visit (Executor.standard lifetime maxDepth)).2.Parted contactId known)
    (waiting : ∀ job ∈ outing.waiting, job.id ∈ known)
    (unrevived : ∀ other ∈ last,
      (∀ job ∈ other.job, job.id ∈ known) -> other.start.context.liveContactId ≠ some contactId)
    (unstored : ∀ next ∈
        after ++ last.flatMap (Outing.arrivals (Executor.standard lifetime maxDepth)),
      (next.visit (Executor.standard lifetime maxDepth)).2.world.catalog.Lacks contactId) :
    (∀ next ∈ after ++ last.flatMap (Outing.arrivals (Executor.standard lifetime maxDepth)),
      next.run.Parted contactId known) ∧
      (occurrence.after lifetime maxDepth world).Clear contactId known := by
  obtain ⟨here, ended⟩ := Outing.parted arrivals parted
    (fun next member => unstored next (List.mem_append_left _ member))
  cases occurrence with
  | run tree context cancelled =>
    cases first with
    | nil =>
      obtain ⟨rfl, rfl⟩ := List.cons.inj outings
      exact ⟨by simpa using here, ended.world⟩
    | cons other first => exact absurd (List.cons.inj outings).2.symm (by simp)
  | poll batchSize retryBase cancelled =>
    have turned : turns lifetime maxDepth batchSize retryBase cancelled world ≠ [] := by
      intro none
      simp [Occurrence.outings, none, turnOutings] at outings
    obtain ⟨turns, polled⟩ := poll_of_turns lifetime maxDepth turned
    simp only [Occurrence.outings, turns] at outings
    simp only [Occurrence.after, polled]
    obtain ⟨earlier, turn, others, batch, resumed, -, waits, rfl⟩ :=
      turnOutings_split lifetime outings
    have clear : ((continuationWorker lifetime maxDepth batchSize retryBase).afterTurn
        turn).world.Clear contactId known := by
      rcases afterTurn_cases lifetime maxDepth batchSize retryBase turn with
        ⟨idle, -⟩ | ⟨tree, start, same, told⟩
      · cases resumed.symm.trans idle
      · cases resumed.symm.trans same
        exact ended.world.of_subset told.works
    rcases Worker.turns_split .none batch with ⟨rfl, ends⟩ | ⟨rest, counted, -, rfl, goesOn⟩
    · rw [ends]
      exact ⟨by simpa [turnOutings] using here, clear⟩
    · rw [goesOn]
      obtain ⟨there, final⟩ := turns_parted counted clear
        (fun turn member => .inl (waiting _ (waits ▸ List.mem_map_of_mem member))) unrevived
        (fun other member next reached => unstored next
          (List.mem_append_right _ (List.mem_flatMap.mpr ⟨other, member, reached⟩)))
      refine ⟨fun next member => ?_, final⟩
      rcases List.mem_append.mp member with soon | later
      · exact here next soon
      · obtain ⟨other, listed, reached⟩ := List.mem_flatMap.mp later
        exact there other listed next reached
  | change now catalog faults => exact absurd outings.symm (by simp [Occurrence.outings])

/-- An action sends no mail to a contact: if it is one to send mail and its run has the contact, it
fails and leaves everything around the run as it is. -/
def Arrival.Unmailed (executor : Executor Rehearsal) (contactId : ContactId)
    (arrival : Arrival Rehearsal) : Prop :=
  arrival.action.kind = .sendMail -> arrival.run.context.contactId = some contactId ->
    ∃ outcome, (arrival.visit executor).1 = .ok outcome ∧ outcome.isSuccess = false ∧
      (arrival.visit executor).2.world = arrival.run.world

theorem Arrival.Unmailed.not_success {executor : Executor Rehearsal} {arrival : Arrival Rehearsal}
    (unmailed : arrival.Unmailed executor contactId) (kind : arrival.action.kind = .sendMail)
    (contact : arrival.run.context.contactId = some contactId) :
    (arrival.visit executor).1 ≠ .ok .success := by
  intro sent
  obtain ⟨outcome, answered, failed, -⟩ := unmailed kind contact
  cases sent.symm.trans answered
  cases failed

theorem Arrival.unmailed_of_parted {arrival : Arrival Rehearsal} {outing : Outing}
    (reached : arrival ∈ outing.arrivals (Executor.standard lifetime maxDepth))
    (parted : arrival.run.Parted contactId known) :
    arrival.Unmailed (Executor.standard lifetime maxDepth) contactId :=
  fun kind contact =>
    arrival.sendMail_fails (Executor.working_of_mem_arrivals reached) kind contact parted.context

end

end Outreach
