import Outreach.Proofs.History.Parted
import Outreach.Proofs.Tree.Walk
import Outreach.Rehearsal.Samples

/-!
# No mail after a contact has been unregistered

Whether a step sends mail to a contact is decided by the context of its run alone. Once a contact
has been unregistered it is live only in contexts that somebody starts a run with, or that a job
restores which was there at that moment: `unmailed` says that nothing else brings mail to it. Both do:
`not_unmailed`.
-/

namespace Outreach

/-- A history in which an outing unregisters a contact. -/
structure Unregistration (lifetime : Span) (maxDepth : Nat) (world : Rehearsal)
    (history : List Occurrence) (contactId : ContactId) where
  earlier : List Outing
  /-- The outing with the action that unregisters the contact. -/
  outing : Outing
  later : List Outing
  outings : Occurrence.allOutings lifetime maxDepth world history = earlier ++ outing :: later
  before : List (Arrival Rehearsal)
  /-- The action that unregisters the contact. -/
  arrival : Arrival Rehearsal
  after : List (Arrival Rehearsal)
  arrivals : outing.arrivals (.standard lifetime maxDepth) = before ++ arrival :: after
  kind : arrival.action.kind = .unregister
  contact : arrival.run.context.liveContactId = some contactId
  outcome : Outcome
  answered : (arrival.visit (.standard lifetime maxDepth)).1 = .ok outcome
  success : outcome.isSuccess = true

namespace Unregistration

section

variable {lifetime : Span} {maxDepth : Nat} {world : Rehearsal} {history : List Occurrence}
  {contactId : ContactId}

/-- The actions that are reached after the one that unregisters the contact. -/
def remaining (unregistration : Unregistration lifetime maxDepth world history contactId) :
    List (Arrival Rehearsal) :=
  unregistration.after ++
    unregistration.later.flatMap (Outing.arrivals (.standard lifetime maxDepth))

/-- Every one of them is reached by an outing. -/
theorem reached_of_mem_remaining
    (unregistration : Unregistration lifetime maxDepth world history contactId)
    {arrival : Arrival Rehearsal} (member : arrival ∈ unregistration.remaining) :
    ∃ outing : Outing, arrival ∈ outing.arrivals (.standard lifetime maxDepth) := by
  rcases List.mem_append.mp member with soon | later
  · refine ⟨unregistration.outing, ?_⟩
    rw [unregistration.arrivals]
    exact List.mem_append_right _ (List.mem_cons_of_mem _ soon)
  · obtain ⟨outing, -, reached⟩ := List.mem_flatMap.mp later
    exact ⟨outing, reached⟩

/-- The jobs that are there when the contact has been unregistered. -/
def presentJobs (unregistration : Unregistration lifetime maxDepth world history contactId) :
    List Uuid :=
  unregistration.outing.presentJobs
    (unregistration.arrival.visit (.standard lifetime maxDepth)).2.world

/-- The contact is not stored again. -/
def Unstored (unregistration : Unregistration lifetime maxDepth world history contactId) : Prop :=
  ∀ arrival ∈ unregistration.remaining,
    (arrival.visit (.standard lifetime maxDepth)).2.world.catalog.Lacks contactId

/-- No later run is started in a context in which the contact is live. -/
def Unstarted (unregistration : Unregistration lifetime maxDepth world history contactId) : Prop :=
  ∀ outing ∈ unregistration.later, outing.job = none ->
    outing.start.context.liveContactId ≠ some contactId

/-- None of the jobs that are there when the contact has been unregistered resumes a run later in
which the contact is live. -/
def Unrevived (unregistration : Unregistration lifetime maxDepth world history contactId) : Prop :=
  ∀ outing ∈ unregistration.later, ∀ job ∈ outing.job, job.id ∈ unregistration.presentJobs ->
    outing.start.context.liveContactId ≠ some contactId

/-- Once a contact has been unregistered no mail is sent to it, in any run or continuation after
that, as long as it is not stored again and is live in no context that a run is started with or that
one of the jobs restores that are there at that moment. -/
theorem unmailed (unregistration : Unregistration lifetime maxDepth world history contactId)
    (unstored : unregistration.Unstored) (unstarted : unregistration.Unstarted)
    (unrevived : unregistration.Unrevived) :
    ∀ arrival ∈ unregistration.remaining,
      arrival.Unmailed (.standard lifetime maxDepth) contactId := by
  have parted : (unregistration.arrival.visit (.standard lifetime maxDepth)).2.Parted contactId
      unregistration.presentJobs := by
    refine ⟨?_, fun work queued => .inl (List.mem_append_left _ (List.mem_map_of_mem queued))⟩
    have deleted := Arrival.unregister_deletes unregistration.kind unregistration.answered
      unregistration.success
    rw [Context.liveContactId_deleted deleted]
    nofun
  have waiting : ∀ job ∈ unregistration.outing.waiting, job.id ∈ unregistration.presentJobs :=
    fun job waits => List.mem_append_right _ (List.mem_map_of_mem (List.mem_append_right _ waits))
  have foreign : ∀ outing ∈ unregistration.later,
      (∀ job ∈ outing.job, job.id ∈ unregistration.presentJobs) ->
        outing.start.context.liveContactId ≠ some contactId := by
    intro outing member present
    cases job : outing.job with
    | none => exact unstarted outing member job
    | some job' => exact unrevived outing member job' job (present job' job)
  have all : ∀ arrival ∈ unregistration.remaining,
      arrival.run.Parted contactId unregistration.presentJobs := by
    obtain ⟨occurrence, start, first, last, rest, here, later⟩ :=
      Occurrence.allOutings_split unregistration.outings
    unfold Unstored remaining at unstored
    unfold remaining
    rw [later] at unstored foreign ⊢
    obtain ⟨soon, clear⟩ := Occurrence.parted_rest here unregistration.arrivals parted waiting
      (fun outing member => foreign outing (List.mem_append_left _ member))
      (fun arrival member => unstored arrival (by
        rw [List.flatMap_append, ← List.append_assoc]
        exact List.mem_append_left _ member))
    have afterwards := Occurrence.allParted rest clear
      (fun outing member => foreign outing (List.mem_append_right _ member))
      (fun outing member arrival reached => unstored arrival (List.mem_append_right _
        (List.mem_flatMap.mpr ⟨outing, List.mem_append_right _ member, reached⟩)))
    intro arrival member
    rw [List.flatMap_append, ← List.append_assoc] at member
    rcases List.mem_append.mp member with near | far
    · exact soon arrival near
    · obtain ⟨outing, listed, reached⟩ := List.mem_flatMap.mp far
      exact afterwards outing listed arrival reached
  intro arrival member
  obtain ⟨outing, reached⟩ := unregistration.reached_of_mem_remaining member
  exact Arrival.unmailed_of_parted reached (all arrival member)

end

namespace Departure

/-- The contact of the project with an id. -/
def contact (id : ContactId) : Contact := { Sample.contact with id := some id }

/-- An action of the project. -/
def action (id : ActionId) (kind : ActionKind) (options : Json) (children : List Action) : Action :=
  { Action.new id 1 kind "" .epoch with options, children }

/-- An action that sends the welcome mail. -/
def mail (id : ActionId) : Action :=
  action id .sendMail (.object [("templateId", .integer 1)]) []

/-- The welcome mail, left for the next poll. -/
def deferring : Action :=
  action 1 .schedule (.object [("offsetTime", .string "00:00")]) [mail 2]

/-- The contact leaves, and the welcome mail comes too late. -/
def leaving : Action := action 3 .sequence .null [action 4 .unregister .null [], mail 5]

/-- A catalog with two contacts. -/
def catalog : Catalog :=
  { Catalog.empty with
    projects := Keyed.empty.insert 1 Sample.project
    actions := Keyed.empty.insert 1 deferring
    contacts := (Keyed.empty.insert 1 (contact 1)).insert 2 (contact 2)
    templates := Keyed.empty.insert 1 (Sample.template 1) }

/-- The surroundings at the beginning. -/
def world : Rehearsal :=
  { Rehearsal.start .epoch catalog with jobs := .queue (Queue.empty Queue.usualLease) 3 }

/-- The context of a run for a contact. -/
def visitor (id : ContactId) : Context :=
  { Context.start Sample.project 1 with contact := some (contact id) }

/-- The mail to one contact is deferred, another one leaves, and then something else happens. -/
def history (id : ContactId) (last : Occurrence) : List Occurrence :=
  [.run deferring (visitor id) false, .run leaving (visitor 1) false, last]

/-- The job of the deferred mail. -/
def job (id : ContactId) : Job :=
  .ofContinuation (.ofNat 1) ⟨(visitor id).snapshot 1, [2]⟩ .epoch 3

/-- The surroundings after the first run. -/
def deferred (id : ContactId) : Rehearsal :=
  { world with jobCount := 1, jobs := .queue ⟨[job id], [], Queue.usualLease⟩ 3 }

/-- The surroundings after the second run. -/
def left (id : ContactId) : Rehearsal :=
  { deferred id with catalog := { catalog with contacts := Keyed.empty.insert 2 (contact 2) } }

/-- The first run leaves a job with the mail behind. -/
theorem after_deferring {id : ContactId} (known : id = 1 ∨ id = 2) :
    Occurrence.after default 5 world (.run deferring (visitor id) false) = deferred id := by
  simp only [Occurrence.after]
  rw [Executor.execute_eq_walk]
  rcases known with rfl | rfl <;> rfl

/-- The second run takes the contact out of the catalog. -/
theorem after_leaving (id : ContactId) :
    Occurrence.after default 5 (deferred id) (.run leaving (visitor 1) false) = left id := by
  simp only [Occurrence.after]
  rw [Executor.execute_eq_walk]
  rfl

/-- The mail that was deferred is taken up. -/
def resuming (id : ContactId) : Outing :=
  let claims := [⟨(job id).attempted, .epoch⟩]
  { tree := Executor.resumed deferring
    start :=
      { context := .ofSnapshot ((visitor id).snapshot 1) Sample.project
        world := { left id with jobs := .queue ⟨[], claims, Queue.usualLease⟩ 3 }
        cancelled := false }
    job := some (job id).attempted
    waiting := [] }

/-- The poll takes up the mail and nothing else. -/
theorem outings_poll {id : ContactId} (known : id = 1 ∨ id = 2) :
    Occurrence.outings default 5 (left id) (.poll 1 0 false) = [resuming id] := by
  have turns : Occurrence.turns default 5 1 0 false (left id) =
      (continuationWorker default 5 1 0).turns
        ⟨(resuming id).start.world, false⟩ [(job id).attempted] := by
    rcases known with rfl | rfl <;> rfl
  rw [Occurrence.outings, turns, Worker.turns_singleton]
  rcases known with rfl | rfl <;> rfl

/-- The contact leaves. -/
def departing (id : ContactId) : Outing := ⟨leaving, ⟨visitor 1, deferred id, false⟩, none, []⟩

/-- The actions that are reached when the contact leaves. -/
def start (id : ContactId) : Arrival Rehearsal := ⟨leaving, 0, (departing id).start⟩

/-- The action that unregisters the contact. -/
def removal (id : ContactId) : Arrival Rehearsal :=
  ⟨action 4 .unregister .null [], 1, ((start id).visit (.standard default 5)).2⟩

/-- The mail after it, in the same run. -/
def lateMail (id : ContactId) : Arrival Rehearsal :=
  ⟨mail 5, 1, ((removal id).visit (.standard default 5)).2⟩

/-- The run in which the contact leaves goes on to the mail. -/
theorem arrivals_departing {id : ContactId} (known : id = 1 ∨ id = 2) :
    (departing id).arrivals (.standard default 5) = [start id, removal id, lateMail id] := by
  have working : (removal id).run.cancelled = false ∧ (lateMail id).run.cancelled = false := by
    rcases known with rfl | rfl <;> exact ⟨rfl, rfl⟩
  have first : (Executor.standard default 5).visit leaving 0 (start id).run =
      (.ok .success, (removal id).run) := by rcases known with rfl | rfl <;> rfl
  have second : (Executor.standard default 5).visit (removal id).action 1 (removal id).run =
      (.ok .success, (lateMail id).run) := by rcases known with rfl | rfl <;> rfl
  have third : (Executor.standard default 5).visit (mail 5) 1 (lateMail id).run =
      (.ok .failed, ((lateMail id).visit (.standard default 5)).2) := by
    rcases known with rfl | rfl <;> rfl
  change Executor.arrivals _ [(leaving, 0)] (start id).run = _
  rw [Executor.arrivals_cons rfl first]
  change _ :: Executor.arrivals _ [((removal id).action, 1), (mail 5, 1)] _ = _
  rw [Executor.arrivals_cons working.1 second]
  change _ :: _ :: Executor.arrivals _ [(mail 5, 1)] _ = _
  rw [Executor.arrivals_cons working.2 third]
  change _ :: _ :: _ :: Executor.arrivals _ [] _ = _
  rw [Executor.arrivals]
  rfl

/-- The actions that are reached when the mail is taken up. -/
def again (id : ContactId) : Arrival Rehearsal :=
  ⟨(resuming id).tree, 0, (resuming id).start⟩

/-- The mail that the job holds. -/
def deferredMail (id : ContactId) : Arrival Rehearsal :=
  ⟨mail 2, 1, ((again id).visit (.standard default 5)).2⟩

/-- The continuation comes to the mail that was put off. -/
theorem arrivals_resuming {id : ContactId} (known : id = 1 ∨ id = 2) :
    (resuming id).arrivals (.standard default 5) = [again id, deferredMail id] := by
  have working : (deferredMail id).run.cancelled = false := by
    rcases known with rfl | rfl <;> rfl
  have first : (Executor.standard default 5).visit (resuming id).tree 0 (again id).run =
      (.ok .success, (deferredMail id).run) := by rcases known with rfl | rfl <;> rfl
  have second : (Executor.standard default 5).visit (mail 2) 1 (deferredMail id).run =
      (.ok .success, ((deferredMail id).visit (.standard default 5)).2) := by
    rcases known with rfl | rfl <;> rfl
  change Executor.arrivals _ [((resuming id).tree, 0)] (again id).run = _
  rw [Executor.arrivals_cons rfl first]
  change _ :: Executor.arrivals _ [(mail 2, 1)] _ = _
  rw [Executor.arrivals_cons working second]
  change _ :: _ :: Executor.arrivals _ [] _ = _
  rw [Executor.arrivals]
  rfl

/-- A mail to the contact that is gone. -/
def staleMail (id : ContactId) : Arrival Rehearsal := ⟨mail 6, 0, ⟨visitor 1, left id, false⟩⟩

/-- A run with the mail alone comes to it. -/
theorem arrivals_stale {id : ContactId} (known : id = 1 ∨ id = 2) :
    (Outing.mk (mail 6) (staleMail id).run none []).arrivals (.standard default 5) =
      [staleMail id] := by
  have only : (Executor.standard default 5).visit (mail 6) 0 (staleMail id).run =
      (.ok .success, ((staleMail id).visit (.standard default 5)).2) := by
    rcases known with rfl | rfl <;> rfl
  rw [Outing.arrivals, Executor.arrivals_cons rfl only]
  change _ :: Executor.arrivals _ [] _ = _
  rw [Executor.arrivals]
  rfl

/-- The contact 1 leaves in the second run of the history. -/
def departure (id : ContactId) (known : id = 1 ∨ id = 2) (last : Occurrence) :
    Unregistration default 5 world (history id last) 1 :=
  { earlier := [⟨deferring, ⟨visitor id, world, false⟩, none, []⟩]
    outing := departing id
    later := last.outings default 5 (left id)
    outings := by
      rw [history, Occurrence.allOutings, Occurrence.allOutings, Occurrence.allOutings,
        after_deferring known, after_leaving, Occurrence.allOutings, List.append_nil]
      rfl
    before := [start id]
    arrival := removal id
    after := [lateMail id]
    arrivals := arrivals_departing known
    kind := rfl
    contact := by rcases known with rfl | rfl <;> rfl
    outcome := .success
    answered := by rcases known with rfl | rfl <;> rfl
    success := rfl }

/-- After the contact has left there is what the last occurrence brings. -/
theorem later_departure {id : ContactId} (known : id = 1 ∨ id = 2) (last : Occurrence) :
    (departure id known last).later = last.outings default 5 (left id) := rfl

/-- With a poll at the end there remain the late mail and the continuation. -/
theorem remaining_poll {id : ContactId} (known : id = 1 ∨ id = 2) :
    (departure id known (.poll 1 0 false)).remaining =
      [lateMail id, again id, deferredMail id] := by
  rw [remaining, later_departure, outings_poll known, List.flatMap_singleton,
    arrivals_resuming known]
  rfl

/-- With a run at the end there remain the late mail and that run. -/
theorem remaining_run {id : ContactId} (known : id = 1 ∨ id = 2) :
    (departure id known (.run (mail 6) (visitor 1) false)).remaining =
      [lateMail id, staleMail id] := by
  rw [remaining, later_departure]
  change _ ++ [Outing.mk (mail 6) (staleMail id).run none []].flatMap _ = _
  rw [List.flatMap_singleton, arrivals_stale known]
  rfl

/-- The catalog lacks the contact after any of the visits. -/
theorem lacks_of_mem {id : ContactId} (known : id = 1 ∨ id = 2) :
    ∀ arrival ∈ [lateMail id, again id, deferredMail id, staleMail id],
      (arrival.visit (.standard default 5)).2.world.catalog.Lacks 1 := by
  intro arrival member entry listed
  have kept : (arrival.visit (.standard default 5)).2.world.catalog.contacts.entries =
      [(2, contact 2)] := by
    simp only [List.mem_cons, List.not_mem_nil, or_false] at member
    rcases known with rfl | rfl <;> rcases member with rfl | rfl | rfl | rfl <;> rfl
  rw [kept] at listed
  rw [List.mem_singleton.mp listed]
  decide

/-- A poll does not store the contact again. -/
theorem unstored_poll {id : ContactId} (known : id = 1 ∨ id = 2) :
    (departure id known (.poll 1 0 false)).Unstored := by
  rw [Unstored, remaining_poll]
  exact fun arrival member => lacks_of_mem known arrival (List.mem_append_left [_] member)

/-- A poll starts no run. -/
theorem unstarted_poll {id : ContactId} (known : id = 1 ∨ id = 2) :
    (departure id known (.poll 1 0 false)).Unstarted := by
  rw [Unstarted, later_departure, outings_poll known]
  intro outing member fresh
  cases List.mem_singleton.mp member
  cases fresh

/-- The job for the other contact does not bring back the one that left. -/
theorem unrevived_poll : (departure 2 (.inr rfl) (.poll 1 0 false)).Unrevived := by
  rw [Unrevived, later_departure, outings_poll (.inr rfl)]
  intro outing member job taken present
  cases List.mem_singleton.mp member
  decide

/-- A run with a mail alone does not store the contact again. -/
theorem unstored_run {id : ContactId} (known : id = 1 ∨ id = 2) :
    (departure id known (.run (mail 6) (visitor 1) false)).Unstored := by
  rw [Unstored, remaining_run]
  intro arrival member
  refine lacks_of_mem known arrival ?_
  rcases List.mem_pair.mp member with rfl | rfl
  · exact List.mem_cons_self
  · exact List.mem_append_right [_, _, _] List.mem_cons_self

/-- A run that is started resumes no job. -/
theorem unrevived_run {id : ContactId} (known : id = 1 ∨ id = 2) :
    (departure id known (.run (mail 6) (visitor 1) false)).Unrevived := by
  intro outing member job taken
  cases List.mem_singleton.mp member
  cases taken

end Departure

open Departure in
/-- One contact leaves and gets no mail, neither from the run in which it leaves nor when the mail
to the other contact is taken up. -/
theorem unmailed_departure :
    (lateMail 2).Unmailed (.standard default 5) 1 ∧ (again 2).Unmailed (.standard default 5) 1 ∧
      (deferredMail 2).Unmailed (.standard default 5) 1 := by
  have unmailed := unmailed (departure 2 (.inr rfl) (.poll 1 0 false)) (unstored_poll _)
    (unstarted_poll _) unrevived_poll
  rw [remaining_poll, List.forall_mem_cons, List.forall_mem_cons, List.forall_mem_singleton]
    at unmailed
  exact unmailed

open Departure in
/-- A job that was there before brings mail to a contact that is gone, and so does a run that is
started for the contact. -/
theorem not_unmailed :
    (¬ forall (lifetime : Span) (maxDepth : Nat) (world : Rehearsal) (history : List Occurrence)
        (contactId : ContactId)
        (unregistration : Unregistration lifetime maxDepth world history contactId),
      unregistration.Unstored -> unregistration.Unstarted ->
        ∀ arrival ∈ unregistration.remaining,
          arrival.Unmailed (.standard lifetime maxDepth) contactId) ∧
    ¬ forall (lifetime : Span) (maxDepth : Nat) (world : Rehearsal) (history : List Occurrence)
        (contactId : ContactId)
        (unregistration : Unregistration lifetime maxDepth world history contactId),
      unregistration.Unstored -> unregistration.Unrevived ->
        ∀ arrival ∈ unregistration.remaining,
          arrival.Unmailed (.standard lifetime maxDepth) contactId := by
  constructor
  · intro law
    have member : deferredMail 1 ∈ (departure 1 (.inl rfl) (.poll 1 0 false)).remaining := by
      rw [remaining_poll]
      exact List.mem_append_right [_, _] List.mem_cons_self
    have unmailed := law default 5 world _ 1 _ (unstored_poll _) (unstarted_poll _) _ member
    exact unmailed.not_success rfl rfl (by rfl)
  · intro law
    have member : staleMail 1 ∈
        (departure 1 (.inl rfl) (.run (mail 6) (visitor 1) false)).remaining := by
      rw [remaining_run]
      exact List.mem_append_right [_] List.mem_cons_self
    have unmailed := law default 5 world _ 1 _ (unstored_run _) (unrevived_run _) _ member
    exact unmailed.not_success rfl rfl (by rfl)

end Unregistration

end Outreach
