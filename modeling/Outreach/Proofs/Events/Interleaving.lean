import Outreach.Proofs.Events.Outlook

/-!
# Events that are recorded at the same time

The recording of an event asks its storage for one thing after the other, and between two requests
other recordings may go on. `Stage.advance` makes one request; `Stage.create_eq_advance` says that
a recording whose requests follow one another is `EventLog.create`.

An event is stored by the first request, and what is requested later concerns that event alone. So
the store that is left when all recordings have answered is the one that they leave one after the
other, in the order in which they stored their events: `interleaved`. The induction is over the
requests, and what it keeps is the outlook of the recordings under way.
-/

namespace Outreach

namespace EventLog

open RuledEvents

/-- How far the recording of an event has come. -/
inductive Stage where
  /-- Nothing has been requested. -/
  | submitted (event : Event)
  /-- The event has been stored; this is the caller's copy of it. -/
  | stored (owner : UserId) (id : EventId) (copy : Event)
  /-- The rules of its owner have been applied to the copy. -/
  | judged (id : EventId) (copy : Event) (outcome : RuleOutcome)
  /-- Nothing will be requested any more. -/
  | answered (answer : Except ServiceError Review)

namespace Stage

/-- Go on with the next request. -/
def advance {σ : Type} (storage : EventStorage σ) : Stage × σ -> Stage × σ
  | (submitted event, state) =>
    if !(review event).accepts then (answered (.ok (review event)), state)
    else
      match event.ownerId with
      | none => (answered (.error (.backend (JudgeError.missingOwner event.id).message)), state)
      | some _ =>
        match storage.insert event state with
        | (.error cause, state) => (answered (.error cause), state)
        | (.ok copy, state) =>
          match copy.id, copy.ownerId with
          | none, _ => (answered (.error (.backend "event store assigned no id")), state)
          | some _, none =>
            (answered (.error (.backend (JudgeError.missingOwner copy.id).message)), state)
          | some id, some owner => (stored owner id copy, state)
  | (stored owner id copy, state) =>
    match storage.rulesFor owner state with
    | (.error cause, state) => (answered (.error cause), state)
    | (.ok rules, state) => (judged id copy (Rule.applyAll rules copy).1, state)
  | (judged id copy outcome, state) =>
    match settle storage id copy.categoryId outcome state with
    | (.error cause, state) => (answered (.error cause), state)
    | (.ok (), state) => (answered (.ok .clean), state)
  | (answered answer, state) => (answered answer, state)

/-- The event that is to be stored. -/
def event? : Stage -> Option Event
  | submitted event => some event
  | _ => none

/-- The copy of a stored event that may still be changed. -/
def copy? : Stage -> Option Event
  | stored _ _ copy => some copy
  | judged _ copy _ => some copy
  | _ => none

/-- Whether nothing will be requested any more. -/
def isAnswered : Stage -> Bool
  | answered _ => true
  | _ => false

section Uninterrupted

variable {σ : Type} (storage : EventStorage σ)

/-- What is left of a recording once its event is stored is that the event is judged. -/
theorem judge_eq_advance (owner : UserId) (id : EventId) (copy : Event) (state : σ) :
    advance storage (advance storage (stored owner id copy, state)) =
      let (answer, after) := judge storage owner id copy state
      (answered (answer.map (fun _ => .clean)), after) := by
  unfold judge
  rcases ruled : storage.rulesFor owner state with ⟨cause | rules, after⟩
  · simp only [advance, ruled]
    rfl
  · simp only [advance, ruled]
    rcases settle storage id copy.categoryId (Rule.applyAll rules copy).1 after with
      ⟨cause | _, last⟩
    · rfl
    · rfl

/-- A recording that goes on without interruption is the recording of an event. -/
theorem create_eq_advance (event : Event) (state : σ) :
    advance storage (advance storage (advance storage (submitted event, state))) =
      (answered (create storage event state).1, (create storage event state).2) := by
  cases accepted : (review event).accepts with
  | false => simp [advance, create, accepted]
  | true =>
    cases isOwner : event.ownerId with
    | none => simp [advance, create, accepted, isOwner]
    | some owner =>
      rcases inserted : storage.insert event state with ⟨cause | copy, after⟩
      · simp [advance, create, accepted, isOwner, inserted]
      · cases isId : copy.id with
        | none => simp [advance, create, accepted, isOwner, inserted, isId]
        | some id =>
          cases keeps : copy.ownerId with
          | none => simp [advance, create, accepted, isOwner, inserted, isId, keeps]
          | some keeper =>
            have first : advance storage (submitted event, state) =
                (stored keeper id copy, after) := by
              simp [advance, accepted, isOwner, inserted, isId, keeps]
            rw [first, judge_eq_advance]
            simp only [create, accepted, isOwner, inserted, isId, keeps]
            rcases judge storage keeper id copy after with ⟨cause | _, last⟩
            · rfl
            · rfl

end Uninterrupted

/-- A stage says of its copy what the storage and the rules say of it. -/
def Fits (rules : RuleStore) : Stage -> Prop
  | stored owner id copy => copy.id = some id ∧ copy.ownerId = some owner
  | judged id copy outcome =>
    copy.id = some id ∧ ∃ owner, copy.ownerId = some owner ∧
      outcome = (Rule.applyAll (rules.rulesFor owner) copy).1
  | _ => True

/-- What the next request of a recording does if it is not refused: an event is stored, a stored
event is marked, or nothing happens that others see. -/
inductive Move (desk : RuledEvents) : Stage -> Stage -> RuledEvents -> Prop where
  | store (event : Event) (owner : UserId) (admitted : admits event = true) :
      Move desk (submitted event) (stored owner desk.events.nextId (desk.events.prepared event))
        { desk with events := (desk.events.insert event).2 }
  | mark (id : EventId) (copy : Event) (outcome : RuleOutcome) :
      Move desk (judged id copy outcome) (answered (.ok .clean))
        { desk with events := desk.events.put (desk.rules.mark copy) }
  | idle {before after : Stage}
      (refused : forall event, before.event? = some event -> admits event = false)
      (started : after.event? = none) (kept : after.copy? = before.copy?) :
      Move desk before after desk

/-- A recording goes on with a move, and from what it has learned. -/
def Proceeds (desk : RuledEvents) (before : Stage) (after : Stage × RuledEvents) : Prop :=
  Move desk before after.1 after.2 ∧ after.1.Fits desk.rules

section Moves

variable {desk : RuledEvents} {copies : List Event}

/-- A recording that has begun has no event left to submit. -/
theorem refused_of_started {stage : Stage} (started : stage.event? = none) :
    forall event, stage.event? = some event -> admits event = false := by
  intro event waits
  cases started.symm.trans waits

/-- An event that is submitted is stored. -/
theorem submitted_proceeds (working : desk.faults = []) (event : Event) :
    Proceeds desk (submitted event) (advance storage (submitted event, desk)) := by
  cases admitted : admits event with
  | false =>
    have refused : forall other, (submitted event).event? = some other ->
        admits other = false := by
      rintro other ⟨⟩
      exact admitted
    have stays : ∃ answer, advance storage (submitted event, desk) = (answered answer, desk) := by
      cases accepted : (review event).accepts with
      | false => exact ⟨.ok (review event), by simp [advance, accepted]⟩
      | true =>
        cases isOwner : event.ownerId with
        | none =>
          refine ⟨.error (.backend (JudgeError.missingOwner event.id).message), ?_⟩
          simp [advance, accepted, isOwner]
        | some owner => simp [admits, accepted, isOwner] at admitted
    obtain ⟨answer, stays⟩ := stays
    rw [stays]
    exact ⟨.idle refused rfl rfl, trivial⟩
  | true =>
    obtain ⟨accepted, owned⟩ := Bool.and_eq_true_iff.mp admitted
    obtain ⟨owner, isOwner⟩ := Option.isSome_iff_exists.mp owned
    have keeps : (desk.events.prepared event).ownerId = some owner := isOwner
    have stores : advance storage (submitted event, desk) =
        (stored owner desk.events.nextId (desk.events.prepared event),
          { desk with events := (desk.events.insert event).2 }) := by
      have inserted : storage.insert event desk = (.ok (desk.events.prepared event),
          { desk with events := (desk.events.insert event).2 }) := by
        simp only [storage, RuledEvents.insert, working, List.lookup_nil, Faults.answer]
        rfl
      have isId : (desk.events.prepared event).id = some desk.events.nextId := rfl
      simp [advance, accepted, isOwner, inserted, isId, keeps]
    rw [stores]
    exact ⟨.store event owner admitted, rfl, keeps⟩

/-- An event that is stored is judged by the rules of its owner. -/
theorem stored_proceeds (working : desk.faults = []) {owner : UserId} {id : EventId} {copy : Event}
    (fits : (stored owner id copy).Fits desk.rules) :
    Proceeds desk (stored owner id copy) (advance storage (stored owner id copy, desk)) := by
  have applied : advance storage (stored owner id copy, desk) =
      (judged id copy (Rule.applyAll (desk.rules.rulesFor owner) copy).1, desk) := by
    simp only [advance, storage, working, Faults.answer, List.lookup_nil]
  rw [applied]
  exact ⟨.idle (refused_of_started rfl) rfl rfl, fits.1, owner, fits.2, rfl⟩

/-- An event that is judged is marked as the rules have it. -/
theorem judged_proceeds (working : desk.faults = []) {id : EventId} {copy : Event}
    {outcome : RuleOutcome} (fits : (judged id copy outcome).Fits desk.rules)
    (found : desk.events.get? id = some copy) :
    Proceeds desk (judged id copy outcome) (advance storage (judged id copy outcome, desk)) := by
  obtain ⟨-, owner, isOwner, isOutcome⟩ := fits
  have marked : outcome.patch copy.categoryId copy = desk.rules.mark copy := by
    rw [isOutcome, Rule.patch_applyAll]
    simp only [RuleStore.mark, isOwner]
  have marks : advance storage (judged id copy outcome, desk) = (answered (.ok .clean),
      { desk with events := desk.events.put (desk.rules.mark copy) }) := by
    rcases settle_cases desk found copy.categoryId outcome with
      ⟨request, -, cause, fault, -⟩ | settled
    · rw [working] at fault
      cases fault
    · simp only [advance, settled, marked]
  rw [marks]
  exact ⟨.mark id copy outcome, trivial⟩

/-- The recordings that hold copies go on as said. -/
theorem advance_proceeds (working : desk.faults = []) (lends : desk.Lends copies) {stage : Stage}
    (fits : stage.Fits desk.rules) (held : ∀ copy ∈ stage.copy?, copy ∈ copies) :
    Proceeds desk stage (advance storage (stage, desk)) := by
  cases stage with
  | submitted event => exact submitted_proceeds working event
  | stored owner id copy => exact stored_proceeds working fits
  | judged id copy outcome =>
    have found := lends.numbered.get?_of_mem lends.room (lends.listed copy (held copy rfl)) fits.1
    exact judged_proceeds working fits found
  | answered answer => exact ⟨.idle (refused_of_started rfl) rfl rfl, trivial⟩

end Moves

end Stage

/-- Record events one after the other. -/
def createAll {σ : Type} (storage : EventStorage σ) (events : List Event) (state : σ) : σ :=
  events.foldl (fun state event => (create storage event state).2) state

/-- Recordings that go on at the same time, and the storage that they share. -/
structure Traffic (σ : Type) where
  /-- The recordings; each is known by its place. -/
  calls : List Stage
  state : σ

namespace Traffic

section Turns

variable {σ : Type} (storage : EventStorage σ)

/-- Events that are submitted at the same time. -/
def start (events : List Event) (state : σ) : Traffic σ := ⟨events.map .submitted, state⟩

/-- One recording goes on with its next request. -/
def turn (traffic : Traffic σ) (caller : Nat) : Traffic σ :=
  match traffic.calls[caller]? with
  | none => traffic
  | some stage =>
    let next := Stage.advance storage (stage, traffic.state)
    ⟨traffic.calls.set caller next.1, next.2⟩

/-- The recordings go on in turns. -/
def run (traffic : Traffic σ) (turns : List Nat) : Traffic σ := turns.foldl (turn storage) traffic

/-- The event that a recording is about to submit to the storage. -/
def submits (traffic : Traffic σ) (caller : Nat) : Option Event :=
  traffic.calls[caller]?.bind Stage.event?

/-- The events in the order in which they are submitted to the storage. -/
def submissions (traffic : Traffic σ) : List Nat -> List Event
  | [] => []
  | caller :: turns =>
    (traffic.submits caller).toList ++ submissions (traffic.turn storage caller) turns

/-- All recordings have answered. -/
def Finished (traffic : Traffic σ) : Prop := ∀ stage ∈ traffic.calls, stage.isAnswered = true

/-- The events that have not been submitted to the storage. -/
def waiting (traffic : Traffic σ) : List Event := traffic.calls.filterMap Stage.event?

/-- The copies that the recordings hold. -/
def copies (traffic : Traffic σ) : List Event := traffic.calls.filterMap Stage.copy?

/-- In a turn one recording goes on, or there is none in that place. -/
theorem turn_cases (traffic : Traffic σ) (caller : Nat) :
    (traffic.turn storage caller = traffic ∧ traffic.submits caller = none) ∨
      ∃ before stage after, traffic.calls = before ++ stage :: after ∧
        traffic.submits caller = stage.event? ∧
        let next := Stage.advance storage (stage, traffic.state)
        traffic.turn storage caller = ⟨before ++ next.1 :: after, next.2⟩ := by
  unfold turn submits
  cases here : traffic.calls[caller]? with
  | none => exact .inl ⟨rfl, rfl⟩
  | some stage =>
    obtain ⟨below, isStage⟩ := List.getElem?_eq_some_iff.mp here
    refine .inr ⟨traffic.calls.take caller, stage, traffic.calls.drop (caller + 1), ?_, rfl, ?_⟩
    · rw [← isStage, List.getElem_cons_drop, List.take_append_drop]
    · dsimp only
      rw [List.set_eq_take_append_cons_drop, if_pos below]

/-- What is picked from calls is what is picked from one of them and from the others. -/
theorem filterMap_split {α β : Type} (pick : α -> Option β) (before : List α) (call : α)
    (after : List α) : ((before ++ call :: after).filterMap pick).Perm
      ((pick call).toList ++ (before ++ after).filterMap pick) := by
  refine (List.perm_middle.filterMap pick).trans ?_
  rw [List.filterMap_cons]
  cases pick call <;> exact .refl _

end Turns

/-- What holds of recordings and their storage as long as no request is refused. -/
structure Sound (traffic : Traffic RuledEvents) : Prop where
  working : traffic.state.faults = []
  lends : traffic.state.Lends traffic.copies
  room : traffic.state.events.events.length + traffic.waiting.length <= EventStore.idSupply
  fits : ∀ stage ∈ traffic.calls, stage.Fits traffic.state.rules

/-- The desk that is left if the recordings under way come to their end without new ones. -/
def outlook (traffic : Traffic RuledEvents) : RuledEvents :=
  traffic.state.outlook traffic.copies

section Split

variable {before after : List Stage} {stage : Stage} {desk : RuledEvents}

theorem outlook_split : outlook ⟨before ++ stage :: after, desk⟩ =
    desk.outlook (stage.copy?.toList ++ (before ++ after).filterMap Stage.copy?) :=
  outlook_congr (fun _ => (filterMap_split Stage.copy? before stage after).mem_iff)

/-- What holds of all recordings, said of one of them and of the others. -/
theorem sound_split : Sound ⟨before ++ stage :: after, desk⟩ ↔
    desk.faults = [] ∧
      desk.Lends (stage.copy?.toList ++ (before ++ after).filterMap Stage.copy?) ∧
      desk.events.events.length +
        (stage.event?.toList ++ (before ++ after).filterMap Stage.event?).length <=
          EventStore.idSupply ∧
      stage.Fits desk.rules ∧ ∀ other ∈ before ++ after, other.Fits desk.rules := by
  have lent := filterMap_split Stage.copy? before stage after
  have wait := filterMap_split Stage.event? before stage after
  have fit : (∀ other ∈ before ++ stage :: after, other.Fits desk.rules) ↔
      stage.Fits desk.rules ∧ ∀ other ∈ before ++ after, other.Fits desk.rules := by
    rw [← List.forall_mem_cons]
    simp only [List.perm_middle.mem_iff]
  rw [← wait.length_eq, ← fit]
  constructor
  · rintro ⟨working, lends, room, fits⟩
    exact ⟨working, lends.perm lent, room, fits⟩
  · rintro ⟨working, lends, room, fits⟩
    exact ⟨working, lends.perm lent.symm, room, fits⟩

/-- One recording goes on: the outlook changes with the event that it submits as if the event were
recorded at once. -/
theorem Sound.proceed (sound : Sound ⟨before ++ stage :: after, desk⟩) {next : Stage}
    {state : RuledEvents} (proceeds : stage.Proceeds desk (next, state)) :
    Sound ⟨before ++ next :: after, state⟩ ∧
      outlook ⟨before ++ next :: after, state⟩ =
        createAll storage stage.event?.toList (outlook ⟨before ++ stage :: after, desk⟩) := by
  rw [outlook_split, outlook_split]
  rw [sound_split] at sound ⊢
  obtain ⟨working, lends, room, -, fits⟩ := sound
  obtain ⟨move, nextFits⟩ := proceeds
  dsimp only at move nextFits
  -- Of the other recordings only their copies and the number of their events matter.
  generalize (before ++ after).filterMap Stage.copy? = others at lends ⊢
  generalize (before ++ after).filterMap Stage.event? = waiting at room ⊢
  cases move with
  | store event owner admitted =>
    have free : desk.events.events.length < EventStore.idSupply := by
      simp only [Stage.event?, Option.toList_some, List.length_append, List.length_singleton] at room
      omega
    refine ⟨⟨working, lends.insert free event, ?_, nextFits, fits⟩, ?_⟩
    · simp only [Stage.event?, EventStore.insert, Option.toList_some, Option.toList_none,
        List.length_append, List.length_singleton, List.length_nil] at room ⊢
      omega
    · exact outlook_create lends free working admitted
  | mark id copy outcome =>
    have after := lends.put (RuleStore.mark_id desk.rules copy)
    refine ⟨⟨working, after, ?_, nextFits, fits⟩, lends.outlook_put⟩
    rw [EventStore.length_put]
    exact room
  | idle refused started kept =>
    rw [kept, started]
    refine ⟨⟨working, lends, ?_, nextFits, fits⟩, ?_⟩
    · rw [List.length_append] at room
      exact Nat.le_trans (Nat.add_le_add_left (Nat.le_add_left _ _) _) room
    · cases isEvent : stage.event? with
      | none => rfl
      | some event => exact (create_refused _ (refused event isEvent)).1.symm

end Split

section Runs

variable {traffic : Traffic RuledEvents}

/-- A turn of a caller leaves the traffic sound, and on the whole it creates the event that the
caller submits. -/
theorem Sound.turn (sound : traffic.Sound) (caller : Nat) :
    (traffic.turn storage caller).Sound ∧
      (traffic.turn storage caller).outlook =
        createAll storage (traffic.submits caller).toList traffic.outlook := by
  rcases turn_cases storage traffic caller with
    ⟨idle, submits⟩ | ⟨before, stage, after, calls, submits, goes⟩
  · rw [idle, submits]
    exact ⟨sound, rfl⟩
  · obtain ⟨_, desk⟩ := traffic
    dsimp only at calls goes
    subst calls
    have held : ∀ copy ∈ stage.copy?, copy ∈ copies ⟨before ++ stage :: after, desk⟩ :=
      fun copy held => List.mem_filterMap.mpr
        ⟨stage, List.mem_append_right _ List.mem_cons_self, held⟩
    have fits := sound.fits stage (List.mem_append_right _ List.mem_cons_self)
    rw [goes, submits]
    exact sound.proceed (Stage.advance_proceeds sound.working sound.lends fits held)

/-- Whatever the turns are, the submitted events change the outlook as if they were recorded one
after the other. -/
theorem Sound.run (sound : traffic.Sound) (turns : List Nat) :
    (traffic.run storage turns).Sound ∧
      (traffic.run storage turns).outlook =
        createAll storage (traffic.submissions storage turns) traffic.outlook := by
  induction turns generalizing traffic with
  | nil => exact ⟨sound, rfl⟩
  | cons caller turns ih =>
    obtain ⟨next, here⟩ := sound.turn caller
    obtain ⟨last, later⟩ := ih next
    refine ⟨last, later.trans ?_⟩
    rw [here, submissions]
    exact (List.foldl_append ..).symm

end Runs

section Submissions

variable {σ : Type} (storage : EventStorage σ)

/-- After its first request the event of a recording does not wait any more. -/
theorem event?_advance (stage : Stage) (state : σ) :
    (Stage.advance storage (stage, state)).1.event? = none := by
  unfold Stage.advance
  repeat' split
  all_goals rfl

/-- A turn submits one of the events that wait, or none. -/
theorem waiting_turn (traffic : Traffic σ) (caller : Nat) :
    traffic.waiting.Perm
      ((traffic.submits caller).toList ++ (traffic.turn storage caller).waiting) := by
  rcases turn_cases storage traffic caller with
    ⟨idle, submits⟩ | ⟨before, stage, after, calls, submits, goes⟩
  · rw [idle, submits]
    exact .refl _
  · have others : (traffic.turn storage caller).waiting.Perm
        ((before ++ after).filterMap Stage.event?) := by
      rw [goes]
      have split := filterMap_split Stage.event? before
        (Stage.advance storage (stage, traffic.state)).1 after
      rwa [event?_advance] at split
    rw [submits, waiting, calls]
    exact (filterMap_split Stage.event? before stage after).trans (others.symm.append_left _)

/-- Every event is submitted once or waits. -/
theorem waiting_run (traffic : Traffic σ) (turns : List Nat) :
    traffic.waiting.Perm
      (traffic.submissions storage turns ++ (traffic.run storage turns).waiting) := by
  induction turns generalizing traffic with
  | nil => exact .refl _
  | cons caller turns ih =>
    rw [submissions, List.append_assoc]
    exact (waiting_turn storage traffic caller).trans ((ih _).append_left _)

end Submissions

section Ends

variable {σ : Type}

theorem waiting_start (events : List Event) (state : σ) : (start events state).waiting = events := by
  unfold waiting start
  rw [List.filterMap_map]
  exact List.filterMap_some

theorem copies_start (events : List Event) (state : σ) : (start events state).copies = [] := by
  refine List.filterMap_eq_nil_iff.mpr (fun stage listed => ?_)
  obtain ⟨event, -, rfl⟩ := List.mem_map.mp listed
  rfl

/-- A recording that has answered has no event to store, and no copy of one. -/
theorem Finished.silent {traffic : Traffic σ} (finished : traffic.Finished) :
    ∀ stage ∈ traffic.calls, stage.event? = none ∧ stage.copy? = none := by
  intro stage listed
  cases stage with
  | answered answer => exact ⟨rfl, rfl⟩
  | submitted _ | stored _ _ _ | judged _ _ _ => cases finished _ listed

theorem Finished.waiting {traffic : Traffic σ} (finished : traffic.Finished) :
    traffic.waiting = [] :=
  List.filterMap_eq_nil_iff.mpr (fun stage listed => (finished.silent stage listed).1)

theorem Finished.copies {traffic : Traffic σ} (finished : traffic.Finished) :
    traffic.copies = [] :=
  List.filterMap_eq_nil_iff.mpr (fun stage listed => (finished.silent stage listed).2)

/-- Traffic is sound when no event has been submitted. -/
theorem sound_start {store : EventStore} (reached : store.Reached) (rules : RuleStore)
    {events : List Event} (room : store.events.length + events.length <= EventStore.idSupply) :
    (start events ⟨store, rules, []⟩).Sound where
  working := rfl
  lends := by
    rw [copies_start]
    exact ⟨reached.numbered, Nat.le_trans (Nat.le_add_right _ _) room,
      List.forall_mem_nil _, .nil⟩
  room := by
    rw [waiting_start]
    exact room
  fits := by
    intro stage listed
    obtain ⟨event, -, rfl⟩ := List.mem_map.mp listed
    trivial

end Ends

end Traffic

open Traffic

/-- When recordings that go on at the same time have all answered, every event has been submitted
once, and the store is the one that they leave one after the other in the order of submission. -/
theorem interleaved {store : EventStore} (reached : store.Reached) (rules : RuleStore)
    (events : List Event) (room : store.events.length + events.length <= EventStore.idSupply)
    (turns : List Nat) (finished : ((start events ⟨store, rules, []⟩).run storage turns).Finished) :
    let traffic := start events ⟨store, rules, []⟩
    let submitted := traffic.submissions storage turns
    submitted.Perm events ∧
      (traffic.run storage turns).state = createAll storage submitted traffic.state := by
  intro traffic submitted
  have once := waiting_run storage traffic turns
  rw [waiting_start, finished.waiting, List.append_nil] at once
  -- Before the first turn and after the last one the outlook is the desk itself.
  have serial := ((sound_start reached rules room).run turns).2
  unfold Traffic.outlook at serial
  rw [finished.copies, copies_start, outlook_nil, outlook_nil] at serial
  exact ⟨once.symm, serial⟩

/-- Two events of one visit, recorded at the same time: the second one is stored first, and so it
is the parent of the other one. -/
theorem interleaved_visits :
    let rules : RuleStore := ⟨[everyEvent (.categorize 5)]⟩
    let other : Event := { visit with name := some "other" }
    let traffic := start [visit, other] ⟨.empty, rules, []⟩
    (traffic.run storage [1, 0, 0, 1, 0, 1]).state =
        createAll storage [other, visit] ⟨.empty, rules, []⟩ ∧
      (traffic.run storage [1, 0, 0, 1, 0, 1]).state.events =
        ⟨[{ other with id := some 1, categoryId := some 5 },
          { visit with id := some 2, parentId := some 1, categoryId := some 5 }]⟩ := by
  intro rules other traffic
  have finished : (traffic.run storage [1, 0, 0, 1, 0, 1]).Finished := by
    unfold Finished
    decide +kernel
  have serial : (traffic.run storage [1, 0, 0, 1, 0, 1]).state =
      createAll storage [other, visit] ⟨.empty, rules, []⟩ :=
    (interleaved .empty rules [visit, other] (by decide) [1, 0, 0, 1, 0, 1] finished).2
  refine ⟨serial, ?_⟩
  rw [serial]
  decide +kernel

end EventLog

end Outreach
