import Outreach.Proofs.Events.Numbering
import Outreach.Proofs.Rules.Marking
import Outreach.Rehearsal.Basic

/-!
# What the recording of an event leaves

An event is stored first; then the rules of its owner are asked for, and what they changed is
stored. If all goes well the store has one event more, marked as the rules say: `recorded`. A
refusal before the event is stored leaves the store alone. A refusal after that leaves the event
behind as it was stored, without its rules: `left_behind`.
-/

namespace Outreach

/-- Whether an event is handed to the storage: its review accepts it, and it belongs to
somebody. -/
def EventLog.admits (event : Event) : Bool := (review event).accepts && event.ownerId.isSome

namespace RuledEvents

/-- The requests that are made for an event once it is stored. -/
def laterRequests : List Request := [.rulesFor, .removeEvent, .setCategory]

/-- A request is refused and changes nothing, or it is answered. -/
theorem answer_cases {σ α : Type} (faults : Faults) (request : Request) (state : σ)
    (reply : Unit -> Reply σ α) :
    (∃ cause, faults.lookup request = some cause ∧
        faults.answer request state reply = (.error cause, state)) ∨
      faults.lookup request = none ∧ faults.answer request state reply = reply () := by
  unfold Faults.answer
  cases faults.lookup request with
  | some cause => exact .inl ⟨cause, rfl, rfl⟩
  | none => exact .inr ⟨rfl, rfl⟩

/-- A request for something that follows the insertion of an event is refused, and nothing is
changed. -/
def Refuses {α : Type} (desk : RuledEvents) (reply : Reply RuledEvents α) : Prop :=
  ∃ request ∈ laterRequests, ∃ cause,
    desk.faults.lookup request = some cause ∧ reply = (.error cause, desk)

/-- A change of an event that is there is made unless the request is refused. -/
theorem update_cases (desk : RuledEvents) {request : Request} (later : request ∈ laterRequests)
    {id : EventId} {held : Event} (change : Event -> Event) (found : desk.events.get? id = some held)
    (kept : (change held).id = held.id) :
    desk.Refuses (desk.update request (fun events => events.change id change)) ∨
      desk.update request (fun events => events.change id change) =
        (.ok (), { desk with events := desk.events.put (change held) }) := by
  have changed : desk.events.change id change = (.ok (), desk.events.put (change held)) :=
    EventStore.change_eq_put found kept
  rcases answer_cases desk.faults request desk (fun _ =>
    (.ok (), { desk with events := desk.events.put (change held) })) with
    ⟨cause, fault, refused⟩ | ⟨-, answered⟩
  · refine .inl ⟨request, later, cause, fault, ?_⟩
    rw [update, changed]
    exact refused
  · refine .inr ?_
    rw [update, changed]
    exact answered

end RuledEvents

namespace EventLog

open RuledEvents

section Steps

variable (desk : RuledEvents) {id : EventId} {held : Event}

/-- What an outcome changed is stored unless a request is refused. -/
theorem settle_cases (found : desk.events.get? id = some held) (before : Option CategoryId)
    (outcome : RuleOutcome) :
    desk.Refuses (settle storage id before outcome desk) ∨
      settle storage id before outcome desk =
        (.ok (), { desk with events := desk.events.put (outcome.patch before held) }) := by
  have idle : desk.events.put held = desk.events := EventStore.put_same found
  unfold settle RuleOutcome.patch
  cases outcome.removed with
  | true => exact update_cases desk (by decide) (fun event => { event with deleted := true }) found rfl
  | false =>
    simp only [Bool.false_eq_true, if_false]
    cases outcome.categoryId with
    | none => exact .inr (by rw [idle])
    | some category =>
      by_cases same : some category = before
      · simp only [same, if_true]
        exact .inr (by rw [idle])
      · simp only [same, if_false]
        exact update_cases desk (by decide) (fun event => { event with categoryId := some category })
          found rfl

/-- The rules of an owner are applied to the caller's copy of an event, and what they changed is
stored, unless a request is refused. -/
theorem judge_cases (found : desk.events.get? id = some held) (owner : UserId) (copy : Event) :
    desk.Refuses (judge storage owner id copy desk) ∨
      judge storage owner id copy desk =
        (.ok (), { desk with
          events := desk.events.put
            ((Rule.applyAll (desk.rules.rulesFor owner) copy).1.patch copy.categoryId held) }) := by
  rcases answer_cases desk.faults .rulesFor desk
    (fun _ => (.ok (desk.rules.rulesFor owner), desk)) with ⟨cause, fault, refused⟩ | ⟨-, answered⟩
  · refine .inl ⟨.rulesFor, by decide, cause, fault, ?_⟩
    simp only [judge, storage, refused]
  · have judged : judge storage owner id copy desk = settle storage id copy.categoryId
        (Rule.applyAll (desk.rules.rulesFor owner) copy).1 desk := by
      simp only [judge, storage, answered]
    rw [judged]
    exact settle_cases desk found _ _

end Steps

section Creation

variable {event : Event}

theorem ne_clean_of_not_accepts {review : Review} (refused : review.accepts = false) :
    review ≠ .clean := by
  rintro rfl
  cases refused

/-- An event that is not admitted leaves any storage alone. -/
theorem create_refused {σ : Type} {storage : EventStorage σ} (state : σ)
    (refused : admits event = false) :
    (create storage event state).2 = state ∧ (create storage event state).1 ≠ .ok .clean := by
  unfold create
  cases accepted : (review event).accepts with
  | false =>
    refine ⟨rfl, fun clean => ?_⟩
    exact ne_clean_of_not_accepts accepted (Except.ok.inj clean)
  | true =>
    cases owner : event.ownerId with
    | none => exact ⟨rfl, nofun⟩
    | some owner => simp [admits, accepted, owner] at refused

variable (desk : RuledEvents)

/-- An admitted event that is stored is judged then. -/
theorem create_stored (admitted : admits event = true) {owner : UserId}
    (isOwner : event.ownerId = some owner) (working : desk.faults.lookup .insertEvent = none) :
    create storage event desk =
      let (answer, after) := judge storage owner desk.events.nextId (desk.events.prepared event)
        { desk with events := (desk.events.insert event).2 }
      (answer.map (fun _ => .clean), after) := by
  have accepted : (review event).accepts = true := (Bool.and_eq_true_iff.mp admitted).1
  have inserted : storage.insert event desk =
      (.ok (desk.events.prepared event), { desk with events := (desk.events.insert event).2 }) := by
    simp only [storage, RuledEvents.insert, working, Faults.answer]
    rfl
  have kept : (desk.events.prepared event).ownerId = some owner := isOwner
  have numbered : (desk.events.prepared event).id = some desk.events.nextId := rfl
  simp only [create, accepted, isOwner, inserted, kept, numbered]
  cases judge storage owner desk.events.nextId (desk.events.prepared event)
    { desk with events := (desk.events.insert event).2 } with
  | mk answer after => cases answer <;> rfl

/-- An event that the storage does not take leaves everything alone. -/
theorem create_untaken {cause : ServiceError}
    (fault : desk.faults.lookup .insertEvent = some cause) :
    (create storage event desk).2 = desk ∧ (create storage event desk).1 ≠ .ok .clean := by
  cases admitted : admits event with
  | false => exact create_refused desk admitted
  | true =>
    obtain ⟨accepted, owned⟩ := Bool.and_eq_true_iff.mp admitted
    obtain ⟨owner, isOwner⟩ := Option.isSome_iff_exists.mp owned
    -- The storage refuses, or it answers the event without an id and has not stored it.
    by_cases absent : cause = noId
    · have answered : storage.insert event desk = (.ok { event with id := none }, desk) := by
        simp only [storage, RuledEvents.insert, fault, absent, if_true]
      simp only [create, accepted, isOwner, answered]
      exact ⟨rfl, nofun⟩
    · have refused : storage.insert event desk = (.error cause, desk) := by
        have other : some cause ≠ some noId := fun same => absent (Option.some.inj same)
        simp only [storage, RuledEvents.insert, fault, other, if_false, Faults.answer]
      simp only [create, accepted, isOwner, refused]
      exact ⟨rfl, nofun⟩

/-- The recording of an event leaves everything alone, or it comes to storing the event. -/
theorem create_cases :
    ((create storage event desk).2 = desk ∧ (create storage event desk).1 ≠ .ok .clean) ∨
      ∃ owner, event.ownerId = some owner ∧ create storage event desk =
        let (answer, after) := judge storage owner desk.events.nextId (desk.events.prepared event)
          { desk with events := (desk.events.insert event).2 }
        (answer.map (fun _ => .clean), after) := by
  cases working : desk.faults.lookup .insertEvent with
  | some cause => exact .inl (create_untaken desk working)
  | none =>
    cases admitted : admits event with
    | false => exact .inl (create_refused desk admitted)
    | true =>
      obtain ⟨owner, isOwner⟩ := Option.isSome_iff_exists.mp (Bool.and_eq_true_iff.mp admitted).2
      exact .inr ⟨owner, isOwner, create_stored desk admitted isOwner working⟩

end Creation

/-- If an event is not recorded, everything is as it was before, or the event has been stored, a
later request was refused for it, and the event is left behind as it was stored. -/
theorem left_behind {desk : RuledEvents} {event : Event}
    (failed : (create storage event desk).1 ≠ .ok .clean) :
    (create storage event desk).2 = desk ∨
      ∃ request ∈ laterRequests, ∃ cause, desk.faults.lookup request = some cause ∧
        create storage event desk =
          (.error cause, { desk with events := (desk.events.insert event).2 }) := by
  rcases create_cases desk with ⟨alone, -⟩ | ⟨owner, -, judged⟩
  · exact .inl alone
  · obtain ⟨held, found⟩ := desk.events.get?_nextId event
    rw [judged] at failed ⊢
    rcases judge_cases { desk with events := (desk.events.insert event).2 } found owner
      (desk.events.prepared event) with ⟨request, later, cause, fault, refused⟩ | settled
    · rw [refused]
      exact .inr ⟨request, later, cause, fault, rfl⟩
    · rw [settled] at failed
      exact absurd rfl failed

/-- A rule for every event of a user. -/
def everyEvent (action : RuleAction) : Rule := (Rule.new 1 "owner-1" "every event").andThen action

/-- An event of that user. -/
def visit : Event :=
  { Event.blank with
    ownerId := some "owner-1", projectId := some 1, name := some "visit"
    correlationUri := some "req-9" }

/-- What a storage says that does not work. -/
def offline : ServiceError := .backend "offline"

/-- A storage that does not find the rules of the event that it has stored. -/
def ruleless : RuledEvents := ⟨.empty, ⟨[everyEvent .remove]⟩, [(.rulesFor, offline)]⟩

theorem left_behind_visit :
    (create storage visit ruleless).1 ≠ .ok .clean ∧
      ((create storage visit ruleless).2 = ruleless ∨
        ∃ request ∈ laterRequests, ∃ cause, ruleless.faults.lookup request = some cause ∧
          create storage visit ruleless =
            (.error cause, { ruleless with events := (ruleless.events.insert visit).2 })) := by
  have failed : (create storage visit ruleless).1 ≠ .ok .clean := by decide +kernel
  exact ⟨failed, left_behind failed⟩

/-- Whether all of an event or nothing is recorded if one kind of request alone may be refused. -/
def AllOrNothing (request : Request) : Prop :=
  forall (events : EventStore) (rules : RuleStore) (cause : ServiceError) (event : Event),
    (create storage event ⟨events, rules, [(request, cause)]⟩).1 ≠ .ok .clean ->
      (create storage event ⟨events, rules, [(request, cause)]⟩).2.events = events

/-- Whichever of the later requests is refused, the event stays without its rules. -/
theorem not_allOrNothing :
    ¬ AllOrNothing .rulesFor ∧ ¬ AllOrNothing .removeEvent ∧ ¬ AllOrNothing .setCategory := by
  refine ⟨fun law => ?_, fun law => ?_, fun law => ?_⟩
  · have kept := law .empty ⟨[]⟩ offline visit (by decide +kernel)
    revert kept
    decide +kernel
  · have kept := law .empty ⟨[everyEvent .remove]⟩ offline visit (by decide +kernel)
    revert kept
    decide +kernel
  · have kept := law .empty ⟨[everyEvent (.categorize 5)]⟩ offline visit (by decide +kernel)
    revert kept
    decide +kernel

/-- Once an event has been stored it is judged: it is marked as the rules of its owner say, unless a
request is refused. -/
theorem judge_inserted {desk : RuledEvents} (numbered : desk.events.Numbered)
    (room : desk.events.events.length < EventStore.idSupply) {event : Event} {owner : UserId}
    (isOwner : event.ownerId = some owner) :
    let inserted : RuledEvents := { desk with events := (desk.events.insert event).2 }
    let reply := judge storage owner desk.events.nextId (desk.events.prepared event) inserted
    inserted.Refuses reply ∨ reply = (.ok (), { desk with
      events := ⟨desk.events.events ++ [desk.rules.mark (desk.events.prepared event)]⟩ }) := by
  intro inserted reply
  have kept : (desk.events.prepared event).ownerId = some owner := isOwner
  have marked : (desk.rules.mark (desk.events.prepared event)).id = some desk.events.nextId :=
    RuleStore.mark_id _ _
  have found : inserted.events.get? desk.events.nextId = some (desk.events.prepared event) :=
    numbered.get?_insert room event
  rcases judge_cases inserted found owner (desk.events.prepared event) with refused | settled
  · exact .inl refused
  · refine .inr (settled.trans ?_)
    rw [Rule.patch_applyAll, ← numbered.put_insert room marked]
    simp only [RuleStore.mark, kept]
    rfl

/-- If no request is refused, an admitted event is stored and marked. -/
theorem create_working (desk : RuledEvents) (working : desk.faults = [])
    (numbered : desk.events.Numbered)
    (room : desk.events.events.length < EventStore.idSupply) (event : Event) :
    (create storage event desk).2 =
      if admits event then
        { desk with
          events := ⟨desk.events.events ++ [desk.rules.mark (desk.events.prepared event)]⟩ }
      else desk := by
  have answers : forall request, desk.faults.lookup request = none := by
    intro request
    rw [working, List.lookup_nil]
  cases admitted : admits event with
  | false => exact (create_refused desk admitted).1
  | true =>
    obtain ⟨owner, isOwner⟩ := Option.isSome_iff_exists.mp (Bool.and_eq_true_iff.mp admitted).2
    rw [create_stored desk admitted isOwner (answers .insertEvent), if_pos rfl]
    rcases judge_inserted numbered room isOwner with ⟨request, -, cause, fault, -⟩ | settled
    · cases (answers request).symm.trans fault
    · rw [settled]

/-- A recorded event is the only one that has been stored, after all that were there before, which
are as they were. It has the next id and the parent of its visit. If its rules removed it, it is
deleted and in the category it came with; if not, it is in the category that the rules left it
in. -/
theorem recorded {desk : RuledEvents} {event : Event} (reached : desk.events.Reached)
    (room : desk.events.events.length < EventStore.idSupply)
    (created : (create storage event desk).1 = .ok .clean) :
    ∃ owner, event.ownerId = some owner ∧
      let stored : Event :=
        { event with id := some desk.events.nextId, parentId := desk.events.parentOf event }
      let outcome := (Rule.applyAll (desk.rules.rulesFor owner) stored).1
      (create storage event desk).2 =
        { desk with
          events := ⟨desk.events.events ++
            [if outcome.removed then { stored with deleted := true }
              else { stored with categoryId := outcome.categoryId, deleted := false }]⟩ } := by
  rcases create_cases desk with ⟨-, unclean⟩ | ⟨owner, isOwner, judged⟩
  · exact absurd created unclean
  · refine ⟨owner, isOwner, ?_⟩
    rw [← EventStore.prepared_eq]
    intro stored outcome
    rw [judged] at created ⊢
    rcases judge_inserted reached.numbered room isOwner with
      ⟨request, -, cause, -, refused⟩ | settled
    · rw [refused] at created
      cases created
    · have kept : stored.ownerId = some owner := isOwner
      have marked : desk.rules.mark stored = outcome.mark stored := by
        simp only [RuleStore.mark, kept]
        rfl
      rw [settled, marked, Rule.mark_applyAll]

/-- The second event of a visit, in the category of its rule. -/
theorem recorded_visit :
    let desk : RuledEvents :=
      ⟨(EventStore.empty.insert visit).2, ⟨[everyEvent (.categorize 5)]⟩, []⟩
    (create storage visit desk).2.events =
      ⟨[{ visit with id := some 1 },
        { visit with id := some 2, parentId := some 1, categoryId := some 5 }]⟩ := by
  intro desk
  have reached : desk.events.Reached := .insert visit .empty
  have created : (create storage visit desk).1 = .ok .clean := by decide +kernel
  obtain ⟨owner, isOwner, stored⟩ := recorded reached (by decide) created
  cases isOwner
  rw [stored]
  decide +kernel

end EventLog

end Outreach
