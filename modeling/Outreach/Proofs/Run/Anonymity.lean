import Outreach.Proofs.Events.Chronicle
import Outreach.Proofs.Events.Recording
import Outreach.Proofs.Run.Requests
import Outreach.Rehearsal.Samples
import Outreach.Steps.Log

/-!
# Events without a name

An anonymous event says nothing of the contact. Whoever the contact of the run is and whatever ticket
the visitor holds, the same event is handed over for recording, and all goes the same way from there
(`unidentified`). With the rules applied to it, the store ends up the same, and the identity of no
event in it is touched.
-/

namespace Outreach

/-- Who an event is about. -/
def Event.identity (event : Event) : Option ContactId × Option String :=
  (event.contactId, event.contactMail)

/-- The services with a note of the events that were handed over for recording, each with the users who
learn of it. -/
def Services.noting {σ : Type} (services : Services σ) : Services (σ × List (Event × List UserId)) :=
  { services.lift Prod.fst (fun part whole => (part, whole.2)) with
    record := fun event users whole =>
      let (answer, part) := services.record event users whole.1
      (answer, (part, whole.2 ++ [(event, users)])) }

namespace EventStore

/-- The identity of an event is settled when it is stored. -/
theorem identities_apply (store : EventStore) (command : Command) :
    (store.apply command).2.events.map Event.identity =
      store.events.map Event.identity ++ command.event?.toList.map Event.identity := by
  have changed (id : EventId) (change : Event -> Event)
      (kept : forall event, (change event).identity = event.identity) :
      (store.change id change).2.events.map Event.identity =
        store.events.map Event.identity ++ [] := by
    rw [List.append_nil, EventStore.change]
    split
    · exact map_changeFirst Event.identity _ kept store.events
    · rfl
  cases command with
  | insert event => exact List.map_append
  | remove id => exact changed id _ (fun _ => rfl)
  | setCategory id category => exact changed id _ (fun _ => rfl)

/-- Commands add the identities of the events that they submit. -/
theorem identities_after (store : EventStore) (commands : List Command) :
    (store.after commands).events.map Event.identity =
      store.events.map Event.identity ++ (submitted commands).map Event.identity := by
  induction commands generalizing store with
  | nil => simp [after, submitted]
  | cons command rest ih =>
    have later : store.after (command :: rest) = (store.apply command).2.after rest := rfl
    rw [later, ih, identities_apply, List.append_assoc, ← List.map_append]
    congr 2
    cases picked : command.event? with
    | none => simp [submitted, picked]
    | some event => simp [submitted, picked]

end EventStore

namespace EventLog

open RuledEvents EventStore

/-- A change of the stored events comes to a command that submits nothing, or to none. -/
theorem update_after (desk : RuledEvents) (request : Request) (command : Command)
    (settles : command.event? = none) :
    ∃ commands, submitted commands = [] ∧
      (desk.update request (fun events => events.apply command)).2.events =
        desk.events.after commands := by
  rcases answer_cases desk.faults request desk (fun _ =>
    ((desk.events.apply command).1, { desk with events := (desk.events.apply command).2 })) with
    ⟨cause, -, refused⟩ | ⟨-, answered⟩
  · exact ⟨[], rfl, congrArg (fun reply => reply.2.events) refused⟩
  · refine ⟨[command], by simp [submitted, settles], ?_⟩
    exact congrArg (fun reply => reply.2.events) answered

theorem settle_after (desk : RuledEvents) (id : EventId) (before : Option CategoryId)
    (outcome : RuleOutcome) :
    ∃ commands, submitted commands = [] ∧
      (settle storage id before outcome desk).2.events = desk.events.after commands := by
  unfold settle
  split
  · exact update_after desk .removeEvent (.remove id) rfl
  · split
    · rename_i category _
      split
      · exact ⟨[], rfl, rfl⟩
      · exact update_after desk .setCategory (.setCategory id category) rfl
    · exact ⟨[], rfl, rfl⟩

theorem judge_after (desk : RuledEvents) (owner : UserId) (id : EventId) (copy : Event) :
    ∃ commands, submitted commands = [] ∧
      (judge storage owner id copy desk).2.events = desk.events.after commands := by
  rcases answer_cases desk.faults .rulesFor desk
    (fun _ => (.ok (desk.rules.rulesFor owner), desk)) with ⟨cause, -, refused⟩ | ⟨-, answered⟩
  · refine ⟨[], rfl, ?_⟩
    simp only [judge, storage, refused]
    rfl
  · obtain ⟨commands, none, settled⟩ := settle_after desk id copy.categoryId
      (Rule.applyAll (desk.rules.rulesFor owner) copy).1
    refine ⟨commands, none, ?_⟩
    simp only [judge, storage, answered]
    exact settled

/-- The recording of an event comes to commands that submit the event, or to none. -/
theorem create_after (desk : RuledEvents) (event : Event) :
    ∃ commands, submitted commands <+: [event] ∧
      (create storage event desk).2.events = desk.events.after commands := by
  rcases @create_cases event desk with ⟨untouched, -⟩ | ⟨owner, -, judged⟩
  · exact ⟨[], List.nil_prefix, congrArg RuledEvents.events untouched⟩
  · obtain ⟨commands, none, settled⟩ := judge_after
      { desk with events := (desk.events.insert event).2 } owner desk.events.nextId
      (desk.events.prepared event)
    refine ⟨.insert event :: commands, ?_, ?_⟩
    · have alone : submitted (.insert event :: commands) = [event] := congrArg (event :: ·) none
      exact alone ▸ List.prefix_refl _
    · rw [judged]
      exact settled

end EventLog

/-- The recording of an event in a rehearsal with rules comes to commands that submit the event, or to
none. -/
theorem Rehearsal.record_ruled {world : Rehearsal} {ruled : RuledEvents}
    (isRuled : world.events = .ruled ruled) (event : Event) (users : List UserId) :
    ∃ later commands, EventStore.submitted commands <+: [event] ∧
      (world.record event users).2.events = .ruled later ∧
      later.events = ruled.events.after commands := by
  unfold Rehearsal.record Faults.answer
  cases world.faults.lookup .record with
  | some cause => exact ⟨ruled, [], List.nil_prefix, isRuled, rfl⟩
  | none =>
    simp only [isRuled]
    obtain ⟨commands, submits, same⟩ :=
      EventLog.create_after { ruled with faults := world.faults } event
    exact ⟨_, commands, submits, rfl, same⟩

namespace Steps

variable {context : Context} {name : Option String}

/-- An anonymous event is the same, whoever the contact is and whatever the ticket. -/
theorem assembleEvent_anonymous (context : Context) (contact : Option Contact)
    (ticket : Option Ticket) (now : Instant) (name : Option String) :
    assembleEvent { context with contact, ticket } now true name =
      assembleEvent context now true name := rfl

/-- What comes of a step whose event has been reviewed, or refused. -/
def logged : Except ServiceError Review -> Except StepFault Outcome
  | .ok review =>
    .ok (if review.accepts then .success
      else .failedWith (String.intercalate "; " review.complaints))
  | .error (.backend detail) => .error (.service (.backend detail))
  | .error other => .ok (.failedWith other.message)

/-- An anonymous log hands its event over, and leaves the context alone. -/
theorem log_anonymous {σ : Type} (services : Services σ)
    (said : context.currentAction.configuration = .ok (.log true name)) (world : σ) :
    (log services).guarded ⟨context, world, false⟩ =
      let reply := services.record (assembleEvent context (services.now world) true name)
        context.project.recipients world
      (logged reply.1, ⟨context, reply.2, false⟩) := by
  simp only [Step.guarded, Bool.false_eq_true, if_false, log, Context.configured, said, Bool.not_true,
    Bool.false_and]
  cases services.record (assembleEvent context (services.now world) true name)
    context.project.recipients world with
  | mk answer after =>
    cases answer with
    | ok review =>
      simp only [StepResult.ofReply, logged]
      split <;> rfl
    | error cause => cases cause <;> rfl

/-- An anonymous log says nothing of the contact: the event that it hands over names nobody, and it is
the same one for every contact and every ticket, as is the answer and all that is left behind, a
changed context aside that nobody has changed. If the rules of its owner are applied to it, the events
in the store are the same in the end, too. At most one has come to them, which is about nobody, and
those that were there are about whom they were about. -/
theorem unidentified (said : context.currentAction.configuration = .ok (.log true name)) :
    (forall (σ : Type) (services : Services σ) (world : σ) (cancelled : Bool),
      ∃ event : Event, event.identity = (none, none) ∧
        forall (contact : Option Contact) (ticket : Option Ticket),
          let ended := (log services).guarded ⟨context, world, cancelled⟩
          let handed := if cancelled then [] else [(event, context.project.recipients)]
          (log services.noting).guarded
              ⟨{ context with contact, ticket }, (world, []), cancelled⟩ =
            (ended.1, ⟨{ context with contact, ticket }, (ended.2.world, handed), cancelled⟩)) ∧
    (forall (lifetime : Span) (world : Rehearsal) (ruled : RuledEvents) (cancelled : Bool),
      world.events = .ruled ruled ->
        ∃ (later : RuledEvents) (added : List (Option ContactId × Option String)),
          added <+: [(none, none)] ∧
          later.events.events.map Event.identity =
            ruled.events.events.map Event.identity ++ added ∧
          forall (contact : Option Contact) (ticket : Option Ticket),
            ((log (Rehearsal.services lifetime)).guarded
              ⟨{ context with contact, ticket }, world, cancelled⟩).2.world.events = .ruled later) := by
  constructor
  · intro σ services world cancelled
    refine ⟨assembleEvent context (services.now world) true name, rfl, fun contact ticket => ?_⟩
    intro ended handed
    cases cancelled with
    | true => rfl
    | false =>
      have said' : { context with contact, ticket }.currentAction.configuration =
          .ok (.log true name) := said
      have noted := log_anonymous services.noting said' (world, [])
      rw [assembleEvent_anonymous] at noted
      unfold ended
      rw [log_anonymous services said world]
      exact noted
  · intro lifetime world ruled cancelled isRuled
    cases cancelled with
    | true => exact ⟨ruled, [], List.nil_prefix, (List.append_nil _).symm, fun _ _ => isRuled⟩
    | false =>
      let event := assembleEvent context world.now true name
      obtain ⟨later, commands, submits, recorded, same⟩ :=
        Rehearsal.record_ruled isRuled event context.project.recipients
      refine ⟨later, (EventStore.submitted commands).map Event.identity, ?_, ?_, ?_⟩
      · exact submits.map Event.identity
      · rw [same, EventStore.identities_after]
      · intro contact ticket
        have said' : { context with contact, ticket }.currentAction.configuration =
            .ok (.log true name) := said
        rw [log_anonymous (Rehearsal.services lifetime) said' world, assembleEvent_anonymous]
        exact recorded

end Steps

namespace Bystander

open Steps

/-- A run whose events start from one that names somebody, and whose action records one without a
name. -/
def visit : Context :=
  { Context.start Sample.project 1 with
    currentAction :=
      { CurrentAction.anchor 2 with
        kind := .log
        options := .object [("anonymous", .bool true), ("name", .string "visited")] }
    event := { Event.blank with contactId := some 9, contactMail := some "other@example.com" } }

/-- The run of a visit by somebody. -/
def visitOf (contact : Option Contact) : Context := { visit with contact, ticket := none }

def world : Rehearsal := { Rehearsal.start .epoch .empty with events := .ruled ⟨.empty, ⟨[]⟩, []⟩ }

def services : Services Rehearsal := Rehearsal.services .zero

/-- A visit by a lead and one by nobody hand over the same event, which names nobody, and the store has
one event in the end, which is about nobody. -/
theorem unidentified_bystander :
    (∃ event : Event, event.identity = (none, none) ∧ ∀ contact ∈ [none, some Sample.contact],
      ((log services.noting).guarded ⟨visitOf contact, (world, []), false⟩).2.world.2 =
        [(event, ["owner-1", "analyst-1"])]) ∧
    ∃ later : RuledEvents, later.events.events.map Event.identity = [(none, none)] ∧
      ∀ contact ∈ [none, some Sample.contact],
        ((log services).guarded ⟨visitOf contact, world, false⟩).2.world.events = .ruled later := by
  have said : visit.currentAction.configuration = .ok (.log true (some "visited")) := rfl
  obtain ⟨handed, stored⟩ := unidentified said
  have recipients : visit.project.recipients = ["owner-1", "analyst-1"] := by decide
  constructor
  · obtain ⟨event, unnamed, ended⟩ := handed Rehearsal services world false
    refine ⟨event, unnamed, fun contact _ => ?_⟩
    rw [← recipients]
    exact congrArg (fun ended => ended.2.world.2) (ended contact none)
  · obtain ⟨later, added, nobody, identities, ended⟩ :=
      stored .zero world ⟨.empty, ⟨[]⟩, []⟩ false rfl
    have counted : (match ((log services).guarded ⟨visitOf none, world, false⟩).2.world.events with
        | .ruled ruled => ruled.events.events.length
        | .journal _ => 0) = 1 := by decide +kernel
    have same : ((log services).guarded ⟨visitOf none, world, false⟩).2.world.events = .ruled later :=
      ended none none
    rw [same] at counted
    have about : later.events.events.map Event.identity <+: [(none, none)] := identities ▸ nobody
    exact ⟨later, about.eq_of_length (by simpa using counted), fun contact _ => ended contact none⟩

end Bystander

end Outreach
