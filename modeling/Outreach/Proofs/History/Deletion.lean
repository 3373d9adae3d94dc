import Outreach.Proofs.History.Parted
import Outreach.Rehearsal.Samples

/-!
# Runs that have deleted their contact

A run that has deleted its contact comes back to none. Each kind of step looks for that in its own
way: it asks for a contact that is live, it asks whether the contact is deleted, or it has nothing
to do with contacts. Whatever the services are, the step leaves the context alone then, and an
action that logs records an event at most; the other steps make no request that changes anything
(`Steps.idle_forKind`). So from the point on at which its contact is deleted a run only goes from
action to action and records events: `idle_of_deleted`.
-/

namespace Outreach

namespace Context

variable {context : Context}

/-- A step that asks whether the contact is deleted is told so. -/
theorem contactDeleted_deleted (state : context.contactState = .deleted) :
    context.contactDeleted = true := decide_eq_true state

/-- A step that asks for a contact that is live is told that there is none. -/
theorem hasLiveContact_deleted (state : context.contactState = .deleted) :
    context.hasLiveContact = false := by
  rw [hasLiveContact, contactDeleted_deleted state, Bool.not_true, Bool.and_false]

end Context

namespace Steps

variable {σ : Type}

/-- A step that leaves the context alone and does no more than to record an event, if its action
logs. -/
structure Idle (services : Services σ) (kind : ActionKind) (context : Context) (world : σ)
    (result : StepResult σ) : Prop where
  context : result.context = context
  world : result.world = world ∨
    kind = .log ∧ ∃ event users, result.world = (services.record event users world).2

section

variable {services : Services σ} {kind : ActionKind} {context : Context} {world : σ}

/-- A step that ends at once is idle. -/
theorem Idle.finish (outcome : Outcome) :
    Idle services kind context world (.finish outcome context world) :=
  ⟨rfl, .inl rfl⟩

/-- A step that first reads its configuration is idle if what it does next is. -/
theorem Idle.configured {next : Configuration -> StepResult σ}
    (idle : forall configuration, Idle services kind context world (next configuration)) :
    Idle services kind context world (context.configured world next) := by
  unfold Context.configured
  split
  · exact idle _
  · exact .finish _

/-- However the recording of an event is answered, nothing else is done. -/
theorem Idle.ofRecord {event : Event} {users : List UserId} {next : Review -> σ -> StepResult σ}
    (context_next : forall review after, (next review after).context = context)
    (world_next : forall review after, (next review after).world = after) :
    Idle services .log context world
      (.ofReply (services.record event users world) context next) := by
  cases asked : services.record event users world with
  | mk answer after =>
    have recorded : ∃ event users, after = (services.record event users world).2 :=
      ⟨event, users, by rw [asked]⟩
    cases answer with
    | ok review =>
      exact ⟨context_next review after, .inr ⟨rfl, (world_next review after).symm ▸ recorded⟩⟩
    | error cause => cases cause <;> exact ⟨rfl, .inr ⟨rfl, recorded⟩⟩

/-- A redirection asks nothing of the services. -/
theorem idle_redirect : Idle services kind context world (redirect services context world) := by
  refine .configured (fun configuration => ?_)
  split
  · split <;> exact .finish _
  · exact .finish _

/-- An action that logs records one event at most. -/
theorem idle_log : Idle services .log context world (log services context world) := by
  refine .configured (fun configuration => ?_)
  split
  · split
    · exact .finish _
    · refine .ofRecord (fun review after => ?_) (fun review after => ?_)
      · split <;> rfl
      · split <;> rfl
  · exact .finish _

variable (deleted : context.contactState = .deleted)

include deleted

/-- Without a live contact the catalog is not asked for its tags. -/
theorem evaluate_deleted (services : Services σ) (world : σ) (clauses : List Clause) :
    ∃ verdict, evaluate services context clauses world = (.ok verdict, world) := by
  unfold evaluate
  rw [Context.liveContactId_deleted deleted]
  split
  · exact ⟨_, rfl⟩
  · split <;> exact ⟨_, rfl⟩

/-- A condition changes nothing, whatever its verdict. -/
theorem idle_condition : Idle services kind context world (condition services context world) := by
  refine .configured (fun configuration => ?_)
  split
  · rename_i clauses
    obtain ⟨verdict, answered⟩ := evaluate_deleted deleted services world clauses
    rw [answered]
    exact .finish _
  · exact .finish _

/-- A deleted contact gets no ticket. -/
theorem idle_authenticate :
    Idle services kind context world (authenticate services context world) := by
  unfold authenticate
  split
  · exact .finish _
  · rw [if_pos (Context.contactDeleted_deleted deleted)]
    exact .finish _

/-- A deleted contact is not stored again. -/
theorem idle_register : Idle services kind context world (register services context world) := by
  unfold register
  rw [if_pos (Context.contactDeleted_deleted deleted)]
  exact .finish _

/-- A deleted contact is not deleted twice. -/
theorem idle_unregister :
    Idle services kind context world (unregister services context world) := by
  unfold unregister
  rw [Context.liveContactId_deleted deleted]
  exact .finish _

/-- A deleted contact keeps its tags. -/
theorem idle_setTags : Idle services kind context world (setTags services context world) := by
  unfold setTags
  rw [Context.liveContactId_deleted deleted]
  exact .finish _

/-- A deleted contact gets no mail. -/
theorem idle_sendMail : Idle services kind context world (sendMail services context world) := by
  unfold sendMail
  split
  · exact .finish _
  · rw [Context.hasLiveContact_deleted deleted]
    exact .finish _

/-- Nothing is put off for a deleted contact. -/
theorem idle_schedule : Idle services kind context world (schedule services context world) := by
  unfold schedule
  rw [Context.hasLiveContact_deleted deleted]
  exact .finish _

/-- A step in a run that has deleted its contact is idle, whatever the kind of its action. -/
theorem idle_forKind (kind : ActionKind) :
    Idle services kind context world (forKind services kind context world) := by
  cases kind with
  | sequence => exact .finish _
  | control => exact .finish _
  | condition => exact idle_condition deleted
  | authenticate => exact idle_authenticate deleted
  | register => exact idle_register deleted
  | unregister => exact idle_unregister deleted
  | setTags => exact idle_setTags deleted
  | sendMail => exact idle_sendMail deleted
  | redirect => exact idle_redirect
  | schedule => exact idle_schedule deleted
  | log => exact idle_log

end

end Steps

/-- Between two points a run has gone from action to action and recorded events, and nothing else
has happened. -/
structure Run.Idle (before after : Run Rehearsal) : Prop where
  context : after.context =
    { before.context with currentAction := after.context.currentAction }
  world : after.world = { before.world with events := after.world.events }

/-- What the visit of an action leaves of the surroundings: they are as before, or an action that
logs has recorded an event. -/
def Arrival.Recorded (arrival : Arrival Rehearsal) (after : Rehearsal) : Prop :=
  after = arrival.run.world ∨
    arrival.action.kind = .log ∧ ∃ event users,
      after = (Rehearsal.record event users arrival.run.world).2

namespace Run.Idle

variable {first second third : Run Rehearsal}

/-- Nothing happens between a point and itself. -/
theorem refl (run : Run Rehearsal) : run.Idle run := ⟨rfl, rfl⟩

/-- Nothing happens between two points if nothing does before and after one in between. -/
theorem trans (left : first.Idle second) (right : second.Idle third) : first.Idle third where
  context := by
    rw [right.context, left.context]
  world := by
    rw [right.world, left.world]

/-- The contact stays as it is. -/
theorem contactState (idle : first.Idle second) :
    second.context.contactState = first.context.contactState := by
  rw [idle.context]

end Run.Idle

namespace Executor

variable {lifetime : Span} {maxDepth : Nat}

/-- In a run that has deleted its contact the visit of an action records an event at most. -/
theorem idle_visit {arrival : Arrival Rehearsal}
    (deleted : arrival.run.context.contactState = .deleted) :
    arrival.run.Idle (arrival.visit (standard lifetime maxDepth)).2 ∧
      arrival.Recorded (arrival.visit (standard lifetime maxDepth)).2.world := by
  obtain ⟨action, depth, run⟩ := arrival
  rcases visit_cases lifetime maxDepth action depth run with
    ⟨outcome, barred, -⟩ | ⟨-, cancelled⟩ | ⟨-, visited⟩
  · rw [Arrival.visit, barred]
    exact ⟨.refl run, .inl rfl⟩
  · rw [Arrival.visit, cancelled]
    exact ⟨⟨rfl, rfl⟩, .inl rfl⟩
  · have gone : (entering run action).context.contactState = .deleted := deleted
    have step : Steps.Idle (Rehearsal.services lifetime) action.kind (entering run action).context
        run.world (stepOf lifetime action run) := Steps.idle_forKind gone action.kind
    rw [Arrival.visit, visited]
    refine ⟨⟨?_, ?_⟩, step.world⟩
    · rw [step.context]
      rfl
    · dsimp only
      rcases step.world with same | ⟨-, event, users, recorded⟩
      · rw [same]
      · rw [recorded]
        exact Rehearsal.events_record event users run.world

/-- From the point on at which a run has deleted its contact every visit leaves alone what the run
knows of the contact, the ticket and the visitor, the catalog, the mails and the jobs; an action that
logs may record an event, and no other action does. -/
theorem idle_of_deleted {root : Action} {start : Run Rehearsal}
    {before after : List (Arrival Rehearsal)} {point : Arrival Rehearsal}
    (reached : (standard lifetime maxDepth).arrivals [(root, 0)] start = before ++ point :: after)
    (deleted : point.run.context.contactState = .deleted) :
    (∀ arrival ∈ point :: after,
      let next := (arrival.visit (standard lifetime maxDepth)).2
      point.run.Idle arrival.run ∧ arrival.run.Idle next ∧ arrival.Recorded next.world) ∧
    point.run.Idle ((standard lifetime maxDepth).execute root start).2 := by
  have goesOn : forall arrival : Arrival Rehearsal, point.run.Idle arrival.run ->
      arrival.run.Idle (arrival.visit (standard lifetime maxDepth)).2 ∧
        arrival.Recorded (arrival.visit (standard lifetime maxDepth)).2.world :=
    fun arrival idle => idle_visit (idle.contactState.trans deleted)
  have here := goesOn point (.refl point.run)
  obtain ⟨-, ⟨fault, -, rfl, ended⟩ | ⟨outcome, rest, held, -, rfl, loops⟩⟩ :=
    arrivals_split none reached
  · rw [execute, ended]
    exact ⟨List.forall_mem_singleton.mpr ⟨.refl point.run, here⟩, here.1⟩
  · have kept : ∀ arrival ∈ (standard lifetime maxDepth).arrivals rest
        (point.visit (standard lifetime maxDepth)).2,
        point.run.Idle arrival.run ->
          point.run.Idle (arrival.visit (standard lifetime maxDepth)).2 :=
      fun arrival member idle => idle.trans (goesOn arrival idle).1
    obtain ⟨later, last⟩ := loop_preserves point.run.Idle here.1 kept
    rw [execute, loops]
    refine ⟨List.forall_mem_cons.mpr ⟨⟨.refl point.run, here⟩, fun arrival member => ?_⟩, last⟩
    exact ⟨later arrival member, goesOn arrival (later arrival member)⟩

namespace Farewell

/-- An action of the project. -/
def action (id : ActionId) (kind : ActionKind) (options : Json) (children : List Action) : Action :=
  { Action.new id 1 kind "" .epoch with options, children }

/-- The contact leaves. -/
def leaving : Action := action 2 .unregister .null []

/-- An event that says so. -/
def note : Action := action 3 .log (.object [("anonymous", .bool true)]) []

/-- A mail that comes too late. -/
def mail : Action := action 4 .sendMail (.object [("templateId", .integer 1)]) []

/-- The contact leaves, and then an event is recorded and a mail is to be sent. -/
def root : Action := action 1 .sequence .null [leaving, note, mail]

/-- The contact of the run. -/
def contact : Contact := { Sample.contact with id := some 1 }

/-- The run at its start: the contact is stored. -/
def start : Run Rehearsal :=
  { context := { Context.start Sample.project 1 with contact := some contact }
    world := Rehearsal.start .epoch
      { Catalog.empty with
        projects := Keyed.empty.insert 1 Sample.project
        contacts := Keyed.empty.insert 1 contact
        templates := Keyed.empty.insert 1 (Sample.template 1) }
    cancelled := false }

/-- The action at the root, the one that deletes the contact, and the one after it. -/
def opening : Arrival Rehearsal := ⟨root, 0, start⟩

/-- The action that deletes the contact. -/
def removal : Arrival Rehearsal := ⟨leaving, 1, (opening.visit (standard default 5)).2⟩

/-- The action after it. -/
def noting : Arrival Rehearsal := ⟨note, 1, (removal.visit (standard default 5)).2⟩

/-- The run comes to its root, to the action that deletes the contact and to what follows that. -/
theorem arrivals_root : (standard default 5).arrivals [(root, 0)] start =
    [opening, removal] ++
      noting :: (standard default 5).arrivals [(mail, 1)] (noting.visit (standard default 5)).2 := by
  have first : (standard default 5).visit root 0 start = (.ok .success, removal.run) := rfl
  have second : (standard default 5).visit leaving 1 removal.run = (.ok .success, noting.run) := rfl
  have third : (standard default 5).visit note 1 noting.run =
      (.ok .success, (noting.visit (standard default 5)).2) := rfl
  rw [arrivals_cons rfl first]
  change _ :: arrivals _ [(leaving, 1), (note, 1), (mail, 1)] _ = _
  rw [arrivals_cons rfl second]
  change _ :: _ :: arrivals _ [(note, 1), (mail, 1)] _ = _
  rw [arrivals_cons rfl third]
  rfl

end Farewell

open Farewell in
/-- After the contact has left an event is recorded, and that is all. -/
theorem idle_of_deleted_farewell :
    noting.run.context.contactState = .deleted ∧
      noting.run.Idle ((standard default 5).execute root start).2 ∧
      noting.Recorded (noting.visit (standard default 5)).2.world := by
  have deleted : noting.run.context.contactState = .deleted := rfl
  obtain ⟨visits, ended⟩ := idle_of_deleted arrivals_root deleted
  exact ⟨deleted, ended, (visits noting List.mem_cons_self).2.2⟩

end Executor

end Outreach
