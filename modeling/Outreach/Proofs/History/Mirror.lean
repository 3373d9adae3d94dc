import Outreach.Proofs.Run.Contacts
import Outreach.Proofs.Tree.Arrivals
import Outreach.Proofs.Tree.Walk
import Outreach.Rehearsal.Samples

/-!
# The contact of a run and the catalog

A run keeps a copy of its contact, and the steps that store, tag or delete the contact write to the
catalog and to the copy one after the other. Whatever is refused in between, the two agree after
every step: the catalog has the contact of the run under its id, or the run has deleted it and the
catalog has nothing there (`mirrored`). A contact that has an id once keeps it.
-/

namespace Outreach

variable {σ : Type}

/-- The contact of the run, if it has an id, is the one that the catalog has under this id, or the
run has deleted it and the catalog has none. -/
def Context.Mirrors (context : Context) (catalog : Catalog) : Prop :=
  forall id, context.contactId = some id ->
    context.contactState ≠ .deleted ∧ catalog.contact? id = context.contact ∨
      context.contactState = .deleted ∧ catalog.contact? id = none

/-- A run starts with nobody, with a contact that has not been stored, or with a stored contact that
has not been deleted. -/
inductive Context.Opens (context : Context) (catalog : Catalog) : Prop where
  | nobody (held : context.contact = none)
  | unknown (contact : Contact) (held : context.contact = some contact) (new : contact.id = none)
  | known (contact : Contact) (id : ContactId) (held : context.contact = some contact)
      (isId : contact.id = some id) (filed : catalog.contact? id = some contact)
      (alive : context.contactState ≠ .deleted)

namespace Context

variable {context : Context} {catalog : Catalog}

theorem contactId_of_held {contact : Contact} (held : context.contact = some contact) :
    context.contactId = contact.id := by
  rw [contactId, held, Option.bind_some]

/-- The id of the contact depends on the contact alone. -/
theorem contactId_congr {other : Context} (same : other.contact = context.contact) :
    other.contactId = context.contactId := congrArg (fun contact => contact.bind Contact.id) same

/-- A context that a run opens with mirrors the catalog. -/
theorem Opens.mirrors (opens : context.Opens catalog) : context.Mirrors catalog := by
  intro id isId
  cases opens with
  | nobody held =>
    rw [contactId, held] at isId
    cases isId
  | unknown contact held new =>
    rw [contactId_of_held held, new] at isId
    cases isId
  | known contact known held isKnown filed alive =>
    rw [contactId_of_held held, isKnown] at isId
    cases isId
    exact .inl ⟨alive, filed.trans held.symm⟩

end Context

/-- What a step does to contacts it does to the catalog and to the contact of the run alike, and it
leaves the id of a contact that has one. -/
theorem Steps.Touch.mirrors {catalogOf : σ -> Catalog} {context : Context} {world : σ}
    {result : StepResult σ} (touch : Touch catalogOf context world result)
    (mirrors : context.Mirrors (catalogOf world)) :
    result.context.Mirrors (catalogOf result.world) ∧
      forall id, context.contactId = some id -> result.context.contactId = some id := by
  cases touch with
  | nothing held state same =>
    have sameId := Context.contactId_congr held
    refine ⟨fun id isId => ?_, fun id isId => sameId.trans isId⟩
    rw [state, held, Catalog.contact?, same]
    exact mirrors id (sameId.symm.trans isId)
  | stored contact stored catalog given accepted contacts held alive =>
    obtain ⟨id, isId, keepsId, filed⟩ := Catalog.upsertContact_accepted accepted
    have isId : result.context.contactId = some id := (Context.contactId_of_held held).trans isId
    refine ⟨fun other isOther => .inl ⟨alive, ?_⟩, fun known isKnown => ?_⟩
    · obtain rfl := Option.some.inj (isOther.symm.trans isId)
      rw [Catalog.contact?, contacts, held]
      exact filed
    · rw [isId, keepsId known ((Context.contactId_of_held given).symm.trans isKnown)]
  | removed id isId accepted contacts held gone =>
    have sameId := Context.contactId_congr held
    refine ⟨fun other isOther => .inr ⟨gone, ?_⟩, fun known isKnown => sameId.trans isKnown⟩
    obtain rfl := Option.some.inj (isId.symm.trans (sameId.symm.trans isOther))
    rw [Catalog.contact?, contacts]
    exact Catalog.removeContact_accepted accepted
  | tagged id included excluded updated live accepted contacts held alive =>
    obtain ⟨contact, found, sameId, filed⟩ := Catalog.setTags_accepted accepted
    have isId := Context.contactId_of_live live
    -- The contact under the id is that of the run, so it has the id itself.
    have isHeld : context.contact = some contact := by
      rcases mirrors id isId with ⟨-, same⟩ | ⟨-, none⟩
      · exact same.symm.trans found
      · rw [found] at none
        cases none
    have isUpdated : result.context.contactId = some id := by
      rw [Context.contactId_of_held held, sameId, ← Context.contactId_of_held isHeld, isId]
    refine ⟨fun other isOther => .inl ⟨alive, ?_⟩, fun known isKnown => ?_⟩
    · obtain rfl := Option.some.inj (isOther.symm.trans isUpdated)
      rw [Catalog.contact?, contacts, held]
      exact filed
    · rw [isUpdated, ← isKnown, isId]

/-- An activity does what a step does, or nothing if it finds its run cancelled, whenever anyone
cancels the run. -/
def Activity.CarriesOut (activity : Activity σ) (step : Step σ) : Prop :=
  forall run, ∃ cancelled,
    activity run = (.error .cancelled, { run with cancelled }) ∨
      activity run =
        ((step run.context run.world).outcome,
          ⟨(step run.context run.world).context, (step run.context run.world).world, cancelled⟩)

/-- The activities of a registry are those of the standard steps, in runs that may be cancelled at
any moment. -/
def Registry.CarriesOut (registry : Registry σ) (services : Services σ) : Prop :=
  forall kind activity, registry.activityFor kind = some activity ->
    activity.CarriesOut (Steps.forKind services kind)

/-- The usual registry has the standard steps of the services. -/
theorem Registry.standard_carriesOut (services : Services σ) :
    (Registry.standard services).CarriesOut services := by
  intro kind activity isActivity run
  cases isActivity
  cases cancelled : run.cancelled with
  | true => exact ⟨run.cancelled, .inl (Step.guarded_of_cancelled _ cancelled)⟩
  | false => exact ⟨_, .inr (Step.guarded_of_working _ cancelled)⟩

/-- The contact of the run mirrors the catalog. -/
def Run.Mirrors (catalogOf : σ -> Catalog) (run : Run σ) : Prop :=
  run.context.Mirrors (catalogOf run.world)

/-- Once the contact of the run has an id, it keeps it. -/
def Run.KeepsId (before after : Run σ) : Prop :=
  forall id, before.context.contactId = some id -> after.context.contactId = some id

namespace Executor

/-- A run whose contact mirrors the catalog throughout. -/
structure Mirrored (executor : Executor σ) (catalogOf : σ -> Catalog) (root : Action)
    (start : Run σ) : Prop where
  /-- After every step the contact mirrors the catalog, -/
  visits : ∀ arrival ∈ executor.arrivals [(root, 0)] start,
    (arrival.visit executor).2.Mirrors catalogOf
  /-- and so it does when the run is over. -/
  ended : (executor.execute root start).2.Mirrors catalogOf
  /-- An id that the contact has at the start it keeps. -/
  opening : ∀ arrival ∈ executor.arrivals [(root, 0)] start,
    start.KeepsId (arrival.visit executor).2
  closing : start.KeepsId (executor.execute root start).2
  /-- An id that the contact has after a step it keeps from then on. -/
  lasting : forall before point after,
    executor.arrivals [(root, 0)] start = before ++ point :: after ->
      (∀ arrival ∈ after, (point.visit executor).2.KeepsId (arrival.visit executor).2) ∧
        (point.visit executor).2.KeepsId (executor.execute root start).2

section

variable {executor : Executor σ} {services : Services σ} {catalogOf : σ -> Catalog}
  (keep : services.KeepContacts catalogOf) (carries : executor.registry.CarriesOut services)

include keep carries

/-- The visit of one action. -/
theorem mirrors_visit {arrival : Arrival σ} (mirrors : arrival.run.Mirrors catalogOf) :
    (arrival.visit executor).2.Mirrors catalogOf ∧
      arrival.run.KeepsId (arrival.visit executor).2 := by
  obtain ⟨action, depth, run⟩ := arrival
  unfold Arrival.visit
  cases barred : executor.barred action depth with
  | error outcome =>
    unfold visit
    rw [barred]
    exact ⟨mirrors, fun _ isId => isId⟩
  | ok activity =>
    obtain ⟨-, -, isActivity⟩ := barred_eq_ok_iff.mp barred
    have entered : (entering run action).context.Mirrors (catalogOf run.world) := mirrors
    rw [visit_of_barred barred]
    obtain ⟨cancelled, idle | carried⟩ :=
      carries action.kind activity isActivity (entering run action)
    · rw [idle]
      exact ⟨entered, fun _ isId => isId⟩
    · rw [carried]
      exact (Steps.touch_forKind keep _ _ action.kind).mirrors entered

/-- From a run whose contact mirrors the catalog on it goes on like that. -/
theorem mirrors_loop (stack : List Pending) (first : Option Outcome) {run : Run σ}
    (mirrors : run.Mirrors catalogOf) :
    (∀ arrival ∈ executor.arrivals stack run,
      (arrival.visit executor).2.Mirrors catalogOf ∧ run.KeepsId (arrival.visit executor).2) ∧
      (executor.loop stack first run).2.Mirrors catalogOf ∧
        run.KeepsId (executor.loop stack first run).2 := by
  have step : forall arrival : Arrival σ,
      arrival.run.Mirrors catalogOf ∧ run.KeepsId arrival.run ->
        (arrival.visit executor).2.Mirrors catalogOf ∧ run.KeepsId (arrival.visit executor).2 := by
    intro arrival ⟨here, kept⟩
    obtain ⟨next, keeps⟩ := mirrors_visit keep carries here
    exact ⟨next, fun id isId => keeps id (kept id isId)⟩
  have kept : (∀ arrival ∈ executor.arrivals stack run,
      arrival.run.Mirrors catalogOf ∧ run.KeepsId arrival.run) ∧
        (executor.loop stack first run).2.Mirrors catalogOf ∧
          run.KeepsId (executor.loop stack first run).2 :=
    loop_preserves (fun after => after.Mirrors catalogOf ∧ run.KeepsId after)
      ⟨mirrors, fun _ isId => isId⟩ (fun arrival _ => step arrival)
  exact ⟨fun arrival member => step arrival (kept.1 arrival member), kept.2⟩

/-- The contact of every run mirrors the catalog after every step, and keeps its id. -/
theorem mirrored {root : Action} {start : Run σ}
    (opens : start.context.Opens (catalogOf start.world)) :
    executor.Mirrored catalogOf root start := by
  obtain ⟨visits, ended, closing⟩ :=
    mirrors_loop keep carries [(root, 0)] none opens.mirrors
  refine ⟨fun arrival member => (visits arrival member).1, ended,
    fun arrival member => (visits arrival member).2, closing, ?_⟩
  intro before point after split
  have here := (visits point (split ▸ List.mem_append_right _ List.mem_cons_self)).1
  obtain ⟨-, ⟨fault, -, rfl, faulty⟩ | ⟨outcome, rest, held, -, rfl, loops⟩⟩ :=
    arrivals_split none split
  · rw [execute, faulty]
    exact ⟨fun arrival none => absurd none List.not_mem_nil, fun _ isId => isId⟩
  · obtain ⟨later, -, last⟩ := mirrors_loop keep carries rest held here
    rw [execute, loops]
    exact ⟨fun arrival member => (later arrival member).2, last⟩

end

namespace Cancellation

/-- An action of the project. -/
def action (id : ActionId) (kind : ActionKind) (options : Json) : Action :=
  { Action.new id 1 kind "" .epoch with options }

/-- A contact gets a tag, leaves and comes back too late. -/
def root : Action :=
  { action 1 .sequence .null with
    children :=
      [action 2 .setTags (.object [("include", .array [.integer 7])]), action 3 .unregister .null,
        action 4 .register .null] }

/-- The contact of the run. -/
def contact : Contact := { Sample.contact with id := some 1 }

/-- The run at its start: the contact is stored. -/
def start : Run Rehearsal :=
  { context := { Context.start Sample.project 1 with contact := some contact }
    world := Rehearsal.start .epoch
      { Catalog.empty with contacts := Keyed.empty.insert 1 contact }
    cancelled := false }

end Cancellation

open Cancellation in
/-- The tag has come into the contact of the run, and the contact is gone. -/
theorem mirrored_cancellation :
    let executor : Executor Rehearsal := ⟨.standard (Rehearsal.services default), 5⟩
    start.context.Opens start.world.catalog ∧
      executor.Mirrored Rehearsal.catalog root start ∧
      (executor.execute root start).2.context.contact =
        some { contact with tags := IdSet.empty.insert 7 } ∧
      (executor.execute root start).2.context.contactState = .deleted := by
  intro executor
  have opens : start.context.Opens start.world.catalog := .known contact 1 rfl rfl rfl nofun
  have carries : executor.registry.CarriesOut (Rehearsal.services default) :=
    Registry.standard_carriesOut _
  refine ⟨opens, mirrored (Rehearsal.services_keepContacts default) carries opens, ?_⟩
  rw [execute_eq_walk]
  exact ⟨rfl, rfl⟩

end Executor

end Outreach
