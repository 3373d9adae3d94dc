import Outreach.Proofs.Run.Residue
import Outreach.Rehearsal.Samples

/-!
# Tickets and who they are for

An authentication gives the visitor a ticket for the contact of the run, under an id without a name.
The visitor keeps the id if the ticket before was for the same contact, and gets a new one otherwise
(`authenticated`). So however the steps of a run and the contacts it is for follow each other, no two
tickets for different contacts are given out under one id (`Course.unlinked`).
-/

namespace Outreach

variable {σ : Type}

/-- The surroundings remember the ids that have been given out, and only the giving out of an id is
sure to add one. -/
structure Services.KeepIds (services : Services σ) (idsOf : σ -> List Uuid) : Prop where
  drawn : forall world,
    idsOf (services.freshId world).2 = idsOf world ++ [(services.freshId world).1]
  schedule : forall runAt continuation world,
    idsOf world <+: idsOf (services.schedule runAt continuation world).2
  others : services.Carries (fun before after => idsOf before <+: idsOf after)

/-- The visitor holds a ticket for a contact and is known under an id without a name. -/
def Context.KnownAs (context : Context) (contactId : ContactId) (visitor : Uuid) : Prop :=
  (∃ ticket, context.ticket = some ticket ∧ ticket.contactId = contactId) ∧
    context.anonymousId = some visitor

namespace Rehearsal

/-- The ids that a rehearsal has given out. -/
def ids (world : Rehearsal) : List Uuid := (List.range world.idCount).map world.idAt

theorem ids_freshId (world : Rehearsal) :
    (freshId world).2.ids = world.ids ++ [(freshId world).1] := by
  simp [ids, freshId, List.range_succ]

/-- The services of a rehearsal remember ids. -/
theorem services_keepIds (lifetime : Span) : (services lifetime).KeepIds ids where
  drawn := ids_freshId
  schedule runAt continuation world := by
    change world.ids <+: (schedule runAt continuation world).2.ids
    rw [jobs_schedule]
    exact List.prefix_refl world.ids
  others := services_carries lifetime List.IsPrefix.trans (fun world _ _ _ => List.prefix_refl world.ids)
    (fun world => ids_freshId world ▸ List.prefix_append world.ids _)

end Rehearsal

namespace Steps

/-- The tickets that a step gives out. -/
def issued (kind : ActionKind) (result : StepResult σ) : List Ticket :=
  match kind, result.outcome with
  | .authenticate, .ok outcome => if outcome.isSuccess then result.context.ticket.toList else []
  | _, _ => []

/-- A context and surroundings from which others are reached by steps of all kinds, with the tickets
that those have given out. In between, whoever the run is for may be replaced by anybody, and the
surroundings may change, but ids that have been given out are remembered. -/
inductive Course (services : Services σ) (idsOf : σ -> List Uuid) (context : Context) (world : σ) :
    List Ticket -> Context -> σ -> Prop where
  | start : Course services idsOf context world [] context world
  | step {tickets : List Ticket} {now : Context} {there : σ}
      (course : Course services idsOf context world tickets now there) (kind : ActionKind)
      (action : CurrentAction) :
    Course services idsOf context world
      (tickets ++ issued kind (forKind services kind { now with currentAction := action } there))
      (forKind services kind { now with currentAction := action } there).context
      (forKind services kind { now with currentAction := action } there).world
  | replaced {tickets : List Ticket} {now : Context} {there : σ}
      (course : Course services idsOf context world tickets now there) (contact : Option Contact)
      (contactState : ContactState) (elsewhere : σ)
      (remembered : idsOf there <+: idsOf elsewhere) :
    Course services idsOf context world tickets { now with contact, contactState } elsewhere

section Step

variable {services : Services σ} {context : Context} {world after : σ} {id : ContactId}
  {visitor : Uuid}

/-- A visitor who is known keeps the id. -/
theorem visitorId_known (known : context.KnownAs id visitor) :
    visitorId services context id world = (visitor, world) := by
  obtain ⟨⟨ticket, held, same⟩, isVisitor⟩ := known
  simp [visitorId, held, same, isVisitor]

/-- A visitor who is not known gets a new one. -/
theorem visitorId_unknown (unknown : forall visitor, ¬ context.KnownAs id visitor) :
    visitorId services context id world = services.freshId world := by
  unfold visitorId
  dsimp only
  split
  · rename_i visitor found
    split at found
    · rename_i same
      obtain ⟨ticket, held, isId⟩ := Option.map_eq_some_iff.mp same
      exact absurd ⟨⟨ticket, held, isId⟩, found⟩ (unknown visitor)
    · cases found
  · rfl

end Step

section Authentication

variable {services : Services σ} {context : Context} {world : σ} {id : ContactId}
  {configuration : Configuration}

/-- The step for a stored contact that the run has not deleted, with options that say a configuration,
if the ticket expires at an instant that has a date. -/
theorem authenticate_eq (isId : context.contactId = some id)
    (alive : context.contactDeleted = false)
    (said : context.currentAction.configuration = .ok configuration) {visitor : Uuid} {after : σ}
    (identified : visitorId services context id world = (visitor, after)) {expiresAt : Instant}
    (inRange : (services.now after).add? (lifetimeOf services configuration) = some expiresAt) :
    authenticate services context world =
      .finish .success
        { context with
          anonymousId := some visitor
          ticket := some ⟨id, visitor, services.now after, expiresAt⟩ } after := by
  simp [authenticate, isId, alive, Context.configured, said, identified, inRange]

end Authentication

/-- What is known of the tickets that have been given out and of the one that the visitor holds, as
long as no id is given out twice. -/
structure Unlinked (tickets : List Ticket) (ids : List Uuid) (context : Context) : Prop where
  /-- They were given out under ids that were given out. -/
  drawn : ∀ ticket ∈ tickets, ticket.anonymousId ∈ ids
  /-- Those under one id are for one contact. -/
  apart : ∀ first ∈ tickets, ∀ second ∈ tickets, first.anonymousId = second.anonymousId ->
    first.contactId = second.contactId
  /-- If the visitor holds a ticket, so is the one that the visitor holds: those under the id that the
  visitor is known under now are for its contact. -/
  held : forall ticket visitor, context.ticket = some ticket -> context.anonymousId = some visitor ->
    visitor ∈ ids ∧ ∀ other ∈ tickets, other.anonymousId = visitor ->
      other.contactId = ticket.contactId

namespace Unlinked

variable {tickets : List Ticket} {ids : List Uuid} {context : Context}

theorem start (unheld : context.ticket = none) : Unlinked [] ids context where
  drawn _ none := absurd none List.not_mem_nil
  apart _ none := absurd none List.not_mem_nil
  held ticket _ held := by
    rw [unheld] at held
    cases held

/-- More ids may have been given out. -/
theorem mono {ids' : List Uuid} {context' : Context} (unlinked : Unlinked tickets ids context)
    (remembered : ids ⊆ ids') (ticket : context'.ticket = context.ticket)
    (anonymousId : context'.anonymousId = context.anonymousId) :
    Unlinked tickets ids' context' where
  drawn other given := remembered (unlinked.drawn other given)
  apart := unlinked.apart
  held current visitor isHeld isVisitor := by
    rw [ticket] at isHeld
    rw [anonymousId] at isVisitor
    obtain ⟨drawn, same⟩ := unlinked.held current visitor isHeld isVisitor
    exact ⟨remembered drawn, same⟩

/-- The visitor may get another id, if no ticket was given out under it. -/
theorem renamed (unlinked : Unlinked tickets ids context) {visitor : Uuid} (drawn : visitor ∈ ids)
    (unused : ∀ ticket ∈ tickets, ticket.anonymousId ≠ visitor) :
    Unlinked tickets ids { context with anonymousId := some visitor } where
  drawn := unlinked.drawn
  apart := unlinked.apart
  held ticket other isHeld isOther := by
    cases isOther
    exact ⟨drawn, fun earlier given same => absurd same (unused earlier given)⟩

/-- A ticket may be given out, if those under its id are for its contact. -/
theorem given (unlinked : Unlinked tickets ids context) (ticket : Ticket)
    (drawn : ticket.anonymousId ∈ ids)
    (same : ∀ other ∈ tickets, other.anonymousId = ticket.anonymousId ->
      other.contactId = ticket.contactId) :
    Unlinked (tickets ++ [ticket]) ids
      { context with anonymousId := some ticket.anonymousId, ticket := some ticket } where
  drawn other given := by
    rcases List.mem_append.mp given with earlier | last
    · exact unlinked.drawn other earlier
    · rw [List.mem_singleton.mp last]
      exact drawn
  apart first isFirst second isSecond equal := by
    rcases List.mem_append.mp isFirst with earlier | last
    · rcases List.mem_append.mp isSecond with earlier' | last'
      · exact unlinked.apart first earlier second earlier' equal
      · cases List.mem_singleton.mp last'
        exact same first earlier equal
    · cases List.mem_singleton.mp last
      rcases List.mem_append.mp isSecond with earlier' | last'
      · exact (same second earlier' equal.symm).symm
      · cases List.mem_singleton.mp last'
        rfl
  held current visitor isHeld isVisitor := by
    cases isHeld
    cases isVisitor
    refine ⟨drawn, fun other given equal => ?_⟩
    rcases List.mem_append.mp given with earlier | last
    · exact same other earlier equal
    · cases List.mem_singleton.mp last
      rfl

end Unlinked

theorem issued_of_ne {kind : ActionKind} {result : StepResult σ} (other : kind ≠ .authenticate) :
    issued kind result = [] := by
  unfold issued
  split
  · exact absurd rfl other
  · rfl

/-- What came to nothing gives out no ticket. -/
theorem issued_fruitless {kind : ActionKind} {answer : Except StepFault Outcome}
    (nothing : Fruitless answer) (context : Context) (world : σ) (cancels : Bool) :
    issued kind ⟨answer, context, world, cancels⟩ = [] := by
  cases kind <;> cases nothing <;> rfl

section Courses

variable {services : Services σ} {idsOf : σ -> List Uuid} (keep : services.KeepIds idsOf)
  {context : Context} {world : σ} {tickets : List Ticket}

include keep

/-- No step forgets an id that has been given out. -/
theorem remembers_forKind (context : Context) (world : σ) (kind : ActionKind) :
    idsOf world <+: idsOf (forKind services kind context world).world := by
  rcases (conduct_forKind keep.others.keeps context world kind).act.carried keep.others with
    remembered | ⟨runAt, left⟩
  · exact remembered
  · rw [left]
    exact keep.schedule runAt _ world

/-- The id of an authentication is the one that the visitor is known under, or a new one. -/
theorem visitorId_cases {id : ContactId} {visitor : Uuid} {after : σ}
    (identified : visitorId services context id world = (visitor, after)) :
    context.KnownAs id visitor ∧ idsOf after = idsOf world ∨
      idsOf after = idsOf world ++ [visitor] := by
  by_cases known : ∃ visitor, context.KnownAs id visitor
  · obtain ⟨same, known⟩ := known
    rw [visitorId_known known] at identified
    cases identified
    exact .inl ⟨known, rfl⟩
  · have drawn := keep.drawn world
    rw [visitorId_unknown (not_exists.mp known)] at identified
    rw [identified] at drawn
    exact .inr drawn

/-- What an authentication does to the tickets that have been given out before. -/
theorem unlinked_authenticate {result : StepResult σ}
    (ending : Ending services (fun before after => idsOf before <+: idsOf after) .authenticate context
      world result)
    (remembered : idsOf world ⊆ idsOf result.world) (unlinked : Unlinked tickets (idsOf world) context)
    (distinct : (idsOf result.world).Nodup) :
    Unlinked (tickets ++ issued .authenticate result) (idsOf result.world) result.context := by
  -- A new id is none of those under which tickets have been given out.
  have unused {visitor : Uuid} {after : σ} (new : idsOf after = idsOf world ++ [visitor])
      (distinct : (idsOf after).Nodup) : ∀ other ∈ tickets, other.anonymousId ≠ visitor := by
    intro other given equal
    rw [new] at distinct
    exact (List.nodup_append.mp distinct).2.2 _ (unlinked.drawn other given) _
      (List.mem_singleton_self visitor) equal
  cases ending with
  | fruitless answer after nothing asked ends =>
    subst ends
    rw [issued_fruitless nothing, List.append_nil]
    exact unlinked.mono remembered rfl rfl
  | authenticated id visitor expiresAt after isKind isId identified ends =>
    subst ends
    rcases visitorId_cases keep identified with ⟨⟨⟨ticket, isHeld, isFor⟩, isVisitor⟩, -⟩ | new
    · obtain ⟨drawn, same⟩ := unlinked.held ticket visitor isHeld isVisitor
      refine (unlinked.mono remembered rfl rfl).given ⟨id, visitor, _, _⟩
        (remembered drawn) (fun other given equal => ?_)
      exact (same other given equal).trans isFor
    · refine (unlinked.mono remembered rfl rfl).given ⟨id, visitor, _, _⟩ ?_
        (fun other given equal => absurd equal (unused new distinct other given))
      exact new ▸ List.mem_append_right _ (List.mem_singleton_self visitor)
  | overflowed id visitor after isKind isId identified ends =>
    subst ends
    change Unlinked (tickets ++ []) (idsOf after) { context with anonymousId := some visitor }
    rw [List.append_nil]
    rcases visitorId_cases keep identified with ⟨⟨-, isVisitor⟩, -⟩ | new
    · exact unlinked.mono remembered rfl isVisitor.symm
    · refine (unlinked.mono remembered rfl rfl).renamed ?_ (unused new distinct)
      exact new ▸ List.mem_append_right _ (List.mem_singleton_self visitor)
  | passed _ _ isKind => exact absurd rfl isKind
  | mailed _ _ _ _ _ isKind => cases isKind
  | registered _ _ _ isKind => cases isKind
  | unregistered _ _ isKind => cases isKind
  | exhausted isKind => cases isKind
  | tagged _ _ _ _ _ isKind => cases isKind
  | handedOver _ _ isKind => cases isKind
  | turnedDown _ _ _ isKind => cases isKind

/-- The steps of all kinds keep tickets apart, as long as no id is given out twice. -/
theorem unlinked_forKind (kind : ActionKind) (unlinked : Unlinked tickets (idsOf world) context)
    (distinct : (idsOf (forKind services kind context world).world).Nodup) :
    Unlinked (tickets ++ issued kind (forKind services kind context world))
      (idsOf (forKind services kind context world).world)
      (forKind services kind context world).context := by
  have remembered := (remembers_forKind keep context world kind).subset
  have ending := ending_forKind keep.others.keeps.spares context world kind
  by_cases isKind : kind = .authenticate
  · subst isKind
    exact unlinked_authenticate keep ending remembered unlinked distinct
  · rw [issued_of_ne isKind, List.append_nil]
    exact unlinked.mono remembered (ending.changes.ticket isKind) (ending.changes.anonymousId isKind)

/-- Along a course the tickets stay apart, as long as no id is given out twice. -/
theorem Course.unlinked (unheld : context.ticket = none) {now : Context} {there : σ}
    (course : Course services idsOf context world tickets now there)
    (distinct : (idsOf there).Nodup) : Unlinked tickets (idsOf there) now := by
  induction course with
  | start => exact .start unheld
  | @step tickets now there course kind action ih =>
    have remembered := remembers_forKind keep { now with currentAction := action } there kind
    have unlinked := ih (distinct.sublist remembered.sublist)
    exact unlinked_forKind keep kind (unlinked.mono (List.Subset.refl _) rfl rfl) distinct
  | replaced course contact contactState elsewhere remembered ih =>
    exact (ih (distinct.sublist remembered.sublist)).mono remembered.subset rfl rfl

end Courses

/-- The lifetime of the tickets that some options ask for: as many seconds as they say, and the usual
one if they say nothing, as those of the other kinds do. -/
inductive AsksFor (services : Services σ) : Configuration -> Span -> Prop where
  | seconds (seconds : UInt32) (lifetime : Span)
      (exact : lifetime.nanoseconds = seconds.toNat * 1000000000) :
      AsksFor services (.authenticate (some seconds)) lifetime
  | usual : AsksFor services (.authenticate none) services.ticketLifetime
  | foreign (configuration : Configuration) (isKind : configuration.kind ≠ .authenticate) :
      AsksFor services configuration services.ticketLifetime

theorem asksFor_lifetimeOf (services : Services σ) (configuration : Configuration) :
    AsksFor services configuration (lifetimeOf services configuration) := by
  by_cases isKind : configuration.kind = .authenticate
  · cases configuration with
    | authenticate lifetimeSeconds =>
      cases lifetimeSeconds with
      | none => exact .usual
      | some seconds => exact .seconds seconds _ rfl
    | _ => cases isKind
  · unfold lifetimeOf
    split
    · exact absurd rfl isKind
    · exact .foreign configuration isKind

/-- What an authentication does for a contact with tickets of some lifetime. -/
structure Authenticates (services : Services σ) (idsOf : σ -> List Uuid) (id : ContactId)
    (lifetime : Span) (run : Run σ) (ended : Except StepFault Outcome × Run σ) : Prop where
  /-- A visitor who is known gets a ticket under the same id. -/
  known : forall visitor expiresAt, run.context.KnownAs id visitor ->
    (services.now run.world).add? lifetime = some expiresAt ->
      ended = (.ok .success,
        ⟨{ run.context with ticket := some ⟨id, visitor, services.now run.world, expiresAt⟩ },
          run.world, false⟩)
  /-- Any other visitor gets a ticket under a new id, one that was not given out before if no id is
  given out twice. -/
  unknown : (forall visitor, ¬ run.context.KnownAs id visitor) ->
    forall visitor after expiresAt, services.freshId run.world = (visitor, after) ->
      (services.now after).add? lifetime = some expiresAt ->
        ended = (.ok .success,
          ⟨{ run.context with
              anonymousId := some visitor
              ticket := some ⟨id, visitor, services.now after, expiresAt⟩ }, after, false⟩) ∧
        ((idsOf after).Nodup -> visitor ∉ idsOf run.world)

/-- An authentication gives the visitor a ticket for the contact of its run, if that is stored and
not deleted and the options say a configuration. -/
theorem authenticates {services : Services σ} {idsOf : σ -> List Uuid}
    (keep : services.KeepIds idsOf) {run : Run σ} {id : ContactId} {configuration : Configuration}
    (working : run.cancelled = false) (isId : run.context.contactId = some id)
    (alive : run.context.contactState ≠ .deleted)
    (said : run.context.currentAction.configuration = .ok configuration) :
    Authenticates services idsOf id (lifetimeOf services configuration) run
      ((forKind services .authenticate).guarded run) := by
  have undeleted : run.context.contactDeleted = false := decide_eq_false alive
  rw [Step.guarded_of_working _ working,
    show forKind services .authenticate = authenticate services from rfl]
  constructor
  · intro visitor expiresAt known inRange
    rw [authenticate_eq isId undeleted said (visitorId_known known) inRange, ← known.2]
    rfl
  · intro unknown visitor after expiresAt drawn inRange
    have identified := (visitorId_unknown unknown).trans drawn
    refine ⟨?_, fun distinct member => ?_⟩
    · rw [authenticate_eq isId undeleted said identified inRange]
      rfl
    · have ids := keep.drawn run.world
      rw [drawn] at ids
      rw [ids] at distinct
      exact (List.nodup_append.mp distinct).2.2 visitor member visitor
        (List.mem_singleton_self visitor) rfl

end Steps

/-- An authentication gives the visitor a ticket for the contact of its run, which lasts as long as
the options ask for, under the id that the visitor has if the ticket before was for the same contact,
and under a new one otherwise. From a context without a ticket on no two tickets for different
contacts are given out under one id, whatever steps follow each other and whoever the run is for in
between. -/
theorem Services.KeepIds.identities {services : Services σ} {idsOf : σ -> List Uuid}
    (keep : services.KeepIds idsOf) :
    (forall (run : Run σ) (id : ContactId) (configuration : Configuration), run.cancelled = false ->
      run.context.contactId = some id -> run.context.contactState ≠ .deleted ->
      run.context.currentAction.configuration = .ok configuration ->
        ∃ lifetime, Steps.AsksFor services configuration lifetime ∧
          Steps.Authenticates services idsOf id lifetime run
            ((Steps.forKind services .authenticate).guarded run)) ∧
    forall (context now : Context) (world there : σ) (tickets : List Ticket),
      context.ticket = none -> Steps.Course services idsOf context world tickets now there ->
      (idsOf there).Nodup -> ∀ first ∈ tickets, ∀ second ∈ tickets,
        first.contactId ≠ second.contactId -> first.anonymousId ≠ second.anonymousId := by
  refine ⟨fun run id configuration working isId alive said =>
    ⟨_, Steps.asksFor_lifetimeOf services configuration,
      Steps.authenticates keep working isId alive said⟩, ?_⟩
  intro context now world there tickets unheld course distinct first isFirst second isSecond differ
  have unlinked := course.unlinked keep unheld distinct
  exact fun equal => differ (unlinked.apart first isFirst second isSecond equal)

namespace Visitors

def action : CurrentAction := .of (.new 2 1 .authenticate "" .epoch)

/-- The context of a run for a stored contact. -/
def contextFor (id : ContactId) : Context :=
  { Context.start Sample.project 1 with
    currentAction := action, contact := some { Sample.contact with id := some id } }

def services : Services Rehearsal := Rehearsal.services (.ofSeconds32 3600)

def world : Rehearsal := .start .epoch .empty

/-- A ticket is given out. -/
def admitted (context : Context) (world : Rehearsal) : StepResult Rehearsal :=
  Steps.forKind services .authenticate { context with currentAction := action } world

/-- A ticket is given out to one visitor, ... -/
def first : StepResult Rehearsal := admitted (contextFor 1) world

/-- ... to another one who comes in the place of the first, ... -/
def second : StepResult Rehearsal :=
  admitted { first.context with contact := (contextFor 2).contact, contactState := .unchanged }
    first.world

/-- ... and to the first one again. -/
def third : StepResult Rehearsal :=
  admitted { second.context with contact := (contextFor 1).contact, contactState := .unchanged }
    second.world

def tickets : List Ticket :=
  [] ++ Steps.issued .authenticate first ++ Steps.issued .authenticate second ++
    Steps.issued .authenticate third

theorem course : Steps.Course services Rehearsal.ids (contextFor 1) world tickets third.context
    third.world := by
  have one : Steps.Course services Rehearsal.ids (contextFor 1) world _ first.context first.world :=
    .step .start .authenticate action
  have two : Steps.Course services Rehearsal.ids (contextFor 1) world _ second.context second.world :=
    .step (one.replaced (contextFor 2).contact .unchanged _ (List.prefix_refl _)) .authenticate action
  exact .step (two.replaced (contextFor 1).contact .unchanged _ (List.prefix_refl _)) .authenticate
    action

/-- Two visitors by turns get three tickets, and none of one shares its id with one of the other. -/
theorem identities_swapped :
    Steps.Authenticates services Rehearsal.ids 1 (.ofSeconds32 3600) ⟨contextFor 1, world, false⟩
        ((Steps.forKind services .authenticate).guarded ⟨contextFor 1, world, false⟩) ∧
      tickets.map Ticket.contactId = [1, 2, 1] ∧
      ∀ one ∈ tickets, ∀ other ∈ tickets, one.contactId ≠ other.contactId ->
        one.anonymousId ≠ other.anonymousId := by
  obtain ⟨step, courses⟩ := (Rehearsal.services_keepIds (.ofSeconds32 3600)).identities
  obtain ⟨lifetime, asked, authenticates⟩ :=
    step ⟨contextFor 1, world, false⟩ 1 (.authenticate none) rfl rfl (by decide) rfl
  refine ⟨?_, rfl, ?_⟩
  · cases asked with
    | usual => exact authenticates
    | foreign _ isKind => exact absurd rfl isKind
  · exact courses (contextFor 1) third.context world third.world tickets rfl course (by decide)

end Visitors

end Outreach
