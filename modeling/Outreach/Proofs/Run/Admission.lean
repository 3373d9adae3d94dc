import Outreach.Proofs.Run.Redirection
import Outreach.Proofs.Run.Verdict
import Outreach.Proofs.Time.Instant

/-!
# What an authentication is good for

If tickets last for a second or more, a visitor is authenticated from the instant on at which a ticket
is given out: a condition that asks for that succeeds, and a redirect takes the ticket along
(`admitted`). The one exception are options that give the ticket a lifetime of zero seconds. Such a
ticket is given out with success and is never valid.
-/

namespace Outreach

/-- Whether a visitor is authenticated depends on the contact and the ticket alone. -/
theorem Context.isAuthenticatedAt_congr {context later : Context}
    (contact : later.contact = context.contact) (ticket : later.ticket = context.ticket)
    (now : Instant) : later.isAuthenticatedAt now = context.isAuthenticatedAt now := by
  simp only [isAuthenticatedAt, contactId, contact, ticket]

namespace Steps

variable {σ : Type} {services : Services σ} {context : Context} {world : σ} {outcome : Outcome}

/-- How an authentication succeeds. -/
theorem authenticate_cases (ends : (authenticate services context world).outcome = .ok outcome)
    (succeeded : outcome.isSuccess = true) :
    ∃ id configuration visitor after expiresAt, context.contactId = some id ∧
      context.currentAction.configuration = .ok configuration ∧
      (services.now after).add? (lifetimeOf services configuration) = some expiresAt ∧
      authenticate services context world =
        .finish .success
          { context with
            anonymousId := some visitor
            ticket := some ⟨id, visitor, services.now after, expiresAt⟩ } after := by
  unfold authenticate at ends ⊢
  split
  · rename_i none
    rw [none] at ends
    cases ends
    cases succeeded
  · rename_i id isId
    rw [isId] at ends
    dsimp only at ends
    split
    · rename_i deleted
      rw [if_pos deleted] at ends
      cases ends
      cases succeeded
    · rename_i alive
      rw [if_neg alive] at ends
      unfold Context.configured at ends ⊢
      split
      · rename_i configuration said
        rw [said] at ends
        dsimp only at ends ⊢
        split
        · rename_i outOfRange
          rw [outOfRange] at ends
          cases ends
        · rename_i expiresAt inRange
          exact ⟨id, configuration, _, _, expiresAt, isId, said, inRange, rfl⟩
      · rename_i cause refused
        rw [refused] at ends
        cases ends
        cases succeeded

/-- The tickets of an action last for a second or more, unless its options say that they do not. -/
theorem second_le_lifetimeOf {configuration : Configuration}
    (long : 1000000000 <= services.ticketLifetime.nanoseconds)
    (lasting : configuration ≠ .authenticate (some 0)) :
    1000000000 <= (lifetimeOf services configuration).nanoseconds := by
  unfold lifetimeOf
  split
  · rename_i seconds
    refine Span.second_le_ofSeconds32 (fun none => lasting ?_)
    rw [none]
  · exact long

/-- A ticket that is given out is valid from then on, unless the options give it no time. -/
theorem lt_expiresAt_iff {configuration : Configuration} {now expiresAt : Instant}
    (long : 1000000000 <= services.ticketLifetime.nanoseconds)
    (inRange : now.add? (lifetimeOf services configuration) = some expiresAt) :
    now < expiresAt ↔ configuration ≠ .authenticate (some 0) := by
  constructor
  · rintro later rfl
    have same : now.add? (.ofSeconds32 0) = some now := Instant.add?_zero now rfl
    cases same.symm.trans inRange
    exact absurd later (Int.lt_irrefl now.rank)
  · exact fun lasting => Instant.lt_of_add? (second_le_lifetimeOf long lasting) inRange

/-- The visitor is authenticated as long as the ticket that was given out is valid. -/
theorem isAuthenticatedAt_given {id : ContactId} (isId : context.contactId = some id)
    (visitor : Uuid) (now expiresAt : Instant) :
    { context with
      anonymousId := some visitor, ticket := some ⟨id, visitor, now, expiresAt⟩ }.isAuthenticatedAt
        now = true ↔ now < expiresAt := by
  have same : ({ context with
      anonymousId := some visitor, ticket := some ⟨id, visitor, now, expiresAt⟩ } : Context).contactId =
        some id := isId
  simp [Context.isAuthenticatedAt, same, Ticket.isValidFor]

/-- The steps that come after an authentication take the visitor as authenticated. -/
structure Recognizes (services : Services σ) (context : Context) (world : σ) : Prop where
  /-- A condition that asks for that alone succeeds. -/
  condition : forall clauses, context.currentAction.configuration = .ok (.condition clauses) ->
    (∀ clause ∈ clauses, clause.code = .authenticated ∧ truthValue? clause.operand = some true) ->
    (condition services context world).outcome = .ok .success
  /-- A redirect that leads somewhere takes the ticket along as the last pair of the query. -/
  redirect : forall outcome, (redirect services context world).outcome = .ok outcome ->
    outcome.isSuccess = true ->
      ∃ (url : String) (before : List (List Char × List Char)) (letters : List Char) (ticket : Ticket),
        outcome = .redirect url ∧ Url.pairsIn url.toList = before ++ [("ticket".toList, letters)] ∧
        Ticket.ofChars? letters = some ticket ∧ context.ticket = some ticket

theorem recognizes (proved : context.isAuthenticatedAt (services.now world) = true) :
    Recognizes services context world where
  condition := by
    intro clauses said asks
    have holds : ∀ clause ∈ clauses, clause.Holds .empty context (services.now world) := by
      intro clause member
      obtain ⟨code, truth⟩ := asks clause member
      simpa only [Clause.Holds, code, proved] using truth
    have passes := fun clause member => (holds clause member).passes
    have untagged : ∀ clause ∈ clauses, clause.isOnTag = false := by
      intro clause member
      simp [Clause.isOnTag, (asks clause member).1]
    have surveyed := survey_passing passes 0 .none
    unfold Steps.condition Context.configured
    simp only [said, evaluate, surveyed, (isEmpty_iff passes).mpr untagged, if_true]
    rfl
  redirect := by
    intro outcome ends succeeded
    obtain ⟨ticket, held⟩ := context.ticket_of_isAuthenticatedAt proved
    obtain ⟨authored, target, url, token, -, -, leads, -, pairs⟩ := redirect_traced ends succeeded
    refine ⟨url.text, target.pairs ++ token, ticket.chars, ticket, leads, ?_,
      ticket.ofChars?_chars, held⟩
    rw [pairs, ticketPairs, if_pos proved, held]
    rfl

/-- If tickets last for a second or more, an authentication that succeeds leaves the visitor
authenticated at the instant of it, unless the options give the ticket no time. The steps that come
after it at that instant take the visitor as authenticated then. -/
theorem admitted (services : Services σ)
    (long : 1000000000 <= services.ticketLifetime.nanoseconds) {run after : Run σ}
    (ends : (authenticate services).guarded run = (.ok outcome, after))
    (succeeded : outcome.isSuccess = true) :
    (after.context.isAuthenticatedAt (services.now after.world) = true ↔
      run.context.currentAction.configuration ≠ .ok (.authenticate (some 0))) ∧
    (run.context.currentAction.configuration ≠ .ok (.authenticate (some 0)) ->
      forall (later : Context) (there : σ), later.contact = after.context.contact ->
        later.ticket = after.context.ticket -> services.now there = services.now after.world ->
          Recognizes services later there) := by
  have proved : after.context.isAuthenticatedAt (services.now after.world) = true ↔
      run.context.currentAction.configuration ≠ .ok (.authenticate (some 0)) := by
    unfold Step.guarded at ends
    split at ends
    · cases ends
    · obtain ⟨answer, rfl⟩ := Prod.mk.inj ends
      obtain ⟨id, configuration, visitor, there, expiresAt, isId, said, inRange, same⟩ :=
        authenticate_cases answer succeeded
      rw [same, said]
      refine (isAuthenticatedAt_given isId visitor _ expiresAt).trans ?_
      rw [ne_eq, Except.ok.injEq]
      exact lt_expiresAt_iff long inRange
  refine ⟨proved, fun lasting later there contact ticket now => recognizes ?_⟩
  rw [now, Context.isAuthenticatedAt_congr contact ticket]
  exact proved.mpr lasting

end Steps

namespace Reception

open Steps

/-- A contact who gets a ticket, as the options say. -/
def visit (options : Json) : Context :=
  { Landing.visit with
    currentAction := { CurrentAction.anchor 2 with kind := .authenticate, options }
    ticket := none }

/-- Tickets last for a second. -/
def services : Services Rehearsal := Rehearsal.services (.ofSeconds32 1)

def run (options : Json) : Run Rehearsal := ⟨visit options, .start .epoch .empty, false⟩

/-- The run once the ticket has been given out. -/
def admittedRun (options : Json) : Run Rehearsal := ((authenticate services).guarded (run options)).2

/-- Another action of the run. -/
def later (options : Json) (action : CurrentAction) : Context :=
  { (admittedRun options).context with currentAction := action }

/-- The action of a condition that asks for an authentication. -/
def question : CurrentAction :=
  { CurrentAction.anchor 3 with
    kind := .condition
    options := .object [("conditions", .array [.object
      [("type", .string "Authenticated"), ("value", .string "true")]])] }

/-- Tickets that last for a second are enough to be authenticated: a question for that is answered with
success, and the contact takes the ticket along. -/
theorem admitted_second :
    (admittedRun .null).context.isAuthenticatedAt .epoch = true ∧
    (condition services (later .null question) (admittedRun .null).world).outcome = .ok .success ∧
    ∃ (url : String) (before : List (List Char × List Char)) (letters : List Char),
      (redirect services (later .null Landing.visit.currentAction) (admittedRun .null).world).outcome =
        .ok (.redirect url) ∧
      Url.pairsIn url.toList = before ++ [("ticket".toList, letters)] ∧
      Ticket.ofChars? letters = (admittedRun .null).context.ticket := by
  have said : (run .null).context.currentAction.configuration = .ok (.authenticate none) := rfl
  have lasting : (run .null).context.currentAction.configuration ≠ .ok (.authenticate (some 0)) := by
    rw [said]
    nofun
  obtain ⟨proved, recognized⟩ := admitted services (by decide)
    (show (authenticate services).guarded (run .null) = (.ok .success, admittedRun .null) from rfl) rfl
  have asked :=
    (recognized lasting (later .null question) (admittedRun .null).world rfl rfl rfl).condition
      [⟨.authenticated, "true"⟩] rfl (List.forall_mem_singleton.mpr ⟨rfl, by cbv⟩)
  have leads : (redirect services (later .null Landing.visit.currentAction)
      (admittedRun .null).world).outcome = .ok (.redirect
        (withTraces (later .null Landing.visit.currentAction) .epoch false Landing.target).text) :=
    redirect_leads rfl (Landing.redirectUrl?_landing rfl .epoch)
  obtain ⟨url, before, letters, ticket, sent, pairs, read, held⟩ :=
    (recognized lasting (later .null Landing.visit.currentAction) (admittedRun .null).world rfl rfl
      rfl).redirect _ leads rfl
  exact ⟨proved.mpr lasting, asked, url, before, letters, leads.trans (congrArg _ sent), pairs,
    read.trans held.symm⟩

/-- Options that give a ticket no time. -/
def noTime : Json := .object [("lifetimeSeconds", .integer 0)]

/-- Not every authentication that succeeds leaves the visitor authenticated. -/
theorem not_admitted :
    ¬ forall (lifetime : Span) (run after : Run Rehearsal) (outcome : Outcome),
      1000000000 <= lifetime.nanoseconds ->
      (authenticate (Rehearsal.services lifetime)).guarded run = (.ok outcome, after) ->
      outcome.isSuccess = true ->
      after.context.isAuthenticatedAt ((Rehearsal.services lifetime).now after.world) = true := by
  intro law
  have proved := law (.ofSeconds32 1) (run noTime) (admittedRun noTime) .success (by decide) rfl rfl
  exact absurd proved (by decide)

end Reception

end Outreach
