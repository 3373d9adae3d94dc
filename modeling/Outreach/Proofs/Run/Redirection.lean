import Outreach.Proofs.Document.Token
import Outreach.Proofs.Run.Residue
import Outreach.Proofs.Url.Parts

/-!
# Where a visitor is sent

A redirect that succeeds leads to the address that its options name, with the pairs that show the run
it comes from appended to the query and nothing else changed (`redirected`). The token of the run and
the ticket of the visitor are read from their letters there. Without an authentication the ticket
plays no part at all.
-/

namespace Outreach

/-- A visitor who is authenticated holds a ticket. -/
theorem Context.ticket_of_isAuthenticatedAt {context : Context} {now : Instant}
    (proved : context.isAuthenticatedAt now = true) : ∃ ticket, context.ticket = some ticket := by
  unfold isAuthenticatedAt at proved
  split at proved
  · rename_i ticket _ held _
    exact ⟨ticket, held⟩
  · cases proved

namespace Steps

variable {σ : Type} {services : Services σ} {context : Context} {world : σ} {now : Instant}

section Placeholders

/-- A text without a placeholder stays as it is. -/
theorem fillIn_of_plain (token : List Char) {text : List Char} (plain : hasPlaceholder text = false) :
    fillIn token text = text := by
  induction text with
  | nil => rw [fillIn]
  | cons c rest ih =>
    rw [hasPlaceholder, Bool.or_eq_false_iff] at plain
    rw [fillIn, if_neg (by simp [plain.1]), ih plain.2]

end Placeholders

section Targets

variable {mapping : Host.Mapping} {project : Project} {text : String} {url : Url}

/-- The address that a text names in a project: an absolute one, or one seen from the project's own. -/
inductive Names (mapping : Host.Mapping) (project : Project) (text : String) : Url -> Prop where
  | absolute {url : Url} (read : Url.read mapping text = .ok url) : Names mapping project text url
  | relative {address : String} {base url : Url}
      (unrooted : Url.read mapping text = .error .relative)
      (isBase : project.baseUrl = some address) (read : Url.read mapping address = .ok base)
      (resolved : base.resolve mapping text = .ok url) : Names mapping project text url

theorem toOption_eq_some_iff {answer : Except Url.ReadFault Url} :
    answer.toOption = some url ↔ answer = .ok url := by
  cases answer <;> simp [Except.toOption]

/-- The target of a text is the address that it names. -/
theorem targetUrl?_eq_some_iff :
    targetUrl? mapping project text = some url ↔ Names mapping project text url := by
  constructor
  · intro found
    unfold targetUrl? at found
    split at found
    · rename_i absolute read
      cases found
      exact .absolute read
    · rename_i unrooted
      obtain ⟨address, isBase, found⟩ := Option.bind_eq_some_iff.mp found
      obtain ⟨base, read, resolved⟩ := Option.bind_eq_some_iff.mp found
      exact .relative unrooted isBase (toOption_eq_some_iff.mp read)
        (toOption_eq_some_iff.mp resolved)
    · cases found
  · intro named
    cases named with
    | absolute read => rw [targetUrl?, read]
    | relative unrooted isBase read resolved =>
      simp [targetUrl?, unrooted, isBase, read, resolved, Except.toOption]

/-- An address that a text names is parted. -/
theorem Names.parted (named : Names mapping project text url) : url.Parted := by
  cases named with
  | absolute read => exact Url.parted_read read
  | relative _ _ read resolved => exact (Url.parted_read read).resolve resolved

/-- The target of an authored address, and the pairs that show the token of the run there. There are
none if the token stands in the address itself. -/
inductive Target (mapping : Host.Mapping) (project : Project) (token : List Char)
    (authored : String) : Url -> List (List Char × List Char) -> Prop where
  | plain {target : Url} (unmarked : hasPlaceholder authored.toList = false)
      (named : Names mapping project authored target) :
    Target mapping project token authored target [("token".toList, token)]
  | marked {target : Url} (marked : hasPlaceholder authored.toList = true)
      (named : Names mapping project (String.ofList (fillIn token authored.toList)) target) :
    Target mapping project token authored target []

theorem Target.parted {token : List Char} {authored : String} {target : Url}
    {pairs : List (List Char × List Char)}
    (isTarget : Target mapping project token authored target pairs) : target.Parted := by
  cases isTarget with
  | plain _ named => exact named.parted
  | marked _ named => exact named.parted

end Targets

section Traces

/-- The pairs that show the ticket of a visitor: its letters if the visitor is authenticated, and none
otherwise. -/
inductive Shown (context : Context) (now : Instant) : List (List Char × List Char) -> Prop where
  | authenticated {ticket : Ticket} (letters : List Char)
      (proved : context.isAuthenticatedAt now = true) (held : context.ticket = some ticket)
      (read : Ticket.ofChars? letters = some ticket) :
    Shown context now [("ticket".toList, letters)]
  | unknown (unproved : context.isAuthenticatedAt now = false) : Shown context now []

/-- The pair of the token of a run, unless the token has its place. -/
def tokenPairs (context : Context) (placed : Bool) : List (List Char × List Char) :=
  if placed then [] else [("token".toList, (RedirectToken.of context).chars)]

/-- The pair of the ticket of a visitor who is authenticated. -/
def ticketPairs (context : Context) (now : Instant) : List (List Char × List Char) :=
  if context.isAuthenticatedAt now then
    context.ticket.toList.map (fun ticket => ("ticket".toList, ticket.chars))
  else []

theorem withTraces_eq (context : Context) (now : Instant) (placed : Bool) (url : Url) :
    withTraces context now placed url =
      url.appendPairs (tokenPairs context placed ++ ticketPairs context now) := by
  unfold withTraces tokenPairs ticketPairs
  cases context.ticket <;> cases placed <;> cases context.isAuthenticatedAt now <;> rfl

/-- The letters of a ticket show it. -/
theorem shown_ticketPairs (context : Context) (now : Instant) :
    Shown context now (ticketPairs context now) := by
  unfold ticketPairs
  split
  · rename_i proved
    obtain ⟨ticket, held⟩ := context.ticket_of_isAuthenticatedAt proved
    rw [held]
    exact .authenticated ticket.chars proved held ticket.ofChars?_chars
  · rename_i unproved
    exact .unknown (by simpa using unproved)

end Traces

section Redirects

/-- A redirect succeeds if its options are an address that names a target, and leads there. -/
theorem redirect_cases {outcome : Outcome}
    (ends : (redirect services context world).outcome = .ok outcome)
    (succeeded : outcome.isSuccess = true) :
    ∃ authored url, context.currentAction.configuration = .ok (.redirect authored) ∧
      redirectUrl? (services.mapping world) context (services.now world) authored = some url ∧
      outcome = .redirect url.text := by
  unfold redirect Context.configured at ends
  split at ends
  · rename_i configuration said
    dsimp only at ends
    split at ends
    · rename_i authored
      split at ends
      · rename_i url found
        cases ends
        exact ⟨authored, url, said, found, rfl⟩
      · cases ends
        cases succeeded
    · cases ends
      cases succeeded
  · cases ends
    cases succeeded

theorem redirect_leads {authored : String} {url : Url}
    (said : context.currentAction.configuration = .ok (.redirect authored))
    (found : redirectUrl? (services.mapping world) context (services.now world) authored = some url) :
    (redirect services context world).outcome = .ok (.redirect url.text) := by
  unfold redirect Context.configured
  rw [said]
  dsimp only
  rw [found]
  rfl

/-- A redirect that succeeds leads to the target of its address with the traces of the run. -/
theorem redirect_traced {outcome : Outcome}
    (ends : (redirect services context world).outcome = .ok outcome)
    (succeeded : outcome.isSuccess = true) :
    ∃ (authored : String) (target url : Url) (token : List (List Char × List Char)),
      context.currentAction.configuration = .ok (.redirect authored) ∧
      Target (services.mapping world) context.project (RedirectToken.of context).chars authored target
        token ∧
      outcome = .redirect url.text ∧ url = { target with query := url.query } ∧
      Url.pairsIn url.text.toList =
        target.pairs ++ token ++ ticketPairs context (services.now world) := by
  obtain ⟨authored, url, said, found, leads⟩ := redirect_cases ends succeeded
  obtain ⟨target, reached, rfl⟩ := Option.map_eq_some_iff.mp found
  have named := targetUrl?_eq_some_iff.mp reached
  have isTarget : Target (services.mapping world) context.project (RedirectToken.of context).chars
      authored target (tokenPairs context (hasPlaceholder authored.toList)) := by
    cases marked : hasPlaceholder authored.toList with
    | false =>
      rw [fillIn_of_plain _ marked, String.ofList_toList] at named
      exact .plain marked named
    | true => exact .marked marked named
  rw [withTraces_eq] at leads
  refine ⟨authored, target, _, _, said, isTarget, leads, Url.appendPairs_eq _ _, ?_⟩
  have parted := isTarget.parted.appendPairs (tokenPairs context (hasPlaceholder authored.toList) ++
    ticketPairs context (services.now world))
  rw [Url.text, String.toList_ofList, parted.pairsIn_chars, Url.pairs_appendPairs, List.append_assoc]

/-- Without an authentication it makes no difference to a redirect which ticket there is. -/
theorem redirect_unproved (ticket : Option Ticket)
    (unproved : context.isAuthenticatedAt (services.now world) = false)
    (unproved' : { context with ticket }.isAuthenticatedAt (services.now world) = false) :
    (redirect services { context with ticket } world).outcome =
      (redirect services context world).outcome := by
  have none {context : Context} (unproved : context.isAuthenticatedAt (services.now world) = false) :
      ticketPairs context (services.now world) = [] := by simp [ticketPairs, unproved]
  have same (authored : String) :
      redirectUrl? (services.mapping world) { context with ticket } (services.now world) authored =
        redirectUrl? (services.mapping world) context (services.now world) authored := by
    refine congrArg (fun traced => Option.map traced _) (funext fun url => ?_)
    rw [withTraces_eq, withTraces_eq, none unproved, none unproved']
    rfl
  unfold redirect Context.configured
  dsimp only
  split
  · split
    · rw [same]
      split <;> rfl
    · rfl
  · rfl

/-- A redirect that succeeds leads to the target of the address that its options name, and nothing but
the query is changed there: the token of the run is appended unless it has its place in the address,
and then the ticket of a visitor who is authenticated. The token says the root of the run, its contact
and its correlation. A visitor who is not authenticated is sent to the same address with any other
ticket that proves nothing. -/
theorem redirected (services : Services σ) (run : Run σ) :
    (forall outcome, ((redirect services).guarded run).1 = .ok outcome -> outcome.isSuccess = true ->
      ∃ (authored : String) (target url : Url) (letters : List Char)
          (token ticket : List (List Char × List Char)),
        run.context.currentAction.configuration = .ok (.redirect authored) ∧
        RedirectToken.ofChars? letters =
          some ⟨run.context.rootAction, run.context.contactId, run.context.event.correlationUri⟩ ∧
        Target (services.mapping run.world) run.context.project letters authored target token ∧
        Shown run.context (services.now run.world) ticket ∧
        outcome = .redirect url.text ∧ url = { target with query := url.query } ∧
        Url.pairsIn url.text.toList = target.pairs ++ token ++ ticket) ∧
    (run.context.isAuthenticatedAt (services.now run.world) = false -> forall ticket,
      { run.context with ticket }.isAuthenticatedAt (services.now run.world) = false ->
        ((redirect services).guarded { run with context := { run.context with ticket } }).1 =
          ((redirect services).guarded run).1) := by
  constructor
  · intro outcome ends succeeded
    unfold Step.guarded at ends
    split at ends
    · cases ends
    · obtain ⟨authored, target, url, token, said, isTarget, leads, same, pairs⟩ :=
        redirect_traced ends succeeded
      exact ⟨authored, target, url, _, token, _, said, RedirectToken.ofChars?_chars _, isTarget,
        shown_ticketPairs _ _, leads, same, pairs⟩
  · intro unproved ticket unproved'
    unfold Step.guarded
    split
    · rfl
    · exact redirect_unproved ticket unproved unproved'

end Redirects

end Steps

namespace Landing

open Steps

/-- A project with an address of its own. -/
def project : Project := { Sample.project with baseUrl := some "https://portal.example.com/p/" }

/-- The noon of the first day. -/
def noon : Instant :=
  { Instant.epoch with second := 43200, second_lt := by decide, nanosecond_lt := .inl (by decide) }

/-- A contact whose ticket is valid until noon, and who is sent to an address seen from that of the
project. -/
def visit : Context :=
  { Context.start project 7 with
    currentAction :=
      { CurrentAction.anchor 2 with
        kind := .redirect, options := .object [("url", .string "thanks?from=mail#top")] }
    contact := some { Sample.contact with id := some 5 }
    ticket := some ⟨5, default, .epoch, noon⟩ }

/-- The run of a visit at an instant. -/
def runAt (now : Instant) : Run Rehearsal := ⟨visit, .start now .empty, false⟩

def services : Services Rehearsal := Rehearsal.services (.ofSeconds32 3600)

/-- The address that the contact is sent to, without the traces of the run. -/
def target : Url :=
  { scheme := "https".toList
    authority := some ⟨[], none, some (.name "portal.example.com".toList), none⟩
    path := "/p/thanks".toList, query := some "from=mail".toList, fragment := some "top".toList }

theorem targetUrl?_landing :
    targetUrl? Host.asciiMapping project "thanks?from=mail#top" = some target := by
  decide +kernel

/-- Every run in the project gets to the target, and leaves its traces there. -/
theorem redirectUrl?_landing {context : Context} (here : context.project = project) (now : Instant) :
    redirectUrl? Host.asciiMapping context now "thanks?from=mail#top" =
      some (withTraces context now false target) := by
  have unmarked : hasPlaceholder "thanks?from=mail#top".toList = false := by decide
  rw [redirectUrl?, unmarked, fillIn_of_plain _ unmarked, String.ofList_toList, here]
  exact congrArg (Option.map _) targetUrl?_landing

/-- Before noon the contact takes the ticket along, and the ticket is read from the address. At noon it
makes no difference whether there is a ticket. -/
theorem redirected_landing :
    (∃ url letters ticket,
      ((redirect services).guarded (runAt .epoch)).1 = .ok (.redirect url) ∧
      Url.pairsIn url.toList =
        [("from".toList, "mail".toList), ("token".toList, letters), ("ticket".toList, ticket)] ∧
      RedirectToken.ofChars? letters = some ⟨7, some 5, none⟩ ∧
      Ticket.ofChars? ticket = visit.ticket) ∧
    ((redirect services).guarded
        { runAt noon with context := { visit with ticket := none } }).1 =
      ((redirect services).guarded (runAt noon)).1 := by
  have options : visit.currentAction.configuration = .ok (.redirect "thanks?from=mail#top") := rfl
  have leads : ((redirect services).guarded (runAt .epoch)).1 =
      .ok (.redirect (withTraces visit .epoch false target).text) :=
    redirect_leads options (redirectUrl?_landing rfl .epoch)
  constructor
  · obtain ⟨authored, target', url, letters, token, ticket, said, read, isTarget, shown, sent, -,
      pairs⟩ := (redirected services (runAt .epoch)).1 _ leads rfl
    cases options.symm.trans said
    have unmarked : hasPlaceholder "thanks?from=mail#top".toList = false := by decide
    cases isTarget with
    | marked marked _ => exact absurd (unmarked.symm.trans marked) Bool.false_ne_true
    | plain _ named =>
      cases (targetUrl?_landing.symm.trans (targetUrl?_eq_some_iff.mpr named))
      cases shown with
      | unknown unproved => exact absurd unproved (by decide)
      | authenticated ticket _ held ticketRead =>
        have before : target.pairs = [("from".toList, "mail".toList)] := by decide +kernel
        rw [before] at pairs
        refine ⟨url.text, letters, ticket, ?_, pairs, read, ticketRead.trans held.symm⟩
        rw [leads, sent]
  · exact (redirected services (runAt noon)).2 (by decide) none rfl

end Landing

end Outreach
