import Outreach.Json.Reader
import Outreach.Run.Activity
import Outreach.Run.Services
import Outreach.Text.Base64Url
import Outreach.Url.Query
import Outreach.Url.Reader

/-!
# Redirects

The visitor is sent to an address. A token in it says which run the visit comes from; a visitor
who is authenticated takes the ticket along.
-/

namespace Outreach

/-- What a landing page learns about the run that a visit comes from. -/
structure RedirectToken where
  /-- The action at the root of the run. -/
  actionId : ActionId
  contactId : Option ContactId
  correlationUri : Option String
deriving DecidableEq, Inhabited

namespace RedirectToken

/-- The token of a run. -/
def of (context : Context) : RedirectToken :=
  { actionId := context.rootAction, contactId := context.contactId
    correlationUri := context.event.correlationUri }

/-- The document of a token. -/
def toJson (token : RedirectToken) : Json :=
  .object
    [("a", .ofInt64 token.actionId),
      ("c", .ofOption .ofInt64 token.contactId),
      ("u", .ofOption .string token.correlationUri)]

/-- The fields of a token's document. -/
def layout : Layout := ⟨"RedirectToken", ["a", "c", "u"]⟩

/-- The token that a document writes. -/
def decode : Decoder RedirectToken := fun json => do
  let record <- Record.open? layout json
  let actionId := record.slot "a" Decode.int64
  let contactId := record.slot "c" (Decode.optional Decode.int64)
  let correlationUri := record.slot "u" (Decode.optional Decode.string)
  record.visit [actionId.problem, contactId.problem, correlationUri.problem]
  let token : RedirectToken :=
    { actionId := <- actionId.required
      contactId := <- contactId.orNone
      correlationUri := <- correlationUri.orNone }
  record.close
  return token

/-- The text of a token. -/
def chars (token : RedirectToken) : List Char := Base64Url.ofText token.toJson.compactChars

/-- The token that a text writes. -/
def ofChars? (text : List Char) : Option RedirectToken := do
  let document <- Base64Url.toText? text
  let json <- Json.ofText? Json.documentNesting document
  (decode json).toOption

end RedirectToken

/-- The text of a ticket in an address. -/
def Ticket.chars (ticket : Ticket) : List Char := Base64Url.ofText ticket.toJson.compactChars

namespace Steps

variable {σ : Type}

/-- What stands for the token in an authored address. -/
def placeholder : List Char := "\x7btoken\x7d".toList

/-- A text with every placeholder replaced. -/
def fillIn (token : List Char) (text : List Char) : List Char :=
  match text with
  | [] => []
  | c :: rest =>
    if placeholder.isPrefixOf (c :: rest) then token ++ fillIn token (rest.drop 6)
    else c :: fillIn token rest
termination_by text.length
decreasing_by all_goals simp only [List.length_cons, List.length_drop]; omega

/-- Whether a text holds a placeholder. -/
def hasPlaceholder : List Char -> Bool
  | [] => false
  | c :: rest => placeholder.isPrefixOf (c :: rest) || hasPlaceholder rest

/-- The address that a target names: an absolute address, or one seen from the project's own. -/
def targetUrl? (mapping : Host.Mapping) (project : Project) (target : String) : Option Url :=
  match Url.read mapping target with
  | .ok url => some url
  | .error .relative => do
    let base <- (Url.read mapping (<- project.baseUrl)).toOption
    (base.resolve mapping target).toOption
  | .error _ => none

/-- The address with the token of a run, unless the token stands in a placeholder, and then with
the ticket of a visitor who is authenticated. -/
def withTraces (context : Context) (now : Instant) (placed : Bool) (url : Url) : Url :=
  let url :=
    if placed then url else url.appendPair "token".toList (RedirectToken.of context).chars
  match context.ticket with
  | some ticket =>
    if context.isAuthenticatedAt now then url.appendPair "ticket".toList ticket.chars else url
  | none => url

/-- The address that an authored one leads to in a run. -/
def redirectUrl? (mapping : Host.Mapping) (context : Context) (now : Instant)
    (authored : String) : Option Url :=
  let text := authored.toList
  let target := String.ofList (fillIn (RedirectToken.of context).chars text)
  (targetUrl? mapping context.project target).map (withTraces context now (hasPlaceholder text))

/-- Send the visitor to an address. -/
def redirect (services : Services σ) : Step σ := fun context world =>
  context.configured world (fun configuration =>
    match configuration with
    | .redirect authored =>
      match redirectUrl? (services.mapping world) context (services.now world) authored with
      | some url => .finish (.redirect url.text) context world
      | none =>
        .finish (.failedWith ("cannot resolve redirect target '" ++ authored ++ "'")) context world
    | _ => .finish .failed context world)

end Steps

end Outreach
