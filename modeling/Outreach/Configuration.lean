import Outreach.Action
import Outreach.Configuration.Offset
import Outreach.Json.Printer

/-!
# Configurations

The options of an action are a document. Its configuration is what the document says, in the
shape of the action's kind, so that a step never looks into a document itself.
-/

namespace Outreach

/-- What a condition of an action looks at. -/
inductive ConditionCode where
  | dateGreaterThanOrEqualTo
  | dateLessThanOrEqualTo
  | authenticated
  | contactExists
  | contactWithTag
  | contactWithoutTag
deriving DecidableEq, Inhabited

namespace ConditionCode

/-- Every code, in the order in which they are listed. -/
def all : List ConditionCode :=
  [.dateGreaterThanOrEqualTo, .dateLessThanOrEqualTo, .authenticated, .contactExists,
    .contactWithTag, .contactWithoutTag]

/-- The name of a code in documents. -/
def name : ConditionCode -> String
  | .dateGreaterThanOrEqualTo => "DateGreaterThanOrEqualTo"
  | .dateLessThanOrEqualTo => "DateLessThanOrEqualTo"
  | .authenticated => "Authenticated"
  | .contactExists => "ContactExists"
  | .contactWithTag => "ContactWithTag"
  | .contactWithoutTag => "ContactWithoutTag"

/-- The code that a document names. -/
def decode : Decoder ConditionCode := Decode.variant (all.map (fun code => (code.name, code)))

end ConditionCode

/-- One condition of a list. Its operand stays a text until it is evaluated. -/
structure Clause where
  code : ConditionCode
  operand : String
deriving DecidableEq, Inhabited

namespace Clause

/-- The text of an operand: a string as it is, nothing for `null`, and the compact text of any
other value. -/
def operandText : Json -> String
  | .string text => text
  | .null => ""
  | other => other.compact

/-- The fields of a clause's document. -/
def layout : Layout := ⟨"ConditionClause", ["type", "value"]⟩

/-- The clause that a document writes. -/
def decode : Decoder Clause := fun json => do
  let record <- Record.open? layout json
  let code := record.slot "type" ConditionCode.decode
  let operand := record.slot "value" (fun value => .ok (operandText value))
  record.visit [code.problem, operand.problem]
  let clause : Clause :=
    { code := <- code.required
      operand := <- operand.withDefault "" }
  record.close
  return clause

/-- The fields of the document of a list of clauses. -/
def listLayout : Layout := ⟨"ConditionConfig", ["conditions"]⟩

/-- The list of clauses that a document writes. -/
def decodeList : Decoder (List Clause) := fun json => do
  let record <- Record.open? listLayout json
  let conditions := record.slot "conditions" (Decode.list decode)
  record.visit [conditions.problem]
  let clauses <- conditions.withDefault []
  record.close
  return clauses

end Clause

/-- When deferred actions run. -/
structure Timing where
  /-- The instant the offset counts from; without one it counts from the run itself. -/
  startDate : Option Instant
  /-- The delay. -/
  offset : Span

/-- The instant at which deferred actions run, never before `now`; `none` if it has no date. -/
def Timing.target? (timing : Timing) (now : Instant) : Option Instant :=
  ((timing.startDate.getD now).add? timing.offset).map (fun target => target.later now)

/-- What the options of an action say. -/
inductive Configuration where
  | sequence
  | control
  | condition (clauses : List Clause)
  /-- The lifetime of tickets in seconds, if it is not the usual one. -/
  | authenticate (lifetimeSeconds : Option UInt32)
  | register
  | unregister
  /-- The tags to give and the tags to take. -/
  | setTags (included excluded : List TagId)
  | sendMail (templateId : TemplateId)
  /-- The address to go to. -/
  | redirect (url : String)
  | schedule (timing : Timing)
  /-- Whether the contact stays unnamed, and the name of the event. -/
  | log (anonymous : Bool) (name : Option String)

/-- Why options are not a configuration. -/
inductive ConfigurationError where
  /-- The document does not have the shape of the kind. -/
  | malformed (kind : ActionKind) (cause : DecodeError)
  /-- A field holds a value that makes no sense. -/
  | invalidField (kind : ActionKind) (field detail : String)

/-- The wording of a cause. -/
def ConfigurationError.message : ConfigurationError -> String
  | .malformed kind cause => "invalid " ++ kind.name ++ " configuration: " ++ cause.message
  | .invalidField kind field detail =>
    "invalid " ++ kind.name ++ " configuration: field '" ++ field ++ "' " ++ detail

namespace Configuration

/-- The kind of the actions that a configuration is for. -/
def kind : Configuration -> ActionKind
  | .sequence => .sequence
  | .control => .control
  | .condition _ => .condition
  | .authenticate _ => .authenticate
  | .register => .register
  | .unregister => .unregister
  | .setTags _ _ => .setTags
  | .sendMail _ => .sendMail
  | .redirect _ => .redirect
  | .schedule _ => .schedule
  | .log _ _ => .log

/-- The lifetime that the options of an authentication give. -/
def decodeLifetime : Decoder (Option UInt32) := fun json => do
  let record <- Record.open? ⟨"AuthenticateConfig", ["lifetimeSeconds"]⟩ json
  let lifetime := record.slot "lifetimeSeconds" (Decode.optional Decode.uint32)
  record.visit [lifetime.problem]
  let value <- lifetime.orNone
  record.close
  return value

/-- The tags to give and to take that options name. -/
def decodeTags : Decoder (List TagId × List TagId) := fun json => do
  let record <- Record.open? ⟨"SetTagsConfig", ["include", "exclude"]⟩ json
  let included := record.slot "include" (Decode.list Decode.int64)
  let excluded := record.slot "exclude" (Decode.list Decode.int64)
  record.visit [included.problem, excluded.problem]
  let tags := (<- included.withDefault [], <- excluded.withDefault [])
  record.close
  return tags

/-- The template that options name. -/
def decodeTemplate : Decoder TemplateId := fun json => do
  let record <- Record.open? ⟨"SendMailConfig", ["templateId"]⟩ json
  let template := record.slot "templateId" Decode.int64
  record.visit [template.problem]
  let value <- template.required
  record.close
  return value

/-- The address that options name. -/
def decodeUrl : Decoder String := fun json => do
  let record <- Record.open? ⟨"RedirectConfig", ["url"]⟩ json
  let url := record.slot "url" Decode.string
  record.visit [url.problem]
  let value <- url.required
  record.close
  return value

/-- The start and the authored offset that options give. -/
def decodeTiming : Decoder (Option Instant × String) := fun json => do
  let record <- Record.open? ⟨"RawScheduleConfig", ["startDate", "offsetTime"]⟩ json
  let start := record.slot "startDate" (Decode.optional Decode.instant)
  let offset := record.slot "offsetTime" Decode.string
  record.visit [start.problem, offset.problem]
  let timing := (<- start.orNone, <- offset.required)
  record.close
  return timing

/-- Whether a contact stays unnamed, and the name of the event, as options say. -/
def decodeLog : Decoder (Bool × Option String) := fun json => do
  let record <- Record.open? ⟨"LogConfig", ["anonymous", "name"]⟩ json
  let anonymous := record.slot "anonymous" Decode.bool
  let name := record.slot "name" (Decode.optional Decode.string)
  record.visit [anonymous.problem, name.problem]
  let log := (<- anonymous.withDefault false, <- name.orNone)
  record.close
  return log

/-- What a decoder reads from the options of a kind. Options that are left out are those of an
empty document. -/
def read {α : Type} (kind : ActionKind) (options : Json) (decode : Decoder α) :
    Except ConfigurationError α :=
  let options := match options with
    | .null => .object []
    | other => other
  (decode options).mapError (.malformed kind)

/-- The configuration of a redirect; its address must not be blank. -/
def ofUrl (url : String) : Except ConfigurationError Configuration :=
  if Text.isBlankText url then .error (.invalidField .redirect "url" "must not be empty")
  else .ok (.redirect url)

/-- The configuration of a deferral; its offset must be of the form of offsets. -/
def ofTiming (startDate : Option Instant) (offset : String) :
    Except ConfigurationError Configuration :=
  match Offset.read? offset with
  | some span => .ok (.schedule ⟨startDate, span⟩)
  | none =>
    .error (.invalidField .schedule "offsetTime"
      ("'" ++ offset ++ "' is not of the form [d.]hh:mm[:ss]"))

/-- The configuration that the options of an action of a kind say. Kinds without a configuration
of their own take any options. -/
def parse (kind : ActionKind) (options : Json) : Except ConfigurationError Configuration :=
  match kind with
  | .sequence => .ok .sequence
  | .control => .ok .control
  | .register => .ok .register
  | .unregister => .ok .unregister
  | .condition => (read kind options Clause.decodeList).map .condition
  | .authenticate => (read kind options decodeLifetime).map .authenticate
  | .setTags => (read kind options decodeTags).map (fun tags => .setTags tags.1 tags.2)
  | .sendMail => (read kind options decodeTemplate).map .sendMail
  | .redirect => (read kind options decodeUrl).bind ofUrl
  | .schedule => (read kind options decodeTiming).bind (fun timing => ofTiming timing.1 timing.2)
  | .log => (read kind options decodeLog).map (fun log => .log log.1 log.2)

end Configuration

/-- What the options of an action say. -/
def Action.configuration (action : Action) : Except ConfigurationError Configuration :=
  Configuration.parse action.kind action.options

end Outreach
