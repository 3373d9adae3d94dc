import Mathlib.Data.List.Nodup
import Outreach.Action
import Outreach.Proofs.Document.Value
import Outreach.Rules.Rule

/-!
# Authored documents

Trees of actions and rules are authored as documents, and authors leave out what they take for
granted. `Abridges` says which members of a document may be missing: those that have their default. The
order of the others does not matter. An action is written by such a document if every child is written
by one (`Action.WrittenAs`). Whatever is left out where, what is decoded is the same as from the
complete document (`Authored.restored`).
-/

namespace Outreach

open Decode

/-- Members that write the same as a complete list of them: none occurs twice, all are of the list, and
those of the list that are missing have their default. -/
structure Abridges (complete defaults members : List (String × Json)) : Prop where
  distinct : (members.map Prod.fst).Nodup
  kept : ∀ member ∈ members, member ∈ complete
  omitted : ∀ member ∈ complete, member ∈ members ∨ member ∈ defaults

namespace Abridges

variable {complete defaults members : List (String × Json)} {name : String} {encoded : Json}

/-- Nothing has to be left out. -/
theorem refl (distinct : (complete.map Prod.fst).Nodup) : Abridges complete defaults complete :=
  ⟨distinct, fun _ => id, fun _ => .inl⟩

/-- A member is found as the complete list has it, or it is missing and has its default. -/
theorem lookup_cases (abridges : Abridges complete defaults members)
    (names : (complete.map Prod.fst).Nodup) (listed : (name, encoded) ∈ complete) :
    members.lookup name = some encoded ∨
      members.lookup name = none ∧ (name, encoded) ∈ defaults := by
  cases found : members.lookup name with
  | none =>
    refine .inr ⟨rfl, (abridges.omitted _ listed).resolve_left (fun member => ?_)⟩
    have apart := List.lookup_eq_none_iff.mp found _ member
    simp at apart
  | some other =>
    obtain ⟨before, after, split, -⟩ := List.lookup_eq_some_iff.mp found
    have member : (name, other) ∈ members := split ▸ List.mem_append_right _ List.mem_cons_self
    have same := List.inj_on_of_nodup_map names (abridges.kept _ member) listed rfl
    exact .inl (congrArg some (congrArg Prod.snd same))

section Fields

variable {α : Type} (abridges : Abridges complete defaults members)
  (names : (complete.map Prod.fst).Nodup) (layout : Layout) (name : String)

include abridges names

/-- A field without a default is there. -/
theorem required_eq {decode : Decoder α} {value : α} (decoded : decode encoded = .ok value)
    (listed : (name, encoded) ∈ complete) (needed : forall json, (name, json) ∉ defaults) :
    let slot := (Record.mk layout (.byName members)).slot name decode
    slot.problem.2 = none ∧ slot.required = .ok value := by
  rcases abridges.lookup_cases names listed with found | ⟨-, isDefault⟩
  · simp [Record.slot, Slot.problem, Slot.required, found, decoded]
  · exact absurd isDefault (needed encoded)

/-- A field with a default is there, or its default is what would be decoded. -/
theorem withDefault_eq {decode : Decoder α} {value : α} (default : α)
    (decoded : decode encoded = .ok value) (listed : (name, encoded) ∈ complete)
    (defaulted : forall json, (name, json) ∈ defaults -> decode json = .ok default) :
    let slot := (Record.mk layout (.byName members)).slot name decode
    slot.problem.2 = none ∧ slot.withDefault default = .ok value := by
  rcases abridges.lookup_cases names listed with found | ⟨missing, omitted⟩
  · simp [Record.slot, Slot.problem, Slot.withDefault, found, decoded]
  · have same := (defaulted encoded omitted).symm.trans decoded
    simp [Record.slot, Slot.problem, Slot.withDefault, missing, same]

/-- An optional field is there, or it has no value. -/
theorem orNone_eq {decode : Decoder (Option α)} {value : Option α}
    (decoded : decode encoded = .ok value) (listed : (name, encoded) ∈ complete)
    (defaulted : forall json, (name, json) ∈ defaults -> decode json = .ok none) :
    let slot := (Record.mk layout (.byName members)).slot name decode
    slot.problem.2 = none ∧ slot.orNone = .ok value := by
  rcases abridges.lookup_cases names listed with found | ⟨missing, omitted⟩
  · simp [Record.slot, Slot.problem, Slot.orNone, found, decoded]
  · have same := (defaulted encoded omitted).symm.trans decoded
    simp [Record.slot, Slot.problem, Slot.orNone, missing, same]

end Fields

end Abridges

namespace Json

/-- The items of an array are not higher than all of them together. -/
theorem height_le_itemsHeight {item : Json} {items : List Json} (member : item ∈ items) :
    item.height <= height.itemsHeight items := by
  induction items with
  | nil => cases member
  | cons first rest ih =>
    rw [height.itemsHeight]
    rcases List.mem_cons.mp member with rfl | later
    · exact Nat.le_max_left _ _
    · exact Nat.le_trans (ih later) (Nat.le_max_right _ _)

theorem height_le_membersHeight {name : String} {value : Json} {members : List (String × Json)}
    (member : (name, value) ∈ members) : value.height <= height.membersHeight members := by
  induction members with
  | nil => cases member
  | cons first rest ih =>
    rw [height.membersHeight]
    rcases List.mem_cons.mp member with rfl | later
    · exact Nat.le_max_left _ _
    · exact Nat.le_trans (ih later) (Nat.le_max_right _ _)

end Json

theorem ActionKind.reads_decode : ActionKind.decode.Reads (fun kind => .string kind.name) := by
  rintro (_ | _ | _ | _ | _ | _ | _ | _ | _ | _ | _) <;> rfl

namespace Action

/-- The members of an action's document, given the documents of its children. -/
def members (action : Action) (documents : List Json) : List (String × Json) :=
  [("id", .ofInt64 action.id),
    ("parentId", .ofOption .ofInt64 action.parentId),
    ("projectId", .ofInt64 action.projectId),
    ("actionType", .string action.kind.name),
    ("enabled", .bool action.enabled),
    ("modifiedAt", .string action.modifiedAt.text),
    ("name", .string action.name),
    ("options", action.options),
    ("children", .array documents)]

/-- What is taken for granted of an action: it names no parent, it is enabled, and it has neither
options nor children. -/
def defaults : List (String × Json) :=
  [("parentId", .null), ("enabled", .bool true), ("options", .null), ("children", .array [])]

/-- A document writes an action: an object that may leave out what is taken for granted, and so may the
documents of the children. -/
inductive WrittenAs : Action -> Json -> Prop where
  | object {action : Action} {documents : List Json} {written : List (String × Json)}
      (counted : action.children.length = documents.length)
      (below : forall child document, (child, document) ∈ action.children.zip documents ->
        WrittenAs child document)
      (abridges : Abridges (action.members documents) defaults written) :
      WrittenAs action (.object written)

variable {action : Action} {documents : List Json} {written : List (String × Json)} {height : Nat}

theorem names_nodup (action : Action) (documents : List Json) :
    ((action.members documents).map Prod.fst).Nodup := by
  simp [members]

theorem toJson_eq (action : Action) :
    action.toJson = .object (action.members (toJson.toJsons action.children)) := by
  cases action
  rfl

mutual

/-- The complete document writes an action. -/
theorem writtenAs_toJson : forall action : Action, action.WrittenAs action.toJson
  | ⟨id, parentId, projectId, kind, enabled, modifiedAt, name, options, children⟩ => by
    obtain ⟨counted, below⟩ := writtenAs_toJsons children
    rw [toJson_eq]
    exact .object counted below (.refl (names_nodup _ _))

theorem writtenAs_toJsons : forall actions : List Action,
    actions.length = (toJson.toJsons actions).length ∧
      forall child document, (child, document) ∈ actions.zip (toJson.toJsons actions) ->
        child.WrittenAs document
  | [] => ⟨rfl, nofun⟩
  | first :: rest => by
    obtain ⟨counted, below⟩ := writtenAs_toJsons rest
    refine ⟨congrArg (· + 1) counted, fun child document pair => ?_⟩
    rcases List.mem_cons.mp pair with here | later
    · cases here
      exact writtenAs_toJson first
    · exact below child document later

end

/-- The documents of the children are lower than the one that they stand in. -/
theorem height_le_of_below (abridges : Abridges (action.members documents) defaults written)
    (low : (Json.object written).height <= height + 1) :
    ∀ document ∈ documents, document.height <= height := by
  intro document member
  have listed : ("children", .array documents) ∈ action.members documents := by simp [members]
  rcases abridges.omitted _ listed with here | omitted
  · have inArray := Json.height_le_itemsHeight member
    have inObject := Json.height_le_membersHeight here
    simp only [Json.height] at low inObject
    omega
  · have none : documents = [] := by simpa [defaults] using omitted
    rw [none] at member
    cases member

/-- An action is decoded if its children are. -/
theorem decodeWithin_object (abridges : Abridges (action.members documents) defaults written)
    (below : Decode.list (decodeWithin height) (.array documents) = .ok action.children) :
    decodeWithin (height + 1) (.object written) = .ok action := by
  have names := action.names_nodup documents
  have parent := reads_optional reads_int64 (fun _ => Json.noConfusion) action.parentId
  have id := abridges.required_eq names layout "id" (reads_int64 action.id)
    (by simp [members]) (by simp [defaults])
  have parentId := abridges.orNone_eq names layout "parentId" parent
    (by simp [members]) (by simp [defaults, Decode.optional])
  have projectId := abridges.required_eq names layout "projectId" (reads_int64 action.projectId)
    (by simp [members]) (by simp [defaults])
  have kind := abridges.required_eq names layout "actionType" (ActionKind.reads_decode action.kind)
    (by simp [members]) (by simp [defaults])
  have enabled := abridges.withDefault_eq names layout "enabled" true (reads_bool action.enabled)
    (by simp [members]) (by simp [defaults, Decode.bool])
  have modifiedAt := abridges.required_eq names layout "modifiedAt"
    (reads_instant action.modifiedAt) (by simp [members]) (by simp [defaults])
  have name := abridges.required_eq names layout "name" (reads_string action.name)
    (by simp [members]) (by simp [defaults])
  have options := abridges.withDefault_eq names layout "options" .null (reads_any action.options)
    (by simp [members]) (by simp [defaults, Decode.any])
  have children := abridges.withDefault_eq names layout "children" [] below
    (by simp [members]) (by simp [defaults, Decode.list, Decode.items])
  simp only [decodeWithin, Record.open?, bind, Except.bind, id.2, parentId.2, projectId.2, kind.2,
    enabled.2, modifiedAt.2, name.2, options.2, children.2, Record.close, pure, Except.pure]
  rw [Record.visit_eq_ok _ abridges.distinct]
  · cases action
    rfl
  · simp only [List.forall_mem_cons]
    exact ⟨id.1, parentId.1, projectId.1, kind.1, enabled.1, modifiedAt.1, name.1, options.1,
      children.1, List.forall_mem_nil _⟩

/-- An action is decoded from every document that writes it, by induction on the document: the height
that is left for the children is enough. -/
theorem decodeWithin_of_writtenAs {document : Json} (isWritten : action.WrittenAs document) :
    forall height, document.height <= height -> decodeWithin height document = .ok action := by
  induction isWritten with
  | @object action documents written counted _ abridges ih =>
    intro height low
    obtain _ | height := height
    · cases low
    have each := height_le_of_below abridges low
    refine decodeWithin_object abridges
      (items_eq (List.forall₂_iff_zip.mpr ⟨counted, fun {child document} pair => ?_⟩))
    exact ih child document pair height (each document (List.of_mem_zip pair).2)

end Action

theorem RuleCode.reads_decode : RuleCode.decode.Reads (fun code => .string code.name) := by
  rintro (_ | _ | _ | _ | _ | _ | _ | _) <;> rfl

theorem RuleCondition.reads_decode : RuleCondition.decode.Reads RuleCondition.toJson := by
  intro condition
  simp only [decode, toJson, Record.open?, Record.slot]
  simp [List.lookup_cons, RuleCode.reads_decode _, reads_string _, Slot.problem, bind, Except.bind,
    pure, Except.pure, Slot.required, Record.visit_eq_ok, Record.close]

/-- A removal is written without an operand, a category with one. -/
theorem RuleAction.reads_decode : RuleAction.decode.Reads RuleAction.toJson := by
  rintro (_ | category)
  · rfl
  · simp [decode, toJson, Record.repeated?, layout, ofMembers, List.lookup_cons, Tag.decode, variant,
      named, ofOperand, reads_int64 category, bind, Except.bind, Except.map]

namespace Rule

/-- The members of a rule's document. -/
def members (rule : Rule) : List (String × Json) :=
  [("id", .ofInt64 rule.id),
    ("ownerId", .string rule.ownerId),
    ("name", .string rule.name),
    ("enabled", .bool rule.enabled),
    ("conditions", .ofList RuleCondition.toJson rule.conditions),
    ("actions", .ofList RuleAction.toJson rule.actions)]

/-- What is taken for granted of a rule: it is enabled, and it has neither conditions nor actions. -/
def defaults : List (String × Json) :=
  [("enabled", .bool true), ("conditions", .array []), ("actions", .array [])]

/-- A document writes a rule: an object that may leave out what is taken for granted. -/
inductive WrittenAs (rule : Rule) : Json -> Prop where
  | object {written : List (String × Json)} (abridges : Abridges rule.members defaults written) :
      WrittenAs rule (.object written)

theorem names_nodup (rule : Rule) : (rule.members.map Prod.fst).Nodup := by
  simp [members]

/-- The complete document writes a rule. -/
theorem writtenAs_toJson (rule : Rule) : rule.WrittenAs rule.toJson :=
  .object (.refl rule.names_nodup)

/-- A rule is decoded from every document that writes it. -/
theorem decode_of_writtenAs {rule : Rule} {document : Json} (isWritten : rule.WrittenAs document) :
    decode document = .ok rule := by
  obtain ⟨abridges⟩ := isWritten
  have names := rule.names_nodup
  have id := abridges.required_eq names layout "id" (reads_int64 rule.id)
    (by simp [members]) (by simp [defaults])
  have ownerId := abridges.required_eq names layout "ownerId" (reads_string rule.ownerId)
    (by simp [members]) (by simp [defaults])
  have name := abridges.required_eq names layout "name" (reads_string rule.name)
    (by simp [members]) (by simp [defaults])
  have enabled := abridges.withDefault_eq names layout "enabled" true (reads_bool rule.enabled)
    (by simp [members]) (by simp [defaults, Decode.bool])
  have conditions := abridges.withDefault_eq names layout "conditions" []
    (reads_list RuleCondition.reads_decode rule.conditions)
    (by simp [members]) (by simp [defaults, Decode.list, Decode.items])
  have actions := abridges.withDefault_eq names layout "actions" []
    (reads_list RuleAction.reads_decode rule.actions)
    (by simp [members]) (by simp [defaults, Decode.list, Decode.items])
  simp only [decode, Record.open?, bind, Except.bind, id.2, ownerId.2, name.2, enabled.2,
    conditions.2, actions.2, Record.close, pure, Except.pure]
  rw [Record.visit_eq_ok _ abridges.distinct]
  simp only [List.forall_mem_cons]
  exact ⟨id.1, ownerId.1, name.1, enabled.1, conditions.1, actions.1,
    List.forall_mem_nil _⟩

end Rule

namespace Authored

/-- Trees of actions and rules are decoded from their complete documents and from all that leave out
what is taken for granted, at whatever actions of a tree. -/
theorem restored :
    Action.decode.Reads Action.toJson ∧ Rule.decode.Reads Rule.toJson ∧
      (forall action document, action.WrittenAs document -> Action.decode document = .ok action) ∧
      (forall rule document, rule.WrittenAs document -> Rule.decode document = .ok rule) :=
  ⟨fun action => Action.decodeWithin_of_writtenAs action.writtenAs_toJson _ (Nat.le_refl _),
    fun rule => Rule.decode_of_writtenAs rule.writtenAs_toJson,
    fun _ _ isWritten => Action.decodeWithin_of_writtenAs isWritten _ (Nat.le_refl _),
    fun _ _ => Rule.decode_of_writtenAs⟩

/-- A disabled entry of the log. -/
def note : Action :=
  { Action.new 5 1 .log "note" .epoch with
    parentId := some 4, enabled := false, options := .object [("level", .null)] }

/-- The document of the entry, in another order and without the list of its children. -/
def noteDocument : Json :=
  .object
    [("name", .string "note"), ("actionType", .string "Log"), ("id", .integer 5),
      ("parentId", .integer 4), ("projectId", .integer 1), ("enabled", .bool false),
      ("options", .object [("level", .null)]), ("modifiedAt", .string Instant.epoch.text)]

/-- A sequence of the entry alone. -/
def sequence : Action := { Action.new 4 1 .sequence "steps" .epoch with children := [note] }

/-- The document of the sequence, which says neither that it has no parent and no options nor that it is
enabled. -/
def sequenceDocument : Json :=
  .object
    [("id", .integer 4), ("projectId", .integer 1), ("actionType", .string "Sequence"),
      ("children", .array [noteDocument]), ("modifiedAt", .string Instant.epoch.text),
      ("name", .string "steps")]

/-- A rule that removes every event and puts it into a category. -/
def rule : Rule := { Rule.new 3 "owner-1" "filter" with actions := [.remove, .categorize 9] }

/-- The document of the rule, which says neither that it is enabled nor that it has no conditions. -/
def ruleDocument : Json :=
  .object
    [("id", .integer 3), ("ownerId", .string "owner-1"), ("name", .string "filter"),
      ("actions", .array
        [.object [("code", .string "Remove")],
          .object [("code", .string "Categorize"), ("operand", .integer 9)]])]

theorem writtenAs_noteDocument : note.WrittenAs noteDocument := by
  refine @Action.WrittenAs.object note [] _ rfl nofun ⟨by decide, ?_, ?_⟩
  · simp [Action.members, note, Action.new, Json.ofOption, Json.ofInt64, ActionKind.name]
  · simp [Action.members, Action.defaults, note, Action.new, Json.ofOption, Json.ofInt64,
      ActionKind.name]

theorem writtenAs_sequenceDocument : sequence.WrittenAs sequenceDocument := by
  refine @Action.WrittenAs.object sequence [noteDocument] _ rfl ?_ ⟨by decide, ?_, ?_⟩
  · intro child document pair
    cases List.mem_singleton.mp pair
    exact writtenAs_noteDocument
  · simp [Action.members, sequence, Action.new, Json.ofInt64, ActionKind.name]
  · simp [Action.members, Action.defaults, sequence, Action.new, Json.ofOption, Json.ofInt64,
      ActionKind.name]

theorem writtenAs_ruleDocument : rule.WrittenAs ruleDocument := by
  refine .object ⟨by decide, ?_, ?_⟩
  · simp [Rule.members, rule, Rule.new, Json.ofList, RuleAction.toJson, Json.ofInt64]
  · simp [Rule.members, Rule.defaults, rule, Rule.new, Json.ofList, RuleAction.toJson,
      Json.ofInt64]

/-- The sequence and the rule are decoded from their short documents. -/
theorem restored_short :
    sequence.WrittenAs sequenceDocument ∧ Action.decode sequenceDocument = .ok sequence ∧
      rule.WrittenAs ruleDocument ∧ Rule.decode ruleDocument = .ok rule :=
  ⟨writtenAs_sequenceDocument, restored.2.2.1 _ _ writtenAs_sequenceDocument,
    writtenAs_ruleDocument, restored.2.2.2 _ _ writtenAs_ruleDocument⟩

end Authored

end Outreach
