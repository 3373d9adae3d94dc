import Outreach.Proofs.Text.LowerCase
import Outreach.Rules.Matching

/-!
# Conditions on parts of fields

A condition that looks for a text in a field disregards letter case: it looks for the lower case of
the text in the lower case of the field. A text that stands in the field as it is written is found
in this way unless it has a capital sigma that ends a word in the text and not in the field, or the
other way round. `RuleCondition.literal` says when that is so, and of which texts it is never so.
-/

namespace Outreach

theorem Text.occursIn_iff {part text : List Char} : occursIn part text = true ↔ part <:+: text := by
  induction text with
  | nil => simp [occursIn]
  | cons c rest ih =>
    rw [occursIn, Bool.or_eq_true, ih, List.isPrefixOf_iff_prefix, List.infix_cons_iff]

namespace RuleCode

/-- The field in which conditions of a code look for a text, if they do. -/
def searched? : RuleCode -> Option (Event -> Option String)
  | .clientIdContains => some Event.clientId
  | .correlationUriContains => some Event.correlationUri
  | .referrerUrlContains => some Event.referrerUrl
  | .contactMailContains => some Event.contactMail
  | .startDateGreaterThan | .startDateLessThan | .projectIdEquals | .contactStateEquals => none

/-- Every text may be in a field in which texts are looked for. -/
theorem exists_searched {code : RuleCode} {field : Event -> Option String}
    (searched : code.searched? = some field) (text : String) :
    ∃ event, field event = some text := by
  cases code with
  | clientIdContains =>
    cases searched
    exact ⟨{ Event.blank with clientId := some text }, rfl⟩
  | correlationUriContains =>
    cases searched
    exact ⟨{ Event.blank with correlationUri := some text }, rfl⟩
  | referrerUrlContains =>
    cases searched
    exact ⟨{ Event.blank with referrerUrl := some text }, rfl⟩
  | contactMailContains =>
    cases searched
    exact ⟨{ Event.blank with contactMail := some text }, rfl⟩
  | startDateGreaterThan | startDateLessThan | projectIdEquals | contactStateEquals =>
    cases searched

end RuleCode

namespace RuleCondition

variable {code : RuleCode} {field : Event -> Option String}

/-- A condition that looks for a text holds if its lower case is in that of the field. -/
theorem holdsOf_iff (searched : code.searched? = some field) {operand text : String} {event : Event}
    (filled : field event = some text) :
    (RuleCondition.mk code operand).holdsOf event = true ↔
      Text.lowerCase operand.toList <:+: Text.lowerCase text.toList := by
  have looks : (RuleCondition.mk code operand).holdsOf event =
      fieldContains (field event) operand := by
    cases code <;> cases searched <;> rfl
  rw [looks, filled]
  exact Text.occursIn_iff

/-- A text that stands in the field as it is written is found if its capital sigmas end words there
just where they do in the text alone. It is found in every field in which it stands if and only if
all of its capital sigmas are settled. -/
theorem literal (searched : code.searched? = some field) (operand : String) :
    (forall (event : Event) (text : String) (front back : List Char), field event = some text ->
      text.toList = front ++ operand.toList ++ back ->
      Text.Agrees front.reverse back operand.toList ->
        (RuleCondition.mk code operand).holdsOf event = true) ∧
    ((forall (event : Event) (text : String), field event = some text ->
      operand.toList <:+: text.toList -> (RuleCondition.mk code operand).holdsOf event = true) ↔
        Text.Steady operand.toList) := by
  refine ⟨fun event text front back filled parts agrees => ?_, ?_⟩
  · rw [holdsOf_iff searched filled, parts]
    exact Text.lowerCase_infix agrees
  · rw [← Text.lowerCase_infix_iff]
    constructor
    · intro law text inside
      obtain ⟨event, filled⟩ := RuleCode.exists_searched searched (String.ofList text)
      have found := law event (String.ofList text) filled (by rwa [String.toList_ofList])
      rwa [holdsOf_iff searched filled, String.toList_ofList] at found
    · intro law event text filled inside
      rw [holdsOf_iff searched filled]
      exact law text.toList inside

/-- A capital sigma at the start of a word is settled by the letter after it. -/
theorem literal_start :
    (RuleCondition.mk .clientIdContains "ΣΟΔ").holdsOf
      { Event.blank with clientId := some "ΟΔΟΣΟΔ" } = true := by
  have searched : RuleCode.clientIdContains.searched? = some Event.clientId := rfl
  have steady : Text.Steady "ΣΟΔ".toList := by decide +kernel
  exact (literal searched "ΣΟΔ").2.mpr steady _ "ΟΔΟΣΟΔ" rfl ⟨"ΟΔΟ".toList, [], by decide⟩

/-- Not every text that stands in a field is found: the capital sigma that ends the word in the
text does not in the field. -/
theorem not_literal :
    ¬ forall (code : RuleCode) (field : Event -> Option String) (operand text : String)
        (event : Event), code.searched? = some field -> field event = some text ->
      operand.toList <:+: text.toList -> (RuleCondition.mk code operand).holdsOf event = true := by
  intro law
  have found := law .clientIdContains Event.clientId "ΟΔΟΣ" "ΟΔΟΣx"
    { Event.blank with clientId := some "ΟΔΟΣx" } rfl rfl ⟨[], ['x'], by decide⟩
  have missed : (RuleCondition.mk .clientIdContains "ΟΔΟΣ").holdsOf
      { Event.blank with clientId := some "ΟΔΟΣx" } = false := by decide +kernel
  exact Bool.false_ne_true (missed.symm.trans found)

end RuleCondition

end Outreach
