import Outreach.Proofs.Document.Continuation
import Outreach.Proofs.Json.Written
import Outreach.Proofs.Text.Base64Url
import Outreach.Steps.Redirect

/-!
# Tokens and tickets in addresses

A token and a ticket travel in an address as the letters of their documents. Both are read from their
letters, whatever their fields hold. So no two tokens have the same letters (`RedirectToken.legible`).
-/

namespace Outreach

namespace Json

/-- A signed 64-bit word is a whole number of 64 bits. -/
theorem isWhole_ofInt64 (word : Int64) : (ofInt64 word).IsWhole := by
  have least := word.le_toInt
  have most := word.toInt_lt
  change -(UInt64.size / 2 : Nat) <= word.toInt ∧ word.toInt < UInt64.size
  simp only [UInt64.size]
  omega

/-- The value that the letters of an address write. -/
def ofLetters? (letters : List Char) : Option Json :=
  (Base64Url.toText? letters).bind (ofText? documentNesting)

/-- A value is read from the letters of its text, if its numbers are whole and it is not nested too
deeply. -/
theorem ofLetters?_ofText {json : Json} (whole : json.IsWhole)
    (shallow : json.height < documentNesting) :
    ofLetters? (Base64Url.ofText json.compactChars) = some json := by
  rw [ofLetters?, Base64Url.toText?_ofText, Option.bind_some, ofText?_compactChars whole shallow]

end Json

namespace RedirectToken

theorem reads_decode : decode.Reads toJson := by
  intro token
  have contactId := Decode.reads_optional Decode.reads_int64 (fun _ => Json.noConfusion) token.contactId
  have correlationUri := Decode.reads_optional Decode.reads_string (fun _ => Json.noConfusion)
    token.correlationUri
  simp only [decode, toJson, Record.open?, Record.slot]
  simp [List.lookup_cons, contactId, correlationUri, Decode.reads_int64 _, Slot.problem, bind,
    Except.bind, pure, Except.pure, Slot.required, Slot.orNone, Record.visit_eq_ok, Record.close]

theorem isWhole_toJson (token : RedirectToken) : token.toJson.IsWhole := by
  refine ⟨Json.isWhole_ofInt64 token.actionId, ?_, ?_, trivial⟩
  · cases token.contactId with
    | none => trivial
    | some id => exact Json.isWhole_ofInt64 id
  · cases token.correlationUri <;> trivial

theorem height_toJson (token : RedirectToken) : token.toJson.height = 2 := by
  obtain ⟨actionId, contactId, correlationUri⟩ := token
  cases contactId <;> cases correlationUri <;> rfl

/-- A token is read from its letters. -/
theorem ofChars?_chars (token : RedirectToken) : ofChars? token.chars = some token := by
  have read := Json.ofLetters?_ofText token.isWhole_toJson (by rw [height_toJson]; decide)
  have split (text : List Char) :
      ofChars? text = (Json.ofLetters? text).bind (fun json => (decode json).toOption) :=
    (Option.bind_assoc _ _ _).symm
  rw [split, chars, read, Option.bind_some, reads_decode token]
  rfl

/-- A token is read from its letters as it is, so different tokens have different letters. All of
them stand for themselves in an address: they are letters and digits, hyphens and underscores. -/
theorem legible :
    (forall token : RedirectToken, ofChars? token.chars = some token) ∧
      Function.Injective chars ∧
      forall token : RedirectToken, ∀ c ∈ token.chars, c.isAlphanum = true ∨ c = '-' ∨ c = '_' := by
  refine ⟨ofChars?_chars, fun first second same => ?_, fun token c member => ?_⟩
  · have read := ofChars?_chars first
    rw [same, ofChars?_chars second] at read
    exact (Option.some.inj read).symm
  · have letter := Base64Url.letters_ofText _ c member
    simpa only [Base64Url.isLetter, Bool.or_eq_true, decide_eq_true_eq, or_assoc] using letter

end RedirectToken

namespace Ticket

theorem isWhole_toJson (ticket : Ticket) : ticket.toJson.IsWhole :=
  ⟨Json.isWhole_ofInt64 ticket.contactId, trivial, trivial, trivial, trivial⟩

theorem height_toJson (ticket : Ticket) : ticket.toJson.height = 2 := rfl

/-- The ticket that a text writes. -/
def ofChars? (text : List Char) : Option Ticket :=
  (Json.ofLetters? text).bind (fun json => (decode json).toOption)

/-- A ticket is read from its letters. -/
theorem ofChars?_chars (ticket : Ticket) : ofChars? ticket.chars = some ticket := by
  have read := Json.ofLetters?_ofText ticket.isWhole_toJson (by rw [height_toJson]; decide)
  rw [ofChars?, chars, read, Option.bind_some, reads_decode ticket]
  rfl

end Ticket

end Outreach
