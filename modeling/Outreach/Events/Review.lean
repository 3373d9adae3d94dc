import Outreach.Decode.Record

/-!
# Reviews

An event that is to be recorded is reviewed first. The review accepts it or says what is wrong.
-/

namespace Outreach

/-- What came of a review. -/
structure Review where
  /-- What is wrong. -/
  complaints : List String
deriving DecidableEq, Inhabited

namespace Review

/-- Nothing is wrong. -/
def clean : Review := ⟨[]⟩

/-- Whether nothing is wrong. -/
def accepts (review : Review) : Bool := review.complaints.isEmpty

/-- The document of a review. -/
def toJson (review : Review) : Json :=
  .object [("errors", .ofList .string review.complaints)]

/-- The fields of a review's document. -/
def layout : Layout := ⟨"ValidationResult", ["errors"]⟩

/-- The review that a document writes. -/
def decode : Decoder Review := fun json => do
  let record <- Record.open? layout json
  let complaints := record.slot "errors" (Decode.list Decode.string)
  record.visit [complaints.problem]
  let review : Review := ⟨<- complaints.required⟩
  record.close
  return review

end Review

end Outreach
