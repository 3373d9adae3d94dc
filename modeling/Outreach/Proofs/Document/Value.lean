import Mathlib.Data.List.Forall2
import Outreach.Contact
import Outreach.Decode.Record
import Outreach.Proofs.Collections.Keyed
import Outreach.Proofs.Text.Uuid
import Outreach.Proofs.Time.Written

/-!
# Written values are decoded

A decoder *reads* an encoder when it decodes whatever the encoder writes to the value that was
written. The decoders of plain values read their encoders, and those of options, lists, sets and
maps do so when the decoder of what they hold does.
-/

namespace Outreach

/-- Whatever an encoder writes of a value, the decoder decodes to that value. -/
def Decoder.Reads {α : Type} (decode : Decoder α) (encode : α -> Json) : Prop :=
  forall value, decode (encode value) = .ok value

namespace Decode

theorem reads_int64 : int64.Reads .ofInt64 := by
  intro word
  have bounds : Int64.minValue.toInt <= word.toInt && word.toInt <= Int64.maxValue.toInt := by
    simp only [Bool.and_eq_true, decide_eq_true_eq]
    exact ⟨word.minValue_le_toInt, word.toInt_le⟩
  simp only [int64, Json.ofInt64, integerWithin, if_pos bounds, Except.map, Int64.ofInt_toInt]

theorem reads_string : string.Reads .string := fun _ => rfl

theorem reads_bool : bool.Reads .bool := fun _ => rfl

theorem reads_any : any.Reads id := fun _ => rfl

theorem reads_uuid : uuid.Reads (fun id => .string id.text) := by
  intro id
  simp only [uuid, Uuid.read_text]

theorem reads_instant : instant.Reads (fun instant => .string instant.text) := by
  intro value
  simp only [instant, Instant.text, String.toList_ofList, Time.relaxed_chars]

section Composed

variable {α : Type} {decode : Decoder α} {encode : α -> Json}

/-- An option is read, unless `null` is written of a value. -/
theorem reads_optional (reads : decode.Reads encode) (proper : forall value, encode value ≠ .null) :
    (optional decode).Reads (.ofOption encode) := by
  intro value
  cases value with
  | none => rfl
  | some value =>
    rw [Json.ofOption, optional.eq_2 _ _ (proper value), reads value]
    rfl

/-- Items are decoded if each of them is. -/
theorem items_eq {values : List α} {documents : List Json}
    (each : List.Forall₂ (fun value document => decode document = .ok value) values documents) :
    items decode documents = .ok values := by
  induction each with
  | nil => rfl
  | cons first _ ih => rw [items, first, ih]; rfl

theorem items_map (reads : decode.Reads encode) (values : List α) :
    items decode (values.map encode) = .ok values :=
  items_eq (List.forall₂_map_right_iff.mpr (List.forall₂_same.mpr (fun value _ => reads value)))

theorem reads_list (reads : decode.Reads encode) : (list decode).Reads (.ofList encode) :=
  items_map reads

end Composed

theorem reads_idSet : idSet.Reads (fun set => .ofList .ofInt64 set.toList) := by
  intro set
  simp only [idSet, reads_list reads_int64 set.toList, Except.map, IdSet.ofList_toList]

/-- The members of an object are decoded as they are. -/
theorem members_any (entries : List (String × Json)) : members any entries = .ok entries := by
  induction entries with
  | nil => rfl
  | cons entry rest ih => rw [members, ih]; rfl

theorem reads_map : (map any).Reads (fun map => .object map.entries) := by
  intro entries
  simp only [map, members_any, Except.map, Keyed.ofList_entries]

end Decode

/-- A state is read from its name. -/
theorem ContactState.reads_decode :
    ContactState.decode.Reads (fun state => .string state.name) := by
  rintro (_ | _ | _ | _) <;> rfl

namespace Record

/-- Of members with distinct names none is repeated. -/
theorem repeated?_eq_none {layout : Layout} {members : List (String × Json)}
    (distinct : (members.map Prod.fst).Nodup) : repeated? layout members = none := by
  induction members with
  | nil => rfl
  | cons member rest ih =>
    obtain ⟨name, value⟩ := member
    rw [List.map_cons, List.nodup_cons] at distinct
    have absent : rest.lookup name = none := by
      rw [List.lookup_eq_none_iff]
      intro other isMember
      rw [bne_iff_ne]
      rintro rfl
      exact distinct.1 (List.mem_map.mpr ⟨other, isMember, rfl⟩)
    rw [repeated?, absent, Option.isSome_none, Bool.and_false, if_neg (by decide), ih distinct.2]

/-- There is nothing to report about members with distinct names that can all be decoded. -/
theorem visit_eq_ok {layout : Layout} {members : List (String × Json)}
    {problems : List (String × Option DecodeError)} (sound : ∀ problem ∈ problems, problem.2 = none)
    (distinct : (members.map Prod.fst).Nodup) :
    (Record.mk layout (.byName members)).visit problems = .ok () := by
  have absent (name : String) : (problems.lookup name).join = none := by
    cases found : problems.lookup name with
    | none => rfl
    | some problem =>
      obtain ⟨before, after, rfl, -⟩ := List.lookup_eq_some_iff.mp found
      exact sound (name, problem) (List.mem_append_right _ List.mem_cons_self)
  have first : members.findSome? (fun member => (problems.lookup member.1).join) = none :=
    List.findSome?_eq_none_iff.mpr (fun member _ => absent member.1)
  simp only [visit, first, repeated?_eq_none distinct]

end Record

end Outreach
