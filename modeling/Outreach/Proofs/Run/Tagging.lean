import Mathlib.Data.List.TakeWhile
import Outreach.Proofs.Catalog.Filing
import Outreach.Proofs.Collections.IdSet
import Outreach.Proofs.Run.Verdict
import Outreach.Proofs.Text.Digits
import Outreach.Proofs.Time.Written
import Outreach.Proofs.Tree.Arrivals
import Outreach.Rehearsal.Samples
import Outreach.Steps.Registry

/-!
# Tags that are set and asked for

A step that changes tags gives tags to the stored contact of its run and takes tags from it, in this
order. What it leaves is said member by member in `Contact.Retagged`, and it is the same in the catalog
and in the run. So conditions that ask for the tags as they have been set are met, and setting them
again changes nothing (`Steps.retagged`).
-/

namespace Outreach

namespace Contact

/-- A contact that was given some tags, and then others were taken from it. Nothing else about it has
changed. -/
structure Retagged (contact stored : Contact) (included excluded : List TagId) : Prop where
  tags : forall tag, tag ∈ contact.tags.toList ↔
    (tag ∈ stored.tags.toList ∨ tag ∈ included) ∧ tag ∉ excluded
  others : contact = { stored with tags := contact.tags }

/-- The contact with some tags given to it, and then others taken from it. -/
def retagged (contact : Contact) (included excluded : List TagId) : Contact :=
  { contact with tags := (contact.tags.insertAll included).eraseAll excluded }

variable {contact stored : Contact} {included excluded : List TagId}

theorem retagged_spec (stored : Contact) (included excluded : List TagId) :
    (stored.retagged included excluded).Retagged stored included excluded where
  tags tag := by rw [retagged, IdSet.mem_eraseAll, IdSet.mem_insertAll]
  others := rfl

/-- Once tags have been set it does not matter whether they are set again. -/
theorem Retagged.again (retagged : contact.Retagged stored included excluded) :
    contact.retagged included excluded = contact := by
  have tags : (contact.tags.insertAll included).eraseAll excluded = contact.tags := by
    refine IdSet.ext_mem (fun tag => ?_)
    rw [IdSet.mem_eraseAll, IdSet.mem_insertAll, retagged.tags]
    by_cases taken : tag ∈ excluded <;> simp [taken]
  rw [Contact.retagged, tags]

end Contact

namespace Clause

/-- A clause asks for tags as they have been set: for a tag that was given and not taken, or against
one that was taken. -/
def Expects (included excluded : List TagId) (clause : Clause) : Prop :=
  (∃ tag ∈ included, tag ∉ excluded ∧ clause.Names .contactWithTag tag) ∨
    ∃ tag ∈ excluded, clause.Names .contactWithoutTag tag

variable {included excluded : List TagId} {clause : Clause}

/-- Such a clause holds for a contact whose tags have been set. -/
theorem Expects.holds (expects : clause.Expects included excluded) {catalog : Catalog}
    {context : Context} {contact stored : Contact}
    (retagged : contact.Retagged stored included excluded)
    (found : context.liveContactId.bind catalog.contact? = some contact) (now : Instant) :
    clause.Holds catalog context now := by
  rcases expects with ⟨tag, given, kept, -, code, read⟩ | ⟨tag, taken, -, code, read⟩
  · rw [holds_with_iff code read found, retagged.tags]
    exact ⟨.inr given, kept⟩
  · rw [holds_without_iff code read found, retagged.tags]
    exact fun held => held.2 taken

end Clause

/-- A text without white space is trimmed. -/
theorem Text.trim_of_unblank {text : List Char} (unblank : ∀ c ∈ text, isBlank c = false) :
    trim text = text := by
  have front : text.dropWhile isBlank = text :=
    List.dropWhile_eq_self_iff.mpr (fun some => by
      rw [unblank _ (List.getElem_mem some)]
      exact Bool.false_ne_true)
  have back : text.reverse.dropWhile isBlank = text.reverse :=
    List.dropWhile_eq_self_iff.mpr (fun some => by
      rw [unblank _ (List.mem_reverse.mp (List.getElem_mem some))]
      exact Bool.false_ne_true)
  rw [trim, trimStart, trimEnd, front, back, List.reverse_reverse]

/-- Every tag can be asked for: by its number. -/
theorem Steps.tagId?_wordText (tag : TagId) : tagId? (Digits.wordText tag) = some tag := by
  have unblank : ∀ c ∈ Digits.ofInt tag.toInt, Text.isBlank c = false := by
    intro c member
    rw [Digits.ofInt] at member
    split at member
    · rcases List.mem_cons.mp member with rfl | digit
      · decide
      · exact Time.isBlank_of_isDigit (Digits.isDigit_of_mem_ofNat _ c digit)
    · exact Time.isBlank_of_isDigit (Digits.isDigit_of_mem_ofNat _ c member)
  rw [tagId?, Digits.wordText, String.toList_ofList, Text.trim_of_unblank unblank,
    Digits.toInt64?_ofInt]

namespace Rehearsal

/-- A rehearsal with a contact stored under an id. -/
def filing (world : Rehearsal) (id : ContactId) (contact : Contact) : Rehearsal :=
  { world with
    catalog := { world.catalog with contacts := world.catalog.contacts.insert id contact } }

theorem contact?_filing (world : Rehearsal) (id : ContactId) (contact : Contact) :
    (world.filing id contact).catalog.contact? id = some contact :=
  Keyed.get?_insert_self _ id contact

theorem filing_of_found {world : Rehearsal} {id : ContactId} {contact : Contact}
    (found : world.catalog.contact? id = some contact) : world.filing id contact = world := by
  rw [filing, Keyed.insert_of_get? found]

end Rehearsal

namespace Steps

section Setting

variable (lifetime : Span) {context : Context} {world : Rehearsal} {id : ContactId}
  {included excluded : List TagId} {stored : Contact}

/-- The tags of a contact that is live and stored are set. -/
theorem setTags_stored (live : context.liveContactId = some id)
    (said : context.currentAction.configuration = .ok (.setTags included excluded))
    (found : world.catalog.contact? id = some stored)
    (working : world.faults.lookup .setTags = none) :
    setTags (Rehearsal.services lifetime) context world =
      .finish .success
        { context with
          contact := some (stored.retagged included excluded), contactState := .modified }
        (world.filing id (stored.retagged included excluded)) := by
  simp only [setTags, live, Context.configured, said, Rehearsal.services, Rehearsal.askCatalog,
    Faults.answer, working, Catalog.setTags, found, StepResult.ofReply]
  rfl

/-- Tags are set with success only if the contact is live and stored, and the options say which. -/
theorem setTags_succeeds {outcome : Outcome}
    (ends : (setTags (Rehearsal.services lifetime) context world).outcome = .ok outcome)
    (succeeded : outcome.isSuccess = true) :
    ∃ id included excluded stored, context.liveContactId = some id ∧
      context.currentAction.configuration = .ok (.setTags included excluded) ∧
      world.catalog.contact? id = some stored ∧ world.faults.lookup .setTags = none := by
  -- What is refused ends without an outcome or without success.
  have unrefused (cause : ServiceError) (after : Rehearsal)
      (refused : (StepResult.refused cause context after).outcome = .ok outcome) : False := by
    cases cause <;> cases refused <;> cases succeeded
  unfold setTags Context.configured at ends
  cases live : context.liveContactId with
  | none =>
    rw [live] at ends
    cases ends
    cases succeeded
  | some id =>
    simp only [live] at ends
    cases said : context.currentAction.configuration with
    | error cause =>
      rw [said] at ends
      cases ends
      cases succeeded
    | ok configuration =>
      rw [said] at ends
      cases configuration with
      | setTags included excluded =>
        simp only [Rehearsal.services, Rehearsal.askCatalog, Faults.answer] at ends
        cases working : world.faults.lookup .setTags with
        | some cause =>
          rw [working] at ends
          exact (unrefused cause _ ends).elim
        | none =>
          simp only [working, Catalog.setTags] at ends
          cases found : world.catalog.contact? id with
          | none =>
            simp only [found] at ends
            exact (unrefused _ _ ends).elim
          | some stored => exact ⟨id, included, excluded, stored, rfl, rfl, found, rfl⟩
      | _ =>
        cases ends
        cases succeeded

end Setting

/-- A later moment of a run, at which its contact is what it was, and so is what is stored under an
id. -/
structure Lasts (id : ContactId) (earlier later : Run Rehearsal) : Prop where
  contact : later.context.contact = earlier.context.contact
  contactState : later.context.contactState = earlier.context.contactState
  stored : later.world.catalog.contact? id = earlier.world.catalog.contact? id
  working : later.cancelled = false

section Later

variable (lifetime : Span) {later : Run Rehearsal} {id : ContactId} {contact stored : Contact}
  {included excluded : List TagId} (retagged : contact.Retagged stored included excluded)
  (live : later.context.liveContactId = some id)
  (found : later.world.catalog.contact? id = some contact) (working : later.cancelled = false)

include retagged live found working

/-- Conditions that ask for tags as they have been set are met. -/
theorem condition_expected {clauses : List Clause}
    (said : later.context.currentAction.configuration = .ok (.condition clauses))
    (expected : ∀ clause ∈ clauses, clause.Expects included excluded)
    (answering : later.world.faults.lookup .hasTags = none) :
    ((forKind (Rehearsal.services lifetime) .condition).guarded later).1 = .ok .success := by
  have contact? : later.context.liveContactId.bind later.world.catalog.contact? = some contact := by
    rw [live]
    exact found
  have stored (other : ContactId) (isOther : later.context.liveContactId = some other) :
      (later.world.catalog.contact? other).isSome = true := by
    obtain rfl := Option.some.inj (live.symm.trans isOther)
    exact Option.isSome_of_eq_some found
  obtain ⟨verdict, evaluated, sums⟩ := evaluate_sums lifetime answering stored clauses
  have passed : verdict.passed = true := sums.passed.mpr (fun clause member =>
    (expected clause member).holds retagged contact? later.world.now)
  change (Step.guarded (condition (Rehearsal.services lifetime)) later).1 = _
  rw [Step.guarded_of_working _ working, condition, Context.configured, said]
  simp only [evaluated, StepResult.ofReply, passed, if_true]
  rfl

/-- Tags that are set once more stay as they are, and so does everything else. -/
theorem setTags_again (modified : later.context.contactState = .modified)
    (held : later.context.contact = some contact)
    (said : later.context.currentAction.configuration = .ok (.setTags included excluded))
    (answering : later.world.faults.lookup .setTags = none) :
    (forKind (Rehearsal.services lifetime) .setTags).guarded later = (.ok .success, later) := by
  have same : { later.context with contact := some contact, contactState := .modified } =
      later.context := by
    rw [← held, ← modified]
  change Step.guarded (setTags (Rehearsal.services lifetime)) _ = _
  rw [Step.guarded_of_working _ working, setTags_stored lifetime live said found answering,
    retagged.again, Rehearsal.filing_of_found found, same]
  simp only [StepResult.finish, ← working]

end Later

/-- Whenever tags have been set with success, the contact has the tags that it had stored and those
that were given to it, without those that were taken from it, and the catalog and the run have the
same. That is all that changes. As long as nobody else changes the contact, conditions that ask for the
tags as they have been set are met, and setting the same tags again leaves everything as it is. The run
goes on with the stored contact, so this takes a catalog that has every contact under its own id, as it
is after any commands (`Catalog.filed_obeyed`). -/
theorem retagged (lifetime : Span) {run after : Run Rehearsal} {outcome : Outcome}
    (filed : run.world.catalog.Filed)
    (ends : (forKind (Rehearsal.services lifetime) .setTags).guarded run = (.ok outcome, after))
    (succeeded : outcome.isSuccess = true) :
    ∃ id included excluded stored contact, run.context.liveContactId = some id ∧
      run.context.currentAction.configuration = .ok (.setTags included excluded) ∧
      run.world.catalog.contact? id = some stored ∧
      Contact.Retagged contact stored included excluded ∧
      after.context = { run.context with contact := some contact, contactState := .modified } ∧
      after.world = run.world.filing id contact ∧
      after.world.catalog.contact? id = some contact ∧
      forall later, Lasts id after later ->
        (forall clauses, later.context.currentAction.configuration = .ok (.condition clauses) ->
          (∀ clause ∈ clauses, clause.Expects included excluded) ->
          later.world.faults.lookup .hasTags = none ->
            ((forKind (Rehearsal.services lifetime) .condition).guarded later).1 = .ok .success) ∧
        (later.context.currentAction.configuration = .ok (.setTags included excluded) ->
          later.world.faults.lookup .setTags = none ->
            (forKind (Rehearsal.services lifetime) .setTags).guarded later =
              (.ok .success, later)) := by
  have working : run.cancelled = false := by
    refine Bool.eq_false_iff.mpr (fun cancelled => ?_)
    rw [Step.guarded_of_cancelled _ cancelled] at ends
    cases ends
  rw [Step.guarded_of_working _ working] at ends
  obtain ⟨answer, rfl⟩ := Prod.mk.inj ends
  obtain ⟨id, included, excluded, stored, live, said, found, answering⟩ :=
    setTags_succeeds lifetime answer succeeded
  have set : forKind (Rehearsal.services lifetime) .setTags run.context run.world = _ :=
    setTags_stored lifetime live said found answering
  have own := filed.id_eq found
  change (stored.retagged included excluded).id = some id at own
  have spec := stored.retagged_spec included excluded
  generalize stored.retagged included excluded = contact at set own spec
  rw [set]
  refine ⟨id, included, excluded, stored, contact, live, said, found, spec, rfl, rfl,
    run.world.contact?_filing id contact, fun later lasts => ?_⟩
  obtain ⟨held, state, same, goesOn⟩ := lasts
  have alive : later.context.liveContactId = some id := by
    rw [Context.liveContactId, Context.contactDeleted, Context.contactId, held, state]
    exact own
  have there : later.world.catalog.contact? id = some contact :=
    same.trans (run.world.contact?_filing id contact)
  exact ⟨fun _ => condition_expected lifetime spec alive there goesOn,
    setTags_again lifetime spec alive there goesOn state held⟩

end Steps

namespace Regular

open Steps

/-- A lead with two tags. -/
def lead : Contact := { Sample.contact with tags := .ofList [1, 2] }

/-- The lead gets two further tags, one of them twice, and one that it has, and the last is taken. -/
def options : Json :=
  .object [("include", .array [.integer 3, .integer 4, .integer 3, .integer 1]),
    ("exclude", .array [.integer 1])]

/-- A run whose copy of the lead has no tags. -/
def run : Run Rehearsal :=
  { context := { Context.start Sample.project 30 with
      contact := some { Sample.contact with id := some 1 }
      currentAction := { CurrentAction.anchor 30 with kind := .setTags, options } }
    world := .start .epoch (Catalog.obeyed [.add lead])
    cancelled := false }

/-- The run once the tags have been set. -/
def taggedRun : Run Rehearsal := ((forKind (Rehearsal.services .zero) .setTags).guarded run).2

/-- The tags that are asked for: by text, and by number. -/
def clauses : List Clause :=
  [⟨.contactWithTag, " 3 "⟩, ⟨.contactWithoutTag, Digits.wordText 1⟩, ⟨.contactWithTag, "+4"⟩]

/-- The action of a condition on the tags. -/
def question : CurrentAction :=
  { CurrentAction.anchor 31 with
    kind := .condition
    options := .object [("conditions", .array
      [.object [("type", .string "ContactWithTag"), ("value", .string " 3 ")],
        .object [("type", .string "ContactWithoutTag"), ("value", .integer 1)],
        .object [("type", .string "ContactWithTag"), ("value", .string "+4")]])] }

/-- The run at another action. -/
def later (action : CurrentAction) : Run Rehearsal :=
  { taggedRun with context := { taggedRun.context with currentAction := action } }

theorem expected : ∀ clause ∈ clauses, clause.Expects [3, 4, 3, 1] [1] := by
  have third : tagId? " 3 " = some 3 := by decide
  have fourth : tagId? "+4" = some 4 := by decide
  simp [clauses, Clause.Expects, Clause.Names, Clause.isOnTag, tagId?_wordText, third, fourth]

/-- The lead has lost one tag and has got two, and it keeps the one that it had besides. A condition
on that is met, and the tags can be set again. -/
theorem retagged_lead :
    run.world.catalog.Filed ∧
      (forKind (Rehearsal.services .zero) .setTags).guarded run = (.ok .success, taggedRun) ∧
      (∃ contact, taggedRun.context.contact = some contact ∧
        taggedRun.world.catalog.contact? 1 = some contact ∧
        forall tag, tag ∈ contact.tags.toList ↔
          (tag ∈ [1, 2] ∨ tag ∈ [3, 4, 3, 1]) ∧ tag ∉ ([1] : List TagId)) ∧
      ((forKind (Rehearsal.services .zero) .condition).guarded (later question)).1 =
        .ok .success ∧
      (forKind (Rehearsal.services .zero) .setTags).guarded (later run.context.currentAction) =
        (.ok .success, later run.context.currentAction) := by
  have filed : run.world.catalog.Filed := Catalog.filed_obeyed [.add lead]
  have ends : (forKind (Rehearsal.services .zero) .setTags).guarded run =
      (.ok .success, taggedRun) := rfl
  obtain ⟨id, included, excluded, stored, contact, live, said, found, spec, context, world, there,
    lasting⟩ := retagged .zero filed ends rfl
  cases (show run.context.liveContactId = some 1 from rfl).symm.trans live
  cases (show run.context.currentAction.configuration = .ok (.setTags [3, 4, 3, 1] [1]) from
    rfl).symm.trans said
  cases (show run.world.catalog.contact? 1 = some { lead with id := some 1 } from
    rfl).symm.trans found
  have lasts (action : CurrentAction) : Lasts 1 taggedRun (later action) := ⟨rfl, rfl, rfl, rfl⟩
  refine ⟨filed, ends, ⟨contact, by rw [context], there, spec.tags⟩, ?_, ?_⟩
  · exact (lasting _ (lasts question)).1 clauses rfl expected rfl
  · exact (lasting _ (lasts run.context.currentAction)).2 rfl rfl

end Regular

end Outreach
