import Outreach.Proofs.Collections.Keyed
import Outreach.Rehearsal.Basic
import Outreach.Steps.Condition

/-!
# Verdicts on conditions

A list of conditions is evaluated in two phases, and the second asks once for all tags together.
What comes out is nevertheless what every clause says by itself: `Clause.Holds` reads one clause
without regard to the others, and the verdict is that all of them hold (`evaluated`). So neither
order nor repetition matters. The first phase is `survey_passing` and `survey_stopped`, the second
`hasTags_iff`.
-/

namespace Outreach

open Steps

/-- A contact is live exactly if it has an id under which it is live. -/
theorem Context.hasLiveContact_eq (context : Context) :
    context.hasLiveContact = context.liveContactId.isSome := by
  unfold hasLiveContact contactExists liveContactId
  cases context.contactDeleted <;> simp

namespace Clause

/-- Whether a clause is about a tag of the contact. -/
def isOnTag (clause : Clause) : Bool :=
  clause.code = .contactWithTag || clause.code = .contactWithoutTag

/-- The operand of a clause can be read. -/
def Readable (clause : Clause) : Prop :=
  match clause.code with
  | .dateGreaterThanOrEqualTo | .dateLessThanOrEqualTo =>
    ∃ date, Time.ofOperand? clause.operand = some date
  | .authenticated | .contactExists => ∃ value, truthValue? clause.operand = some value
  | .contactWithTag | .contactWithoutTag => ∃ id, tagId? clause.operand = some id

/-- A clause holds by itself: its operand can be read, and what it says is true. Tags are those of
the contact of the run as it is stored, which must be live. -/
def Holds (catalog : Catalog) (context : Context) (now : Instant) (clause : Clause) : Prop :=
  match clause.code with
  | .dateGreaterThanOrEqualTo => ∃ date, Time.ofOperand? clause.operand = some date ∧ date <= now
  | .dateLessThanOrEqualTo => ∃ date, Time.ofOperand? clause.operand = some date ∧ now <= date
  | .authenticated => truthValue? clause.operand = some (context.isAuthenticatedAt now)
  | .contactExists => truthValue? clause.operand = some context.hasLiveContact
  | .contactWithTag =>
    ∃ id contact, tagId? clause.operand = some id ∧
      context.liveContactId.bind catalog.contact? = some contact ∧ id ∈ contact.tags.toList
  | .contactWithoutTag =>
    ∃ id contact, tagId? clause.operand = some id ∧
      context.liveContactId.bind catalog.contact? = some contact ∧ id ∉ contact.tags.toList

/-- A clause passes the first phase: its operand can be read, and it holds unless it is about a
tag. -/
def Passes (catalog : Catalog) (context : Context) (now : Instant) (clause : Clause) : Prop :=
  clause.Readable ∧ (clause.isOnTag = false -> clause.Holds catalog context now)

variable {catalog : Catalog} {context : Context} {now : Instant} {clause : Clause}

theorem Holds.readable (holds : clause.Holds catalog context now) : clause.Readable := by
  obtain ⟨code, operand⟩ := clause
  cases code with
  | dateGreaterThanOrEqualTo => exact ⟨_, holds.choose_spec.1⟩
  | dateLessThanOrEqualTo => exact ⟨_, holds.choose_spec.1⟩
  | authenticated => exact ⟨_, holds⟩
  | contactExists => exact ⟨_, holds⟩
  | contactWithTag =>
    obtain ⟨id, contact, read, -⟩ := holds
    exact ⟨id, read⟩
  | contactWithoutTag =>
    obtain ⟨id, contact, read, -⟩ := holds
    exact ⟨id, read⟩

/-- A clause on a tag is one of two codes. -/
theorem code_of_isOnTag (onTag : clause.isOnTag = true) :
    clause.code = .contactWithTag ∨ clause.code = .contactWithoutTag := by
  simpa [isOnTag] using onTag

theorem Holds.passes (holds : clause.Holds catalog context now) :
    clause.Passes catalog context now :=
  ⟨holds.readable, fun _ => holds⟩

/-- The clause is one of a code on tags, and its operand names a tag. -/
def Names (code : ConditionCode) (id : TagId) (clause : Clause) : Prop :=
  clause.isOnTag = true ∧ clause.code = code ∧ tagId? clause.operand = some id

/-- A clause on a tag whose operand can be read names a tag. -/
theorem Readable.names (readable : clause.Readable) (onTag : clause.isOnTag = true) :
    ∃ id, clause.Names clause.code id := by
  obtain ⟨code, operand⟩ := clause
  rcases code_of_isOnTag onTag with rfl | rfl
  · obtain ⟨id, read⟩ := readable
    exact ⟨id, onTag, rfl, read⟩
  · obtain ⟨id, read⟩ := readable
    exact ⟨id, onTag, rfl, read⟩

section Stored

variable {id : TagId} {contact : Contact}

theorem holds_with_iff (code : clause.code = .contactWithTag)
    (read : tagId? clause.operand = some id)
    (stored : context.liveContactId.bind catalog.contact? = some contact) :
    clause.Holds catalog context now ↔ id ∈ contact.tags.toList := by
  simp [Holds, code, read, stored]

theorem holds_without_iff (code : clause.code = .contactWithoutTag)
    (read : tagId? clause.operand = some id)
    (stored : context.liveContactId.bind catalog.contact? = some contact) :
    clause.Holds catalog context now ↔ id ∉ contact.tags.toList := by
  simp [Holds, code, read, stored]

/-- No clause on a tag holds without a live contact. -/
theorem not_holds_of_no_contact (onTag : clause.isOnTag = true)
    (none : context.liveContactId = .none) : ¬ clause.Holds catalog context now := by
  rcases code_of_isOnTag onTag with code | code <;> simp [Holds, code, none]

end Stored

end Clause

namespace Steps

variable {catalog : Catalog} {context : Context} {now : Instant}

section FirstPhase

/-- A demand with the tag that a clause is about. -/
def TagDemand.adding (demand : TagDemand) (clause : Clause) : TagDemand :=
  match clause.code, tagId? clause.operand with
  | .contactWithTag, some id => { demand with included := demand.included.insert id }
  | .contactWithoutTag, some id => { demand with excluded := demand.excluded.insert id }
  | _, _ => demand

/-- A clause that passes adds its tag to the demand. -/
theorem judge?_passing {clause : Clause} (passes : clause.Passes catalog context now)
    (demand : TagDemand) :
    judge? context now demand clause = some (true, demand.adding clause) := by
  obtain ⟨readable, holds⟩ := passes
  obtain ⟨code, operand⟩ := clause
  cases code with
  | dateGreaterThanOrEqualTo =>
    obtain ⟨date, read, past⟩ := holds rfl
    simp [judge?, TagDemand.adding, show Time.ofOperand? operand = some date from read, past]
  | dateLessThanOrEqualTo =>
    obtain ⟨date, read, ahead⟩ := holds rfl
    simp [judge?, TagDemand.adding, show Time.ofOperand? operand = some date from read, ahead]
  | authenticated =>
    have read : truthValue? operand = _ := holds rfl
    simp [judge?, TagDemand.adding, read]
  | contactExists =>
    have read : truthValue? operand = _ := holds rfl
    simp [judge?, TagDemand.adding, read]
  | contactWithTag =>
    obtain ⟨id, read⟩ := readable
    simp [judge?, TagDemand.adding, show tagId? operand = some id from read]
  | contactWithoutTag =>
    obtain ⟨id, read⟩ := readable
    simp [judge?, TagDemand.adding, show tagId? operand = some id from read]

/-- Only clauses that pass are judged true. -/
theorem passes_of_judge? {clause : Clause} {demand next : TagDemand}
    (judged : judge? context now demand clause = some (true, next)) :
    clause.Passes catalog context now := by
  obtain ⟨code, operand⟩ := clause
  cases code with
  | dateGreaterThanOrEqualTo =>
    obtain ⟨date, read, answer⟩ := Option.map_eq_some_iff.mp judged
    have past : date <= now := by simpa using congrArg Prod.fst answer
    exact Clause.Holds.passes ⟨date, read, past⟩
  | dateLessThanOrEqualTo =>
    obtain ⟨date, read, answer⟩ := Option.map_eq_some_iff.mp judged
    have ahead : now <= date := by simpa using congrArg Prod.fst answer
    exact Clause.Holds.passes ⟨date, read, ahead⟩
  | authenticated =>
    obtain ⟨value, read, answer⟩ := Option.map_eq_some_iff.mp judged
    have same : context.isAuthenticatedAt now = value := by simpa using congrArg Prod.fst answer
    rw [← same] at read
    exact Clause.Holds.passes read
  | contactExists =>
    obtain ⟨value, read, answer⟩ := Option.map_eq_some_iff.mp judged
    have same : context.hasLiveContact = value := by simpa using congrArg Prod.fst answer
    rw [← same] at read
    exact Clause.Holds.passes read
  | contactWithTag =>
    obtain ⟨id, read, -⟩ := Option.map_eq_some_iff.mp judged
    exact ⟨⟨id, read⟩, nofun⟩
  | contactWithoutTag =>
    obtain ⟨id, read, -⟩ := Option.map_eq_some_iff.mp judged
    exact ⟨⟨id, read⟩, nofun⟩

/-- Clauses that pass are all looked at, and their tags are asked for. -/
theorem survey_passing {clauses : List Clause}
    (passes : ∀ clause ∈ clauses, clause.Passes catalog context now) (evaluated : Nat)
    (demand : TagDemand) :
    survey context now evaluated demand clauses =
      (evaluated + clauses.length, some (clauses.foldl TagDemand.adding demand)) := by
  induction clauses generalizing evaluated demand with
  | nil => rfl
  | cons clause rest ih =>
    obtain ⟨here, later⟩ := List.forall_mem_cons.mp passes
    simp only [survey, judge?_passing here, List.foldl_cons, List.length_cons]
    rw [ih later, Nat.add_assoc, Nat.add_comm 1]

/-- The first clause that does not pass is the last one that is looked at. -/
theorem survey_stopped {before : List Clause} {clause : Clause}
    (passes : ∀ earlier ∈ before, earlier.Passes catalog context now)
    (stops : ¬ clause.Passes catalog context now) (after : List Clause) (evaluated : Nat)
    (demand : TagDemand) :
    survey context now evaluated demand (before ++ clause :: after) =
      (evaluated + before.length + 1, none) := by
  induction before generalizing evaluated demand with
  | nil =>
    rw [List.nil_append, survey]
    split
    · rename_i judged
      exact absurd (passes_of_judge? judged) stops
    · rfl
  | cons first rest ih =>
    obtain ⟨here, later⟩ := List.forall_mem_cons.mp passes
    simp only [List.cons_append, survey, judge?_passing here, List.length_cons]
    rw [ih later, Nat.add_assoc evaluated 1, Nat.add_comm 1]

/-- Either all clauses of a list pass, or there is a first one that does not. -/
theorem passing_or_stopped (catalog : Catalog) (context : Context) (now : Instant)
    (clauses : List Clause) :
    (∀ clause ∈ clauses, clause.Passes catalog context now) ∨
      ∃ before clause after, clauses = before ++ clause :: after ∧
        (∀ earlier ∈ before, earlier.Passes catalog context now) ∧
        ¬ clause.Passes catalog context now := by
  induction clauses with
  | nil => exact .inl (fun clause none => absurd none List.not_mem_nil)
  | cons first rest ih =>
    by_cases here : first.Passes catalog context now
    · rcases ih with all | ⟨before, clause, after, rfl, passes, stops⟩
      · exact .inl (List.forall_mem_cons.mpr ⟨here, all⟩)
      · exact .inr ⟨first :: before, clause, after, rfl,
          List.forall_mem_cons.mpr ⟨here, passes⟩, stops⟩
    · exact .inr ⟨[], first, rest, rfl, fun earlier none => absurd none List.not_mem_nil, here⟩

end FirstPhase

section Demand

/-- The tags that are asked for by clauses of a code. -/
def TagDemand.tags (demand : TagDemand) : ConditionCode -> IdSet
  | .contactWithTag => demand.included
  | .contactWithoutTag => demand.excluded
  | _ => ∅

theorem mem_tags_adding {demand : TagDemand} {clause : Clause} {code : ConditionCode} {id : TagId} :
    id ∈ ((demand.adding clause).tags code).toList ↔
      clause.Names code id ∨ id ∈ (demand.tags code).toList := by
  obtain ⟨kind, operand⟩ := clause
  cases kind <;> cases code <;> cases read : tagId? operand <;>
    simp [TagDemand.adding, TagDemand.tags, Clause.Names, Clause.isOnTag, read, IdSet.mem_insert,
      eq_comm]

/-- The tags that are asked for are those that some clause names. -/
theorem mem_tags (clauses : List Clause) (demand : TagDemand) (code : ConditionCode) (id : TagId) :
    id ∈ ((clauses.foldl TagDemand.adding demand).tags code).toList ↔
      (∃ clause ∈ clauses, clause.Names code id) ∨ id ∈ (demand.tags code).toList := by
  induction clauses generalizing demand with
  | nil => simp
  | cons clause rest ih =>
    rw [List.foldl_cons, ih, mem_tags_adding]
    simp only [List.mem_cons, exists_eq_or_imp]
    exact or_left_comm.trans or_assoc.symm

end Demand

section SecondPhase

variable {clauses : List Clause}

/-- No tag is asked for exactly if no clause is about one. -/
theorem isEmpty_iff (passes : ∀ clause ∈ clauses, clause.Passes catalog context now) :
    (clauses.foldl TagDemand.adding .none).isEmpty = true ↔
      ∀ clause ∈ clauses, clause.isOnTag = false := by
  have demanded := mem_tags clauses .none
  rw [TagDemand.isEmpty, Bool.and_eq_true, IdSet.isEmpty_iff, IdSet.isEmpty_iff]
  constructor
  · rintro ⟨noneIncluded, noneExcluded⟩ clause member
    refine Bool.eq_false_iff.mpr (fun onTag => ?_)
    obtain ⟨id, names⟩ := (passes clause member).1.names onTag
    have asked := (demanded clause.code id).mpr (.inl ⟨clause, member, names⟩)
    rcases Clause.code_of_isOnTag onTag with code | code
    · rw [code] at asked
      exact absurd (noneIncluded ▸ asked) List.not_mem_nil
    · rw [code] at asked
      exact absurd (noneExcluded ▸ asked) List.not_mem_nil
  · intro none
    have unasked : forall code id,
        id ∉ ((clauses.foldl TagDemand.adding .none).tags code).toList := by
      intro code id asked
      rcases (demanded code id).mp asked with ⟨clause, member, names⟩ | before
      · exact absurd names.1 (by simp [none clause member])
      · cases code <;> exact absurd before List.not_mem_nil
    exact ⟨List.eq_nil_iff_forall_not_mem.mpr (unasked .contactWithTag),
      List.eq_nil_iff_forall_not_mem.mpr (unasked .contactWithoutTag)⟩

/-- If the contact of the run is stored, the answer about all tags together is the answer about
every clause. -/
theorem hasTags_iff (passes : ∀ clause ∈ clauses, clause.Passes catalog context now)
    {contact : Contact} (stored : context.liveContactId.bind catalog.contact? = some contact) :
    let demand := clauses.foldl TagDemand.adding .none
    (demand.included.isSubset contact.tags && demand.excluded.isDisjoint contact.tags) = true ↔
      ∀ clause ∈ clauses, clause.Holds catalog context now := by
  intro demand
  have demanded := mem_tags clauses .none
  rw [Bool.and_eq_true, IdSet.isSubset_iff, IdSet.isDisjoint_iff]
  constructor
  · rintro ⟨within, apart⟩ clause member
    by_cases onTag : clause.isOnTag = true
    · obtain ⟨id, names⟩ := (passes clause member).1.names onTag
      have asked := (demanded clause.code id).mpr (.inl ⟨clause, member, names⟩)
      rcases Clause.code_of_isOnTag onTag with code | code
      · rw [code] at asked
        exact (Clause.holds_with_iff code names.2.2 stored).mpr (within id asked)
      · rw [code] at asked
        exact (Clause.holds_without_iff code names.2.2 stored).mpr (apart id asked)
    · exact (passes clause member).2 (by simpa using onTag)
  · intro all
    constructor
    · intro id asked
      rcases (demanded .contactWithTag id).mp asked with ⟨clause, member, -, code, read⟩ | before
      · exact (Clause.holds_with_iff code read stored).mp (all clause member)
      · exact absurd before List.not_mem_nil
    · intro id asked
      rcases (demanded .contactWithoutTag id).mp asked with ⟨clause, member, -, code, read⟩ | before
      · exact (Clause.holds_without_iff code read stored).mp (all clause member)
      · exact absurd before List.not_mem_nil

end SecondPhase

section Evaluation

/-- What a list of clauses comes to: every clause by itself, where the evaluation ends, and whether
the catalog is asked. -/
structure Verdict.Sums (catalog : Catalog) (context : Context) (now : Instant)
    (clauses : List Clause) (verdict : Verdict) : Prop where
  /-- The verdict is that every clause holds by itself. -/
  passed : verdict.passed = true ↔ ∀ clause ∈ clauses, clause.Holds catalog context now
  /-- The first clause that does not pass is the last one that is looked at. -/
  stopped : forall before clause after, clauses = before ++ clause :: after ->
    (∀ earlier ∈ before, earlier.Passes catalog context now) ->
    ¬ clause.Passes catalog context now -> verdict.evaluated = before.length + 1
  /-- If all clauses pass, all are looked at. -/
  finished : (∀ clause ∈ clauses, clause.Passes catalog context now) ->
    verdict.evaluated = clauses.length
  /-- The catalog is asked if all clauses pass, one is about a tag, and the contact is live. -/
  asked : verdict.tagQueryIssued = true ↔
    (∀ clause ∈ clauses, clause.Passes catalog context now) ∧
      (∃ clause ∈ clauses, clause.isOnTag = true) ∧ context.hasLiveContact = true

variable {world : Rehearsal} {clauses : List Clause}

/-- The catalog after it has been asked for tags, or not. -/
def askedIf (world : Rehearsal) (asked : Bool) : Rehearsal :=
  { world with
    catalog :=
      { world.catalog with tagQueries := world.catalog.tagQueries + if asked then 1 else 0 } }

/-- If a clause does not pass, the evaluation ends there, and the catalog is not asked. -/
theorem sums_stopped {before after : List Clause} {clause : Clause}
    (passes : ∀ earlier ∈ before, earlier.Passes catalog context now)
    (stops : ¬ clause.Passes catalog context now) :
    Verdict.Sums catalog context now (before ++ clause :: after)
      ⟨false, before.length + 1, false⟩ := by
  have member : clause ∈ before ++ clause :: after :=
    List.mem_append_right _ List.mem_cons_self
  refine ⟨⟨nofun, fun all => absurd (all clause member).passes stops⟩, ?_,
    fun all => absurd (all clause member) stops, ⟨nofun, fun asks =>
      absurd (asks.1 clause member) stops⟩⟩
  intro front other back split passing ending
  -- Both ends are where the survey of one list ends.
  have here := survey_stopped passes stops after 0 .none
  have there := survey_stopped passing ending back 0 .none
  rw [split, there] at here
  have same := congrArg Prod.fst here
  simp only [Nat.zero_add] at same
  exact same.symm

/-- If all clauses pass, what remains to be seen is whether they hold and whether that is asked. -/
theorem sums_passing (passes : ∀ clause ∈ clauses, clause.Passes catalog context now)
    {passed asked : Bool}
    (holds : passed = true ↔ ∀ clause ∈ clauses, clause.Holds catalog context now)
    (asks : asked = true ↔
      (∃ clause ∈ clauses, clause.isOnTag = true) ∧ context.hasLiveContact = true) :
    Verdict.Sums catalog context now clauses ⟨passed, clauses.length, asked⟩ where
  passed := holds
  stopped := by
    rintro before clause after rfl - stops
    exact absurd (passes clause (List.mem_append_right _ List.mem_cons_self)) stops
  finished := fun _ => rfl
  asked := asks.trans ⟨fun asks => ⟨passes, asks⟩, And.right⟩

/-- An evaluation gives a verdict, and it does nothing but ask the catalog, once at most. -/
theorem evaluate_sums (lifetime : Span) (working : world.faults.lookup .hasTags = none)
    (stored : forall id, context.liveContactId = some id ->
      (world.catalog.contact? id).isSome = true) (clauses : List Clause) :
    ∃ verdict, evaluate (Rehearsal.services lifetime) context clauses world =
        (.ok verdict, askedIf world verdict.tagQueryIssued) ∧
      verdict.Sums world.catalog context world.now clauses := by
  rcases passing_or_stopped world.catalog context world.now clauses with
    passes | ⟨before, clause, after, rfl, passes, stops⟩
  · have surveyed := survey_passing passes 0 .none
    rw [Nat.zero_add] at surveyed
    rw [evaluate, show (Rehearsal.services lifetime).now world = world.now from rfl, surveyed]
    by_cases offTags : ∀ clause ∈ clauses, clause.isOnTag = false
    · refine ⟨⟨true, clauses.length, false⟩, if_pos ((isEmpty_iff passes).mpr offTags),
        sums_passing passes ⟨fun _ clause member => ?_, fun _ => rfl⟩ ⟨nofun, ?_⟩⟩
      · exact (passes clause member).2 (offTags clause member)
      · rintro ⟨⟨clause, member, onTag⟩, -⟩
        exact absurd ((offTags clause member).symm.trans onTag) Bool.false_ne_true
    · have demanded := mt (isEmpty_iff passes).mp offTags
      obtain ⟨clause, member, onTag⟩ : ∃ clause ∈ clauses, clause.isOnTag = true := by
        simpa using offTags
      simp only [demanded, if_false, Bool.false_eq_true]
      have alive := context.hasLiveContact_eq
      cases live : context.liveContactId with
      | none =>
        rw [live] at alive
        refine ⟨⟨false, clauses.length, false⟩, rfl,
          sums_passing passes ⟨nofun, fun all => ?_⟩ ⟨nofun, fun asks => ?_⟩⟩
        · exact absurd (all clause member) (Clause.not_holds_of_no_contact onTag live)
        · exact absurd (alive.symm.trans asks.2) Bool.false_ne_true
      | some id =>
        rw [live] at alive
        obtain ⟨contact, found⟩ := Option.isSome_iff_exists.mp (stored id live)
        have contact? : context.liveContactId.bind world.catalog.contact? = some contact := by
          rw [live]
          exact found
        refine ⟨⟨_, clauses.length, true⟩, ?_, sums_passing passes (hasTags_iff passes contact?)
          ⟨fun _ => ⟨⟨clause, member, onTag⟩, alive⟩, fun _ => rfl⟩⟩
        simp only [Rehearsal.services, Rehearsal.askCatalog, Faults.answer, working,
          Catalog.hasTags, found, askedIf, if_true]
  · have surveyed := survey_stopped passes stops after 0 .none
    rw [Nat.zero_add] at surveyed
    rw [evaluate, show (Rehearsal.services lifetime).now world = world.now from rfl, surveyed]
    exact ⟨⟨false, before.length + 1, false⟩, rfl, sums_stopped passes stops⟩

/-- For every list of clauses, whatever the run and the instant, in a catalog that has the live
contact of the run: the verdict is that every clause holds by itself, it ends at the first clause
that does not pass or with the last one, and the catalog is asked once if all clauses pass, one is
about a tag and the contact is live, and else not at all. Lists of the same clauses come to the
same, in whatever order and however often they name them. -/
theorem evaluated (lifetime : Span) (working : world.faults.lookup .hasTags = none)
    (stored : forall id, context.liveContactId = some id ->
      (world.catalog.contact? id).isSome = true) (clauses : List Clause) :
    ∃ verdict, evaluate (Rehearsal.services lifetime) context clauses world =
        (.ok verdict, askedIf world verdict.tagQueryIssued) ∧
      verdict.Sums world.catalog context world.now clauses ∧
      forall others : List Clause, (forall clause, clause ∈ others ↔ clause ∈ clauses) ->
        ∃ same, (evaluate (Rehearsal.services lifetime) context others world).1 = .ok same ∧
          same.passed = verdict.passed ∧ same.tagQueryIssued = verdict.tagQueryIssued := by
  obtain ⟨verdict, answer, sums⟩ := evaluate_sums lifetime working stored clauses
  refine ⟨verdict, answer, sums, fun others listed => ?_⟩
  obtain ⟨same, again, agrees⟩ := evaluate_sums lifetime working stored others
  refine ⟨same, congrArg Prod.fst again, ?_, ?_⟩
  · rw [Bool.eq_iff_iff, agrees.passed, sums.passed]
    exact forall_congr' (fun clause => imp_congr_left (listed clause))
  · rw [Bool.eq_iff_iff, agrees.asked, sums.asked]
    simp only [listed]

end Evaluation

namespace Lead

/-- A contact with two tags. -/
def contact : Contact :=
  { id := some 5, projectId := 1, email := "lead@example.com", name := none
    tags := .ofList [1, 2] }

/-- A run for the contact. -/
def visit : Context := { Context.start default 10 with contact := some contact }

/-- Surroundings in which the contact is stored. -/
def stage : Rehearsal :=
  .start .epoch { Catalog.empty with contacts := Keyed.empty.insert 5 contact }

/-- Clauses on both tags, with one in between that is not about a tag. -/
def clauses : List Clause :=
  [⟨.contactWithTag, "1"⟩, ⟨.contactExists, "true"⟩, ⟨.contactWithTag, " 2 "⟩]

/-- The contact is live, and it is found. -/
theorem found : visit.liveContactId.bind stage.catalog.contact? = some contact := by rfl

end Lead

open Lead in
/-- Both tags are there, and the catalog is asked once. -/
theorem evaluated_lead :
    stage.faults.lookup .hasTags = none ∧
      (evaluate (Rehearsal.services .zero) visit clauses stage).1 = .ok ⟨true, 3, true⟩ := by
  have working : stage.faults.lookup .hasTags = none := rfl
  have stored : forall id, visit.liveContactId = some id ->
      (stage.catalog.contact? id).isSome = true := by
    intro id live
    have here := found
    rw [live] at here
    exact Option.isSome_iff_exists.mpr ⟨contact, here⟩
  have first : Clause.Holds stage.catalog visit stage.now ⟨.contactWithTag, "1"⟩ :=
    ⟨1, contact, by decide, found, by decide⟩
  have alive : Clause.Holds stage.catalog visit stage.now ⟨.contactExists, "true"⟩ :=
    show truthValue? "true" = some visit.hasLiveContact by cbv
  have second : Clause.Holds stage.catalog visit stage.now ⟨.contactWithTag, " 2 "⟩ :=
    ⟨2, contact, by decide, found, by decide⟩
  have holds : ∀ clause ∈ clauses, clause.Holds stage.catalog visit stage.now := by
    simp [clauses, first, alive, second]
  obtain ⟨⟨passed, examined, asked⟩, answer, sums, -⟩ := evaluated .zero working stored clauses
  obtain rfl : passed = true := sums.passed.mpr holds
  obtain rfl : examined = 3 := sums.finished (fun clause member => (holds clause member).passes)
  obtain rfl : asked = true := sums.asked.mpr
    ⟨fun clause member => (holds clause member).passes, ⟨_, List.mem_cons_self, rfl⟩, rfl⟩
  exact ⟨working, congrArg Prod.fst answer⟩

end Steps

end Outreach
