import Mathlib.Data.List.Count
import Outreach.Text.LowerCase

/-!
# The lower case of a part of a text

Only the form of a capital sigma depends on what stands around it. So a part of a text reads in the
lower case of the text as it does on its own, except that its capital sigmas may end a word in the
one and not in the other. `Settled` says which of them never do, by what of the part stands around
them: `lowerCase_infix_iff` says that a part is found in the lower case of every text that it is a
part of if and only if all of its capital sigmas are settled.
-/

namespace Outreach.Text

/-- The form of a character, a capital sigma being final or not. -/
def formOf (final : Bool) (c : Char) : List Char :=
  if c = 'Σ' then if final then ['ς'] else ['σ']
  else if c = 'İ' then ['i', '\u0307']
  else [lowerChar c]

/-- Whether a capital sigma is final between two texts, the first one nearest character first. -/
def finalBetween (before after : List Char) : Bool := casedNext before && !casedNext after

theorem lowerCaseAfter_cons (before : List Char) (c : Char) (rest : List Char) :
    lowerCaseAfter before (c :: rest) =
      formOf (finalBetween before rest) c ++ lowerCaseAfter (c :: before) rest := rfl

/-- The lower-case form of a part of a text between two others, the first one nearest character
first. -/
def lowerCaseBetween (before after : List Char) : List Char -> List Char
  | [] => []
  | c :: rest =>
    formOf (finalBetween before (rest ++ after)) c ++ lowerCaseBetween (c :: before) after rest

/-- A text in lower case is the lower case of its parts where they are. -/
theorem lowerCaseAfter_append (before part after : List Char) :
    lowerCaseAfter before (part ++ after) =
      lowerCaseBetween before after part ++ lowerCaseAfter (part.reverse ++ before) after := by
  induction part generalizing before with
  | nil => rfl
  | cons c rest ih =>
    rw [List.cons_append, lowerCaseAfter_cons, ih, lowerCaseBetween, List.append_assoc,
      List.reverse_cons, List.append_assoc, List.singleton_append]

theorem lowerCaseBetween_nil (before part : List Char) :
    lowerCaseBetween before [] part = lowerCaseAfter before part := by
  have parts := lowerCaseAfter_append before part []
  rwa [List.append_nil, lowerCaseAfter, List.append_nil, eq_comm] at parts

section Sigmas

/-- What stands around the capital sigmas of a part, what is before one nearest character first;
`seen` precedes the part. -/
def sigmas (seen : List Char) : List Char -> List (List Char × List Char)
  | [] => []
  | c :: rest =>
    if c = 'Σ' then (seen, rest) :: sigmas (c :: seen) rest else sigmas (c :: seen) rest

/-- What of the lower-case form of a part does not come from capital sigmas. -/
def plainForm (part : List Char) : List Char :=
  part.flatMap (fun c => if c = 'Σ' then [] else formOf false c)

/-- The capital sigmas of a part are final between two texts where they are in the part alone. -/
def Agrees (before after part : List Char) : Prop :=
  ∀ sigma ∈ sigmas [] part,
    finalBetween (sigma.1 ++ before) (sigma.2 ++ after) = finalBetween sigma.1 sigma.2

instance (before after part : List Char) : Decidable (Agrees before after part) :=
  inferInstanceAs (Decidable (∀ _ ∈ _, _))

variable {before after : List Char}

theorem plainForm_cons (c : Char) (rest : List Char) :
    plainForm (c :: rest) = (if c = 'Σ' then [] else formOf false c) ++ plainForm rest :=
  List.flatMap_cons

theorem formOf_of_ne {c : Char} (plain : c ≠ 'Σ') (final : Bool) :
    formOf final c = formOf false c := by
  rw [formOf, formOf, if_neg plain, if_neg plain]

/-- A part whose capital sigmas are final where they are alone has the form it has alone. -/
theorem lowerCaseBetween_eq {seen part : List Char}
    (agrees : ∀ sigma ∈ sigmas seen part,
      finalBetween (sigma.1 ++ before) (sigma.2 ++ after) = finalBetween sigma.1 sigma.2) :
    lowerCaseBetween (seen ++ before) after part = lowerCaseAfter seen part := by
  induction part generalizing seen with
  | nil => rfl
  | cons c rest ih =>
    rw [lowerCaseBetween, lowerCaseAfter_cons, ← List.cons_append]
    rw [sigmas] at agrees
    split at agrees
    · obtain ⟨here, later⟩ := List.forall_mem_cons.mp agrees
      rw [here, ih later]
    · rename_i plain
      rw [ih agrees, formOf_of_ne plain, formOf_of_ne plain (finalBetween seen rest)]

/-- The small letter of a capital sigma. -/
def smallSigma (final : Bool) : Char := if final then 'ς' else 'σ'

/-- How often a small sigma occurs in a part is how many capital sigmas have this form, apart from
those that do not come from capital ones. -/
theorem count_lowerCaseBetween (before after : List Char) (final : Bool) (seen part : List Char) :
    (lowerCaseBetween (seen ++ before) after part).count (smallSigma final) =
      (sigmas seen part).countP
          (fun sigma => finalBetween (sigma.1 ++ before) (sigma.2 ++ after) == final) +
        (plainForm part).count (smallSigma final) := by
  induction part generalizing seen with
  | nil => rfl
  | cons c rest ih =>
    rw [lowerCaseBetween, List.count_append, ← List.cons_append, ih (c :: seen), sigmas,
      plainForm_cons, List.count_append]
    by_cases capital : c = 'Σ'
    · subst capital
      have one (other : Bool) : (formOf other 'Σ').count (smallSigma final) =
          if other == final then 1 else 0 := by
        cases other <;> cases final <;> decide
      rw [if_pos rfl, if_pos rfl, List.countP_cons, one, List.count_nil]
      dsimp only
      omega
    · rw [if_neg capital, if_neg capital, formOf_of_ne capital]
      omega

/-- If a capital sigma of a part has another form between two texts than alone, and none has this
form there that has it not alone, the form occurs less often. -/
theorem count_lowerCaseBetween_lt (before after : List Char) {final : Bool} {part : List Char}
    {sigma : List Char × List Char} (member : sigma ∈ sigmas [] part)
    (alone : finalBetween sigma.1 sigma.2 = final)
    (changed : finalBetween (sigma.1 ++ before) (sigma.2 ++ after) ≠ final)
    (others : ∀ other ∈ sigmas [] part,
      finalBetween (other.1 ++ before) (other.2 ++ after) = final ->
        finalBetween other.1 other.2 = final) :
    (lowerCaseBetween before after part).count (smallSigma final) <
      (lowerCase part).count (smallSigma final) := by
  have there := count_lowerCaseBetween before after final [] part
  have here := count_lowerCaseBetween [] [] final [] part
  simp only [List.nil_append, List.append_nil, lowerCaseBetween_nil] at there here
  rw [lowerCase, there, here]
  refine Nat.add_lt_add_right ?_ _
  obtain ⟨earlier, later, parts⟩ := List.append_of_mem member
  rw [parts] at others ⊢
  have fewer {some : List (List Char × List Char)} (among : ∀ other ∈ some,
      other ∈ earlier ++ sigma :: later) :=
    List.countP_mono_left (l := some) (fun other listed final =>
      beq_iff_eq.mpr (others other (among other listed) (beq_iff_eq.mp final)))
  have first := fewer (fun other => List.mem_append_left (sigma :: later))
  have last := fewer (fun other listed =>
    List.mem_append_right earlier (List.mem_cons_of_mem sigma listed))
  rw [List.countP_append, List.countP_append, List.countP_cons_of_neg (by simpa using changed),
    List.countP_cons_of_pos (by simpa using alone)]
  omega

end Sigmas

section Settled

/-- Whether a text settles if a cased letter comes next in it: it does not consist of characters
that are passed over. -/
def decides (text : List Char) : Bool := !text.all (CodeRange.anyHolds caseIgnorableRanges)

/-- Whether a capital sigma is final wherever its surroundings are, or nowhere. -/
def Settled (before after : List Char) : Prop :=
  casedNext after = true ∨ decides before = true ∧ (casedNext before = false ∨ decides after = true)

instance (before after : List Char) : Decidable (Settled before after) :=
  inferInstanceAs (Decidable (_ ∨ _))

/-- All capital sigmas of a part are settled by the part alone. -/
def Steady (part : List Char) : Prop := ∀ sigma ∈ sigmas [] part, Settled sigma.1 sigma.2

instance (part : List Char) : Decidable (Steady part) := inferInstanceAs (Decidable (∀ _ ∈ _, _))

/-- What comes after a text matters only if the text does not settle what comes next. -/
theorem casedNext_append (text more : List Char) :
    casedNext (text ++ more) = if decides text then casedNext text else casedNext more := by
  have ignored : decides text =
      !(text.dropWhile (CodeRange.anyHolds caseIgnorableRanges)).isEmpty := by
    induction text with
    | nil => rfl
    | cons c rest ih =>
      rw [decides, List.all_cons, List.dropWhile_cons]
      cases CodeRange.anyHolds caseIgnorableRanges c with
      | true => exact ih
      | false => rfl
  rw [ignored, casedNext, List.dropWhile_append, casedNext]
  cases List.dropWhile (CodeRange.anyHolds caseIgnorableRanges) text with
  | nil => rfl
  | cons c rest => rfl

/-- A text in which a cased letter comes next settles it. -/
theorem casedNext_of_not_decides {text : List Char} (undecided : decides text = false) :
    casedNext text = false := by
  have other := casedNext_append text []
  rw [List.append_nil, undecided] at other
  exact other

theorem decides_of_casedNext {text : List Char} (cased : casedNext text = true) :
    decides text = true := by
  by_contra undecided
  rw [casedNext_of_not_decides (Bool.eq_false_iff.mpr undecided)] at cased
  exact Bool.false_ne_true cased

/-- A capital sigma that is not settled is final with a letter after the part no more, or it is with
one before the part. -/
theorem unsettled_cases {before after : List Char} (unsettled : ¬ Settled before after) :
    (finalBetween before after = true ∧ decides after = false) ∨
      (casedNext after = false ∧ decides before = false) := by
  obtain ⟨follows, rest⟩ := not_or.mp unsettled
  rw [Bool.not_eq_true] at follows
  cases known : decides before with
  | false => exact .inr ⟨follows, rfl⟩
  | true =>
    obtain ⟨precedes, undecided⟩ := not_or.mp (not_and.mp rest known)
    rw [Bool.not_eq_true] at undecided
    rw [Bool.not_eq_false] at precedes
    exact .inl ⟨by rw [finalBetween, precedes, follows]; rfl, undecided⟩

/-- A settled sigma is final where its surroundings alone say that it is. -/
theorem Settled.finalBetween_eq {before after : List Char} (settled : Settled before after)
    (front back : List Char) :
    finalBetween (before ++ front) (after ++ back) = finalBetween before after := by
  unfold finalBetween
  rw [casedNext_append, casedNext_append]
  rcases settled with follows | ⟨known, precedesNot | closed⟩
  · rw [decides_of_casedNext follows, follows]
    simp
  · rw [known, precedesNot]
    simp
  · rw [known, closed]
    simp

theorem casedNext_a : casedNext ['a'] = true := by decide +kernel

/-- What is final before a letter is final without it. -/
theorem finalBetween_of_append_a {before after : List Char}
    (final : finalBetween before (after ++ ['a']) = true) : finalBetween before after = true := by
  obtain ⟨precedes, last⟩ := Bool.and_eq_true_iff.mp final
  rw [casedNext_append] at last
  split at last
  · rw [finalBetween, precedes, last, Bool.true_and]
  · rw [casedNext_a] at last
    exact absurd last Bool.false_ne_true

/-- What is not final behind a letter is not final without it. -/
theorem not_finalBetween_of_append_a {before after : List Char}
    (notFinal : finalBetween (before ++ ['a']) after = false) :
    finalBetween before after = false := by
  rw [finalBetween, casedNext_append] at notFinal
  split at notFinal
  · exact notFinal
  · rename_i undecided
    rw [finalBetween, casedNext_of_not_decides (Bool.eq_false_iff.mpr undecided), Bool.false_and]

theorem Steady.agrees {part : List Char} (steady : Steady part) (before after : List Char) :
    Agrees before after part :=
  fun sigma member => (steady sigma member).finalBetween_eq before after

end Settled

section Parts

variable {part : List Char}

/-- A part of a text is found in its lower case where the capital sigmas of the part are final as
they are alone. -/
theorem lowerCase_infix {front back : List Char} (agrees : Agrees front.reverse back part) :
    lowerCase part <:+: lowerCase (front ++ part ++ back) := by
  have same : lowerCaseBetween ([] ++ front.reverse) back part = lowerCaseAfter [] part :=
    lowerCaseBetween_eq agrees
  rw [List.nil_append] at same
  rw [lowerCase, lowerCase, List.append_assoc, lowerCaseAfter_append, lowerCaseAfter_append,
    List.append_nil, same, ← List.append_assoc]
  exact ⟨_, _, rfl⟩

/-- A word that ends in a sigma reads the same before a blank. -/
example : Agrees [] " x".toList "ΟΔΟΣ".toList := by decide +kernel

theorem lowerCase_append_a (part : List Char) :
    lowerCase (part ++ ['a']) = lowerCaseBetween [] ['a'] part ++ ['a'] := by
  rw [lowerCase, lowerCaseAfter_append, lowerCaseAfter_cons, formOf_of_ne (by decide)]
  rfl

theorem lowerCase_cons_a (part : List Char) :
    lowerCase ('a' :: part) = ['a'] ++ lowerCaseBetween ['a'] [] part := by
  rw [lowerCase, lowerCaseAfter_cons, formOf_of_ne (by decide), lowerCaseBetween_nil]
  rfl

/-- A letter after a part takes a final sigma away that the part does not settle, and makes none. -/
theorem not_infix_append_a {sigma : List Char × List Char} (member : sigma ∈ sigmas [] part)
    (final : finalBetween sigma.1 sigma.2 = true) (undecided : decides sigma.2 = false) :
    ¬ lowerCase part <:+: lowerCase (part ++ ['a']) := by
  intro found
  have fewer := count_lowerCaseBetween_lt [] ['a'] member final
    (by simp [finalBetween, casedNext_append, undecided, casedNext_a])
    (fun other _ => by
      rw [List.append_nil]
      exact finalBetween_of_append_a)
  have more := found.sublist.count_le (smallSigma true)
  have none : ['a'].count (smallSigma true) = 0 := by decide
  rw [lowerCase_append_a, List.count_append] at more
  omega

/-- A letter before a part makes a final sigma where the part does not settle it, and takes none
away. -/
theorem not_infix_cons_a {sigma : List Char × List Char} (member : sigma ∈ sigmas [] part)
    (last : casedNext sigma.2 = false) (undecided : decides sigma.1 = false) :
    ¬ lowerCase part <:+: lowerCase ('a' :: part) := by
  intro found
  have notFinal : finalBetween sigma.1 sigma.2 = false := by
    rw [finalBetween, casedNext_of_not_decides undecided, Bool.false_and]
  have fewer := count_lowerCaseBetween_lt ['a'] [] member notFinal
    (by simp [finalBetween, casedNext_append, undecided, casedNext_a, last])
    (fun other _ => by
      rw [List.append_nil]
      exact not_finalBetween_of_append_a)
  have more := found.sublist.count_le (smallSigma false)
  have none : ['a'].count (smallSigma false) = 0 := by decide
  rw [lowerCase_cons_a, List.count_append] at more
  omega

/-- A part is found in the lower case of every text that it is a part of if and only if all of its
capital sigmas are settled. -/
theorem lowerCase_infix_iff (part : List Char) :
    (forall text, part <:+: text -> lowerCase part <:+: lowerCase text) ↔ Steady part := by
  constructor
  · intro law sigma member
    by_contra unsettled
    rcases unsettled_cases unsettled with ⟨final, undecided⟩ | ⟨last, undecided⟩
    · exact not_infix_append_a member final undecided (law _ (List.infix_append [] part ['a']))
    · exact not_infix_cons_a member last undecided (law _ (List.infix_cons (List.infix_refl part)))
  · rintro steady _ ⟨front, back, rfl⟩
    exact lowerCase_infix (steady.agrees front.reverse back)

/-- But not wherever it stands. -/
example : ¬ Steady "ΟΔΟΣ".toList := by decide +kernel

end Parts

end Outreach.Text
