import Mathlib.Data.List.TakeWhile
import Outreach.Proofs.Text.Digits
import Outreach.Proofs.Url.Query
import Outreach.Url.Reader

/-!
# Parts of addresses

Whatever text an address is read from, and however domains are mapped, nothing in front of its query
ends a path, and nothing in its query starts a fragment (`parted_read`, `Parted.resolve`). So the
query can be told from the text of the address (`pairsIn_chars`).
-/

namespace Outreach

/-- An encoded text holds letters, digits, percent signs, and characters of the text that are not to be
encoded. -/
theorem Percent.mem_encode {encoded : Char -> Bool} {text : List Char} {c : Char}
    (member : c ∈ encode encoded text) :
    (c.isAlphanum = true ∨ c = '%') ∨ c ∈ text ∧ encoded c = false := by
  obtain ⟨original, inText, inForm⟩ := List.mem_flatMap.mp member
  split at inForm
  · obtain ⟨byte, -, inByte⟩ := List.mem_flatMap.mp inForm
    exact .inl (mem_encodedByte inByte)
  · rename_i plain
    cases List.mem_singleton.mp inForm
    refine .inr ⟨inText, ?_⟩
    simp only [Bool.or_eq_true, not_or, Bool.not_eq_true] at plain
    exact plain.1

namespace Url

variable {mapping : Host.Mapping}

/-- Nothing in a text ends a path. -/
def Unbroken (text : List Char) : Prop := ∀ c ∈ text, endsPath c = false

instance (text : List Char) : Decidable (Unbroken text) :=
  List.decidableBAll _ text

section Texts

variable {text front back : List Char}

@[simp] theorem unbroken_nil : Unbroken [] := nofun

@[simp] theorem unbroken_cons {c : Char} {rest : List Char} :
    Unbroken (c :: rest) ↔ endsPath c = false ∧ Unbroken rest := List.forall_mem_cons

@[simp] theorem unbroken_append : Unbroken (front ++ back) ↔ Unbroken front ∧ Unbroken back :=
  List.forall_mem_append

theorem Unbroken.of_subset (unbroken : Unbroken back) (part : front ⊆ back) : Unbroken front :=
  fun c member => unbroken c (part member)

/-- What ends a path is no letter, digit or percent sign. -/
theorem endsPath_of_letter {c : Char} (letter : c.isAlphanum = true ∨ c = '%') :
    endsPath c = false := by
  simp only [endsPath, Bool.or_eq_false_iff, decide_eq_false_iff_not]
  constructor <;>
  · rintro rfl
    exact absurd letter (by decide)

/-- An encoded text is unbroken, if what ends a path is encoded wherever it stands. -/
theorem unbroken_encode {encoded : Char -> Bool}
    (shut : ∀ c ∈ text, endsPath c = true -> encoded c = true) :
    Unbroken (Percent.encode encoded text) := by
  intro c member
  rcases Percent.mem_encode member with letter | ⟨inText, plain⟩
  · exact endsPath_of_letter letter
  · refine Bool.eq_false_iff.mpr (fun ends => ?_)
    rw [shut c inText ends] at plain
    cases plain

/-- Paths, users and domains shut out what ends a path. -/
theorem inPath_of_endsPath {c : Char} (ends : endsPath c = true) :
    Percent.inPath c = true ∧ Percent.inUserinfo c = true ∧ Host.isForbiddenInDomain c = true ∧
      Host.isForbiddenInName c = true := by
  simp only [endsPath, Bool.or_eq_true, decide_eq_true_eq] at ends
  rcases ends with rfl | rfl <;> decide

/-- A text that is cut where a path ends is unbroken. -/
theorem unbroken_takeWhile (text : List Char) : Unbroken (text.takeWhile (!endsPath ·)) := by
  intro c member
  simpa using List.mem_takeWhile_imp member

theorem unbroken_ofNat (n : Nat) : Unbroken (Digits.ofNat n) := by
  intro c member
  have digit := Digits.isDigit_of_mem_ofNat n c member
  refine Bool.eq_false_iff.mpr (fun ends => ?_)
  simp only [endsPath, Bool.or_eq_true, decide_eq_true_eq] at ends
  rcases ends with rfl | rfl <;> exact absurd digit (by decide)

theorem unbroken_pieceText (piece : Nat) : Unbroken (Host.pieceText piece) := by
  unfold Host.pieceText
  induction piece using Nat.strongRecOn with
  | ind piece ih =>
    have digits : ∀ value < 16, endsPath value.digitChar = false := by decide
    by_cases small : piece < 16
    · rw [Nat.toDigits_of_lt_base small]
      simp [digits piece small]
    · rw [Nat.toDigits_of_base_le (by decide) (by omega)]
      simp [ih (piece / 16) (by omega), digits (piece % 16) (by omega)]

end Texts

section Hosts

variable {text : List Char} {host : Host}

theorem unbroken_v4 (address : Nat) : Unbroken (Host.v4 address).chars := by
  have point : endsPath '.' = false := by decide
  simp [Host.chars, Host.v4Text, unbroken_ofNat, point]

theorem unbroken_joined (pieces : List Nat) : Unbroken (Host.joined pieces) := by
  have colon : endsPath ':' = false := by decide
  unfold Host.joined
  induction pieces with
  | nil => simp
  | cons piece rest ih =>
    cases rest with
    | nil => simp [unbroken_pieceText]
    | cons next others =>
      rw [List.map_cons] at ih
      rw [List.map_cons, List.map_cons, List.intercalate_cons_cons]
      simp [unbroken_pieceText, colon, ih]

theorem unbroken_v6 (pieces : List Nat) : Unbroken (Host.v6 pieces).chars := by
  have marks : endsPath '[' = false ∧ endsPath ']' = false ∧ endsPath ':' = false := by decide
  simp only [Host.chars, Host.v6Text, unbroken_cons, unbroken_append, unbroken_nil, marks, true_and,
    and_true]
  split <;> simp [unbroken_joined, marks]

theorem unbroken_readV4 (read : Host.readV4 text = .ok host) : Unbroken host.chars := by
  unfold Host.readV4 at read
  split at read
  · cases read
    exact unbroken_v4 _
  · cases read

theorem unbroken_readV6 (read : Host.readV6 text = .ok host) : Unbroken host.chars := by
  unfold Host.readV6 at read
  dsimp only at read
  split at read
  · cases read
    exact unbroken_v6 _
  · cases read

/-- What is read between brackets is unbroken. -/
theorem unbroken_bracketed {inner : Except Host.ReadFault (List Char)}
    (read : inner.bind Host.readV6 = .ok host) : Unbroken host.chars := by
  cases inner with
  | error fault => cases read
  | ok inside => exact unbroken_readV6 read

theorem unbroken_readDomain (read : Host.readDomain mapping text = .ok host) :
    Unbroken host.chars := by
  unfold Host.readDomain at read
  split at read
  · cases read
  · split at read
    · cases read
    · rename_i allowed
      split at read
      · cases read
      · split at read
        · exact unbroken_readV4 read
        · cases read
          intro c member
          refine Bool.eq_false_iff.mpr (fun ends => allowed ?_)
          exact List.any_eq_true.mpr ⟨c, member, (inPath_of_endsPath ends).2.2.1⟩

theorem unbroken_readSpecial (read : Host.readSpecial mapping text = .ok host) :
    Unbroken host.chars := by
  unfold Host.readSpecial at read
  split at read
  · exact unbroken_bracketed read
  · exact unbroken_readDomain read

theorem unbroken_readOpaque (read : Host.readOpaque text = .ok host) : Unbroken host.chars := by
  unfold Host.readOpaque at read
  split at read
  · exact unbroken_bracketed read
  · split at read
    · cases read
    · rename_i allowed
      cases read
      refine unbroken_encode (fun c member ends => absurd ?_ allowed)
      exact List.any_eq_true.mpr ⟨c, member, (inPath_of_endsPath ends).2.2.2⟩

/-- A host that is taken over was read. -/
theorem read_of_map {answer : Except Host.ReadFault Host}
    (read : (answer.mapError ReadFault.ofHost).map some = .ok (some host)) : answer = .ok host := by
  cases answer with
  | error fault => cases read
  | ok found =>
    cases read
    rfl

/-- The host of an address is unbroken, whatever the scheme. -/
theorem unbroken_readHost {kind : SchemeKind} (read : readHost mapping kind text = .ok (some host)) :
    Unbroken host.chars := by
  unfold readHost at read
  split at read
  · split at read
    · cases read
    · exact unbroken_readSpecial (read_of_map read)
  · split at read
    · cases read
    · exact unbroken_readOpaque (read_of_map read)

/-- The host of an address of a file is unbroken. -/
theorem unbroken_fileHost (read : fileHost mapping text = .ok (some host)) :
    Unbroken host.chars := by
  unfold fileHost at read
  split at read
  · cases read
  · split at read
    · cases read
    · rename_i found special
      split at read
      · cases read
      · cases read
        exact unbroken_readSpecial special

end Hosts

section Authorities

variable {authority : Authority}

/-- An authority is unbroken exactly if the user and the host are. -/
theorem unbroken_authority : Unbroken authority.chars ↔
    (Unbroken authority.username ∧ ∀ password ∈ authority.password, Unbroken password) ∧
      ∀ host ∈ authority.host, Unbroken host.chars := by
  have marks : endsPath ':' = false ∧ endsPath '@' = false := by decide
  obtain ⟨username, password, host, port⟩ := authority
  have user : Unbroken (Authority.userChars ⟨username, password, host, port⟩) ↔
      Unbroken username ∧ ∀ secret ∈ password, Unbroken secret := by
    cases password <;> cases username <;> simp [Authority.userChars, marks, and_assoc]
  cases host <;> cases port <;> simp [Authority.chars, user, unbroken_ofNat, marks]

/-- An authority without a user is unbroken if its host is. -/
theorem unbroken_hosted {place : Option Host} (host : ∀ found ∈ place, Unbroken found.chars) :
    Unbroken (Authority.chars ⟨[], none, place, none⟩) :=
  unbroken_authority.mpr ⟨⟨unbroken_nil, fun _ => (absurd · (Option.not_mem_none _))⟩, host⟩

theorem unbroken_userOf (text : List Char) :
    Unbroken (userOf text).1 ∧ ∀ password ∈ (userOf text).2, Unbroken password := by
  have encoded (part : List Char) : Unbroken (Percent.encode Percent.inUserinfo part) :=
    unbroken_encode (fun c _ ends => (inPath_of_endsPath ends).2.1)
  unfold userOf
  dsimp only
  split <;> simp [encoded]

end Authorities

section Paths

variable {kind : SchemeKind} {path text : List Char}

theorem unbroken_pop (unbroken : Unbroken path) : Unbroken (pop kind path) := by
  unfold pop directory
  split
  · exact unbroken
  · refine unbroken.of_subset (fun c member => ?_)
    have back := List.dropWhile_subset _ (List.mem_reverse.mp member)
    exact List.mem_reverse.mp back

theorem unbroken_openLast (unbroken : Unbroken path) : Unbroken (openLast path) := by
  unfold openLast
  split
  · exact unbroken.of_subset (List.dropLast_subset path)
  · exact unbroken

theorem unbroken_closed (unbroken : Unbroken path) : Unbroken (closed path) := by
  have slash : endsPath '/' = false := by decide
  unfold closed
  split <;> simp [unbroken, slash]

/-- A segment is encoded, so it leaves a path unbroken. -/
theorem unbroken_addSegment (unbroken : Unbroken path) (segment : List Char) (slash : Bool) :
    Unbroken (addSegment kind path segment slash) := by
  have isSlash : endsPath '/' = false := by decide
  unfold addSegment
  extract_lets start encoded shortened
  have front : Unbroken start := by
    unfold start
    split <;> simp [unbroken, isSlash]
  have back : Unbroken encoded :=
    unbroken_encode (fun c _ ends => (inPath_of_endsPath ends).1)
  have left : Unbroken shortened := unbroken_pop (unbroken_openLast front)
  split
  · split
    · exact unbroken_closed left
    · exact left
  · split
    · exact unbroken_closed front
    · cases slash <;> simp [front, back, isSlash]

theorem unbroken_addSegments (unbroken : Unbroken path) (segments : List (List Char)) :
    Unbroken (addSegments kind path segments) := by
  fun_induction addSegments kind path segments with
  | case1 => exact unbroken
  | case2 path segment => exact unbroken_addSegment unbroken segment false
  | case3 path segment rest _ ih => exact ih (unbroken_addSegment unbroken segment true)

theorem unbroken_continuePath (unbroken : Unbroken path) (text : List Char) :
    Unbroken (continuePath kind path text) := by
  have slash : endsPath '/' = false := by decide
  have continued : Unbroken (addSegments kind path (segments kind path text)) :=
    unbroken_addSegments unbroken _
  unfold continuePath rooted
  split
  · exact unbroken_cons.mpr ⟨slash, continued.of_subset (List.dropWhile_subset _)⟩
  · exact continued

end Paths

/-- Nothing in front of the query of an address ends a path, and nothing in the query starts a
fragment. -/
structure Parted (url : Url) : Prop where
  scheme : Unbroken url.scheme
  authority : ∀ authority ∈ url.authority, Unbroken authority.chars
  path : Unbroken url.path
  query : ∀ query ∈ url.query, '#' ∉ query

section Reading

variable {kind : SchemeKind} {scheme path text : List Char} {url : Url}

/-- The query that follows a path starts no fragment. -/
theorem hash_notMem_ending (kind : SchemeKind) (text : List Char) :
    ∀ query ∈ (ending kind text).1, '#' ∉ query := by
  unfold ending
  dsimp only
  split
  · intro query isQuery member
    cases isQuery
    rcases Percent.mem_encode member with letter | ⟨-, plain⟩
    · exact absurd letter (by decide)
    · split at plain <;> exact absurd plain (by decide)
  · exact nofun

/-- An address is parted, if what it starts with is. -/
theorem parted_withRest {authority : Option Authority} (front : Unbroken scheme)
    (located : ∀ authority' ∈ authority, Unbroken authority'.chars) (unbroken : Unbroken path)
    (text : List Char) : (withRest scheme authority path text).Parted where
  scheme := front
  authority := located
  path := unbroken_continuePath unbroken _
  query := hash_notMem_ending _ _

theorem parted_afterSlashes (front : Unbroken scheme)
    (read : afterSlashes mapping scheme text = .ok url) : url.Parted := by
  have slash : Unbroken ['/'] := by decide
  unfold afterSlashes at read
  extract_lets kind authorityText rest located userText hasUser hostPart afterHost at read
  clear_value afterHost
  split at read
  · cases read
  · have user := unbroken_userOf userText
    dsimp only [bind, Except.bind] at read
    cases isHost : readHost mapping kind hostPart with
    | error fault =>
      rw [isHost] at read
      cases read
    | ok place =>
      rw [isHost] at read
      dsimp only at read
      have host : ∀ found ∈ place, Unbroken found.chars := by
        rintro found rfl
        exact unbroken_readHost isHost
      have ends {port : Option Nat} {start rest : List Char} (unbroken : Unbroken start)
          (read : Except.ok (withRest scheme
            (some ⟨(userOf userText).1, (userOf userText).2, place, port⟩) start rest) =
              (Except.ok url : Except ReadFault Url)) : url.Parted := by
        cases read
        refine parted_withRest front ?_ unbroken rest
        rintro _ ⟨⟩
        exact unbroken_authority.mpr ⟨user, host⟩
      split at read
      · cases read
      · -- Whether a port follows or not, a path does.
        split at read
        on_goal 1 =>
          split at read
          · cases read
        all_goals
          split at read
          · refine ends ?_ read
            split <;> simp [slash]
          · split at read
            · exact ends slash read
            · split at read
              · exact ends unbroken_nil read
              · exact ends slash read

theorem parted_fileWithPath (unbroken : Unbroken path) (text : List Char) :
    (fileWithPath path text).Parted := by
  refine parted_withRest (by decide) ?_ unbroken text
  rintro _ ⟨⟩
  decide

theorem parted_fileAfterSlashes (read : fileAfterSlashes mapping text = .ok url) : url.Parted := by
  have slash : Unbroken ['/'] := by decide
  have file : Unbroken fileScheme := by decide
  unfold fileAfterSlashes at read
  extract_lets hostPart rest at read
  split at read
  · cases read
    exact parted_fileWithPath slash text
  · dsimp only [bind, Except.bind] at read
    cases isHost : fileHost mapping hostPart with
    | error fault =>
      rw [isHost] at read
      cases read
    | ok place =>
      rw [isHost] at read
      cases place with
      | none =>
        cases read
        exact parted_fileWithPath unbroken_nil rest
      | some host =>
        cases read
        refine parted_withRest file ?_ slash _
        rintro _ ⟨⟩
        refine unbroken_hosted (fun found isFound => ?_)
        split at isFound
        · cases isFound
        · cases isFound
          exact unbroken_fileHost isHost

/-- What ends a path is no letter in lower case. -/
theorem eq_of_endsPath_toLower {c : Char} (ends : endsPath c.toLower = true) : c = '?' ∨ c = '#' := by
  simp only [endsPath, Bool.or_eq_true, decide_eq_true_eq] at ends
  unfold Char.toLower at ends
  split at ends
  · rename_i upper
    have low : 65 <= c.toNat := upper.1
    have high : c.toNat <= 90 := upper.2
    rcases ends with same | same <;>
    · have shifted := congrArg Char.toNat same
      simp at shifted
      omega
  · exact ends

/-- The scheme of an address is unbroken, and so it is in lower case. -/
theorem unbroken_splitScheme {rest : List Char} (split : splitScheme? text = some (scheme, rest)) :
    Unbroken scheme := by
  unfold splitScheme? at split
  extract_lets isSchemeChar front at split
  split at split
  · split at split
    · cases split
      intro c member
      obtain ⟨original, inFront, rfl⟩ := List.mem_map.mp member
      have isSchemeChar := List.mem_takeWhile_imp inFront
      refine Bool.eq_false_iff.mpr (fun ends => ?_)
      rcases eq_of_endsPath_toLower ends with rfl | rfl <;> exact absurd isSchemeChar (by decide)
    · cases split
  · cases split

/-- An address that is read is parted. -/
theorem parted_read {text : String} (read : Url.read mapping text = .ok url) : url.Parted := by
  have slash : Unbroken ['/'] := by decide
  unfold Url.read at read
  split at read
  · cases read
  · rename_i scheme rest split
    have front := unbroken_splitScheme split
    have unlocated : ∀ authority ∈ (none : Option Authority), Unbroken authority.chars := by
      rintro _ ⟨⟩
    extract_lets isSlash at read
    split at read
    · exact parted_afterSlashes front read
    · split at read
      · split at read
        · split at read
          · exact parted_fileAfterSlashes read
          · cases read
            exact parted_fileWithPath slash _
        · cases read
          exact parted_fileWithPath slash _
      · cases read
        exact parted_fileWithPath slash []
    · split at read
      · exact parted_afterSlashes front read
      · cases read
        exact parted_withRest front unlocated slash _
      · cases read
        refine ⟨front, unlocated, ?_, hash_notMem_ending _ _⟩
        refine unbroken_encode (fun c member ends => ?_)
        rw [unbroken_takeWhile _ c member] at ends
        cases ends

end Reading

section Resolving

variable {base url : Url} {text : List Char}

theorem Parted.resolveFile (parted : base.Parted)
    (resolved : base.resolveFile mapping text = .ok url) : url.Parted := by
  have slash : Unbroken ['/'] := by decide
  have file : Unbroken fileScheme := by decide
  unfold Url.resolveFile at resolved
  extract_lets isSlash startsWithDrive at resolved
  split at resolved
  · cases resolved
    exact ⟨parted.scheme, parted.authority, parted.path, parted.query⟩
  · split at resolved
    · split at resolved
      · exact parted_fileAfterSlashes resolved
      · split at resolved
        · cases resolved
          exact parted_fileWithPath slash _
        · split at resolved
          · cases resolved
            refine parted_fileWithPath (unbroken_cons.mpr ⟨by decide, ?_⟩) _
            refine parted.path.of_subset (fun c member => ?_)
            exact List.drop_subset 1 _ (List.takeWhile_subset _ member)
          · cases resolved
            refine parted_withRest file ?_ unbroken_nil _
            rintro _ ⟨⟩
            refine unbroken_hosted (fun host isHost => ?_)
            obtain ⟨authority, isAuthority, isHost⟩ := Option.bind_eq_some_iff.mp isHost
            exact (unbroken_authority.mp (parted.authority authority isAuthority)).2 host isHost
    · split at resolved
      · cases resolved
        exact parted_fileWithPath slash _
      · cases resolved
        exact parted_withRest file parted.authority (unbroken_pop parted.path) _

theorem Parted.resolvePath (parted : base.Parted)
    (resolved : base.resolvePath mapping text = .ok url) : url.Parted := by
  have slash : Unbroken ['/'] := by decide
  unfold Url.resolvePath at resolved
  extract_lets isSlash directory start at resolved
  split at resolved
  · cases resolved
    exact ⟨parted.scheme, parted.authority, parted.path, parted.query⟩
  · split at resolved
    · split at resolved
      · exact parted_afterSlashes parted.scheme resolved
      · cases resolved
        exact parted_withRest parted.scheme parted.authority slash _
    · cases resolved
      refine parted_withRest parted.scheme parted.authority ?_ _
      unfold start
      split
      · exact slash
      · exact unbroken_pop parted.path

/-- What a parted address leads to is parted. -/
theorem Parted.resolve {reference : String} (parted : base.Parted)
    (resolved : base.resolve mapping reference = .ok url) : url.Parted := by
  unfold Url.resolve at resolved
  extract_lets text at resolved
  clear_value text
  split at resolved
  · cases resolved
    exact ⟨parted.scheme, parted.authority, parted.path, parted.query⟩
  · split at resolved
    · cases resolved
    · split at resolved
      · rename_i rest _
        cases resolved
        exact ⟨parted.scheme, parted.authority, parted.path,
          hash_notMem_ending base.kind ('?' :: rest)⟩
      · split at resolved
        · exact parted.resolveFile resolved
        · exact parted.resolvePath resolved

end Resolving

section Queries

/-- The query in the text of an address: what follows the first question mark in front of the
fragment. -/
def queryIn? (text : List Char) : Option (List Char) :=
  match (text.takeWhile (· ≠ '#')).dropWhile (· ≠ '?') with
  | _ :: query => some query
  | [] => none

/-- The pairs of the query in the text of an address. -/
def pairsIn (text : List Char) : List (List Char × List Char) :=
  ((queryIn? text).map pairsOf).getD []

variable {url : Url}

/-- What stands in front of the query of a parted address is unbroken. -/
theorem Parted.front (parted : url.Parted) :
    Unbroken (url.scheme ++ ':' :: url.authorityChars ++ url.path) := by
  have marks : endsPath ':' = false ∧ endsPath '/' = false ∧ endsPath '.' = false := by decide
  have located : Unbroken url.authorityChars := by
    unfold authorityChars
    split
    · rename_i authority isAuthority
      simp [marks, parted.authority authority isAuthority]
    · split <;> simp [marks]
  simp [parted.scheme, located, parted.path, marks]

/-- The query of a parted address stands in its text. -/
theorem Parted.queryIn?_chars (parted : url.Parted) : queryIn? url.chars = url.query := by
  have front := parted.front
  have closed := parted.query
  unfold chars
  generalize url.scheme ++ ':' :: url.authorityChars ++ url.path = text at front
  obtain ⟨scheme, authority, path, query, fragment⟩ := url
  dsimp only at closed ⊢
  generalize asked : (query.map ('?' :: ·)).getD [] = query'
  have unhashed : ∀ c ∈ text ++ query', decide (c ≠ '#') = true := by
    intro c member
    refine decide_eq_true ?_
    rintro rfl
    rcases List.mem_append.mp member with inFront | inQuery
    · exact absurd (front _ inFront) (by decide)
    · subst asked
      cases query with
      | none => cases inQuery
      | some found =>
        rcases List.mem_cons.mp inQuery with none | inQuery
        · exact absurd none (by decide)
        · exact closed found rfl inQuery
  have unasked : ∀ c ∈ text, decide (c ≠ '?') = true := by
    intro c member
    refine decide_eq_true ?_
    rintro rfl
    exact absurd (front _ member) (by decide)
  have cut : (text ++ query' ++ (fragment.map ('#' :: ·)).getD []).takeWhile (· ≠ '#') =
      text ++ query' := by
    rw [List.takeWhile_append_of_pos unhashed]
    cases fragment <;> simp
  rw [queryIn?, cut, List.dropWhile_append_of_pos unasked]
  subst asked
  cases query <;> simp

/-- The pairs of a parted address stand in its text. -/
theorem Parted.pairsIn_chars (parted : url.Parted) : pairsIn url.chars = url.pairs := by
  rw [pairsIn, parted.queryIn?_chars, pairs]

/-- An address with one more pair is as parted as before. -/
theorem Parted.appendPair (parted : url.Parted) (name value : List Char) :
    (url.appendPair name value).Parted := by
  have plain : '#' ∉ formPair name value := fun member => (mem_formPair member).2 rfl
  have closed : ∀ query ∈ (url.appendPair name value).query, '#' ∉ query := by
    unfold Url.appendPair
    split
    · rintro _ ⟨⟩
      exact plain
    · rintro _ ⟨⟩
      exact plain
    · rename_i query _ isQuery
      rintro _ ⟨⟩ member
      rcases List.mem_append.mp member with before | added
      · exact parted.query query isQuery before
      · rcases List.mem_cons.mp added with none | added
        · exact absurd none (by decide)
        · exact plain added
  rw [appendPair_eq]
  exact ⟨parted.scheme, parted.authority, parted.path, closed⟩

theorem Parted.appendPairs (parted : url.Parted) (added : List (List Char × List Char)) :
    (url.appendPairs added).Parted := by
  induction added generalizing url with
  | nil => exact parted
  | cons pair rest ih => exact ih (parted.appendPair pair.1 pair.2)

end Queries

end Url

end Outreach
