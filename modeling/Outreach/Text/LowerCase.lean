import Outreach.Text.CaseTable

/-!
# Lower case

The full lower-case form of a text. It differs from the forms of its characters in one place:
a capital sigma that ends a word becomes the final sigma.
-/

namespace Outreach.Text

/-- The lower-case form of a character that has one of a single character, else itself. -/
def lowerChar (c : Char) : Char :=
  let n := c.toNat
  if n < 0x80 then
    if 0x41 <= n && n <= 0x5A then Char.ofNat (n + 32) else c
  else
    match lowerCaseRuns.find? (fun run => run.first <= n && n <= run.last) with
    | some run =>
      if (n - run.first) % run.step = 0 then Char.ofNat (Int.ofNat n + run.offset).toNat else c
    | none => c

/-- Whether a cased letter comes next once case-ignorable characters are passed over. -/
def casedNext (text : List Char) : Bool :=
  match text.dropWhile (CodeRange.anyHolds caseIgnorableRanges) with
  | [] => false
  | c :: _ => CodeRange.anyHolds casedRanges c

/-- The lower-case form of the text `rest`, where `before` holds what precedes it, nearest
character first. The capital sigma is final when a cased letter precedes it and none follows;
the capital I with a dot becomes an i and a combining dot. -/
def lowerCaseAfter (before : List Char) : List Char -> List Char
  | [] => []
  | c :: rest =>
    let form :=
      if c = 'Σ' then
        if casedNext before && !casedNext rest then ['ς'] else ['σ']
      else if c = 'İ' then ['i', '\u0307']
      else [lowerChar c]
    form ++ lowerCaseAfter (c :: before) rest

/-- The full lower-case form of a text. -/
def lowerCase (text : List Char) : List Char := lowerCaseAfter [] text

/-- Whether one text occurs in another as a contiguous part. -/
def occursIn (part : List Char) : List Char -> Bool
  | [] => part.isEmpty
  | c :: rest => part.isPrefixOf (c :: rest) || occursIn part rest

/-- Whether one string occurs in another when letter case is disregarded. -/
def containsCaseless (text part : String) : Bool :=
  occursIn (lowerCase part.toList) (lowerCase text.toList)

/-- The lower-case form of a string when only the letters A to Z have one. -/
def asciiLowerCase (text : String) : String :=
  text.map (fun c => if 'A' <= c && c <= 'Z' then Char.ofNat (c.toNat + 32) else c)

end Outreach.Text
