/-!
# White space

The characters that count as white space, and texts without the white space around them.
-/

namespace Outreach.Text

/-- Whether a character has the Unicode property White_Space. -/
def isBlank (c : Char) : Bool :=
  let n := c.toNat
  (9 <= n && n <= 13) || n == 0x20 || n == 0x85 || n == 0xA0 || n == 0x1680 ||
    (0x2000 <= n && n <= 0x200A) || n == 0x2028 || n == 0x2029 || n == 0x202F ||
    n == 0x205F || n == 0x3000

/-- A text without the white space at its front. -/
def trimStart (text : List Char) : List Char := text.dropWhile isBlank

/-- A text without the white space at its end. -/
def trimEnd (text : List Char) : List Char := (text.reverse.dropWhile isBlank).reverse

/-- A text without the white space around it. -/
def trim (text : List Char) : List Char := trimEnd (trimStart text)

/-- A string without the white space around it. -/
def trimmed (text : String) : String := String.ofList (trim text.toList)

/-- Whether a string holds nothing but white space. -/
def isBlankText (text : String) : Bool := text.toList.all isBlank

end Outreach.Text
