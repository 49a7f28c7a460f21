/-! # Blank characters

  The blanks that the readers of numbers, dates and rows pass over, and the text
  without them.

  - `isBlank` is the class: the Unicode white space together with the four
    information separators U+001C to U+001F.
  - `trim` removes the blanks at both ends of a text and no others.
  - `isWhite` and `trimWhite` are the same without the information separators.
-/

namespace ReportCheck.Text

/-- **Blank characters.** The Unicode white space characters, and the information
    separators U+001C to U+001F, which the readers also pass over. -/
def isBlank (c : Char) : Bool :=
  let n := c.toNat
  (0x09 ≤ n && n ≤ 0x0d) || (0x1c ≤ n && n ≤ 0x20) || n == 0x85 || n == 0xa0
    || n == 0x1680 || (0x2000 ≤ n && n ≤ 0x200a) || n == 0x2028 || n == 0x2029
    || n == 0x202f || n == 0x205f || n == 0x3000

/-- The text from its first character that is not blank. -/
def trimLeft (cs : List Char) : List Char := cs.dropWhile isBlank

/-- The text up to its last character that is not blank. -/
def trimRight (cs : List Char) : List Char := (cs.reverse.dropWhile isBlank).reverse

/-- The text without the blanks at its two ends. -/
def trim (cs : List Char) : List Char := trimRight (trimLeft cs)

/-- **White space** in the sense of Unicode: a blank that is no information separator. -/
def isWhite (c : Char) : Bool := isBlank c && !(0x1c ≤ c.toNat && c.toNat ≤ 0x1f)

/-- The text without the white space at its two ends. -/
def trimWhite (cs : List Char) : List Char :=
  ((cs.dropWhile isWhite).reverse.dropWhile isWhite).reverse

@[simp] theorem trimLeft_nil : trimLeft [] = [] := rfl

@[simp] theorem trimRight_nil : trimRight [] = [] := rfl

@[simp] theorem trim_nil : trim [] = [] := rfl

end ReportCheck.Text
