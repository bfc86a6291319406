/-!
# Blank characters and trimming

A blank is a character with the Unicode White_Space property: the ASCII tab, line feed,
vertical tab, form feed, carriage return and space, the next-line control, the no-break
space, the Ogham space mark, the spaces from U+2000 to U+200A, the line and paragraph
separators, the narrow no-break space, the medium mathematical space and the ideographic
space. Trimming removes blanks from both ends of a text and keeps everything between.
-/

namespace Cadence.Text

/-- Whether `c` has the Unicode White_Space property. -/
def isBlank (c : Char) : Bool :=
  let n := c.toNat
  (0x09 ≤ n && n ≤ 0x0D) || n == 0x20 || n == 0x85 || n == 0xA0 || n == 0x1680 ||
    (0x2000 ≤ n && n ≤ 0x200A) || n == 0x2028 || n == 0x2029 || n == 0x202F ||
    n == 0x205F || n == 0x3000

/-- `chars` without the blanks at either end. -/
def trimBlankChars (chars : List Char) : List Char :=
  ((chars.dropWhile isBlank).reverse.dropWhile isBlank).reverse

/-- `text` without the blanks at either end. -/
def trimBlank (text : String) : String := String.ofList (trimBlankChars text.toList)

/-- Every character that core calls whitespace is a blank. -/
theorem isBlank_of_isWhitespace (c : Char) (h : c.isWhitespace = true) : isBlank c = true := by
  simp only [Char.isWhitespace, Bool.or_eq_true, decide_eq_true_eq] at h
  rcases h with ((h | h) | h) | h <;> subst h <;> decide

end Cadence.Text
