import FormRouting.Text.Digit

/-!
# Space

The characters that separate words.
-/

namespace FormRouting

/-- The characters that separate words: the blanks around numbers, and the four separators of
records among the control characters. -/
def isSpace (c : Char) : Bool :=
  isNumberBlank c || (0x1C ≤ c.toNat && c.toNat ≤ 0x1F)

/-- The space that does not end a line. -/
def isInlineSpace (c : Char) : Bool :=
  isSpace c && c != '\n' && c != '\r'

/-- Drops the space at the end. -/
def dropSpaceRight (cs : List Char) : List Char :=
  (cs.reverse.dropWhile isSpace).reverse

end FormRouting
