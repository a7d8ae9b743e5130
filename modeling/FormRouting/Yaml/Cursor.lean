/-!
# Cursors

A place in the characters of a document: what is left, and the position, line and column reached.
The classes of characters that structure a document are here, too. The end of the document reads as
the null character, which no document holds.
-/

namespace FormRouting.Yaml

/-- What reads at the end of a document. -/
def endMark : Char := '\x00'

/-- The characters that end a line. -/
def isBreak (c : Char) : Bool :=
  c == '\n' || c == '\x85' || c == '\u2028' || c == '\u2029'

/-- The end of a line or of the document. -/
def endsLine (c : Char) : Bool :=
  c == endMark || isBreak c

/-- A blank, or the end of a line or of the document. -/
def endsWord (c : Char) : Bool :=
  c == ' ' || endsLine c

/-- A blank or a tabulator, or the end of a line or of the document. -/
def endsToken (c : Char) : Bool :=
  c == '\t' || endsWord c

/-- The characters of anchors and of the names of directives and handles. -/
def isNameChar (c : Char) : Bool :=
  c.isAlphanum || c == '-' || c == '_'

/-- The characters that a document may hold. -/
def isDocumentChar (c : Char) : Bool :=
  let n := c.toNat
  n == 0x09 || n == 0x0A || n == 0x0D || (0x20 ≤ n && n ≤ 0x7E) || n == 0x85 ||
    (0xA0 ≤ n && n ≤ 0xD7FF) || (0xE000 ≤ n && n ≤ 0xFFFD) || 0x10000 ≤ n

/-- A place in a document. -/
structure Cursor where
  rest : List Char
  /-- How many characters are left. -/
  left : Nat
  index : Nat
  line : Nat
  column : Nat

namespace Cursor

/-- The beginning of a document. -/
def start (cs : List Char) : Cursor := ⟨cs, cs.length, 0, 0, 0⟩

/-- The character at some distance from the place. -/
def peekAt (c : Cursor) (distance : Nat) : Char :=
  (c.rest.drop distance).headD endMark

/-- The character at the place. -/
def peek (c : Cursor) : Char :=
  c.rest.headD endMark

/-- The place one character further. A byte order mark takes no column. -/
def next (c : Cursor) : Cursor :=
  match c.rest with
  | [] => c
  | ch :: rest =>
    if isBreak ch then ⟨rest, c.left - 1, c.index + 1, c.line + 1, 0⟩
    else
      ⟨rest, c.left - 1, c.index + 1, c.line, if ch = '\uFEFF' then c.column else c.column + 1⟩

/-- The place some characters further. -/
def skip (c : Cursor) : Nat → Cursor
  | 0 => c
  | n + 1 => c.next.skip n

/-- Whether the characters at the place are the given ones. -/
def lookingAt (c : Cursor) (s : String) : Bool :=
  s.toList.isPrefixOf c.rest

/-- The characters from the place on that have a property, and the place after them. -/
def takeWhile (p : Char → Bool) (c : Cursor) : List Char × Cursor :=
  let run := c.rest.takeWhile p
  (run, c.skip run.length)

/-- The place after the characters that have a property. -/
def skipWhile (p : Char → Bool) (c : Cursor) : Cursor :=
  (c.takeWhile p).2

/-- The place after the blanks. -/
def skipBlanks (c : Cursor) : Cursor :=
  c.skipWhile (· == ' ')

/-- The place at the end of the line, after a comment if there is one. -/
def skipComment (c : Cursor) : Cursor :=
  if c.peek = '#' then c.skipWhile (!endsLine ·) else c

/-- The end of a line, as it counts in a text, and the place after it. The separators of lines and
of paragraphs stand for themselves; the others are a line feed. -/
def lineBreak? (c : Cursor) : Option (Char × Cursor) :=
  let ch := c.peek
  if ch = '\n' ∨ ch = '\x85' then some ('\n', c.next)
  else if ch = '\u2028' ∨ ch = '\u2029' then some (ch, c.next)
  else none

/-- The place after the end of a line, if it is there. -/
def skipLineBreak (c : Cursor) : Cursor :=
  match c.lineBreak? with
  | some (_, after) => after
  | none => c

/-- Whether a mark that begins or ends a document stands at the place, apart from what follows. -/
def atDocumentMark (c : Cursor) : Bool :=
  (c.lookingAt "---" || c.lookingAt "...") && endsToken (c.peekAt 3)

end Cursor

end FormRouting.Yaml
