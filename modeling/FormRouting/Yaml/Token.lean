import FormRouting.Text.Digit
import FormRouting.Yaml.Cursor

/-!
# Tokens

What a document is made of: its indicators, names and scalars, with the indentation made explicit as
starts and ends of blocks. This module holds the tokens and reads those that do not depend on where
they stand: directives, anchors, tags and scalars.
-/

namespace FormRouting.Yaml

/-- Why a document cannot be read. -/
inductive Fault where
  /-- The document is not well formed, or uses what is not supported. -/
  | malformed
  /-- An escape names no character. -/
  | characterCode (code : Nat)
  /-- An escape names half of a pair of UTF-16 units. A text here is made of characters, so that there
  is none for what holds such a half. -/
  | surrogate (code : Nat)
deriving DecidableEq, Repr

/-- A directive in front of a document. -/
inductive Directive where
  | version (major minor : Nat)
  | handle (handle expansion : String)
  | other
deriving DecidableEq, Repr

inductive Token where
  | directive (d : Directive)
  | documentStart
  | documentEnd
  | blockSequenceStart
  | blockMappingStart
  | blockEnd
  | flowSequenceStart
  | flowSequenceEnd
  | flowMappingStart
  | flowMappingEnd
  | blockEntry
  | flowEntry
  | key
  | value
  | alias (name : String)
  | anchor (name : String)
  /-- A tag as a handle to be expanded and a suffix, or as a suffix alone. -/
  | tag (handle : Option String) (suffix : String)
  | scalar (text : String) (plain : Bool)
deriving DecidableEq, Repr

namespace Token

/-- What is read from a place: a result and the place after it. -/
abbrev Scan (α : Type) := Cursor → Except Fault (α × Cursor)

/-- Checks a condition on which the document is well formed. -/
def need (condition : Bool) : Except Fault Unit :=
  if condition then .ok () else .error .malformed

/-! ## Names and tags -/

/-- Reads the name after the mark of an anchor or an alias. -/
def scanName : Scan String := fun c => do
  let (name, after) := c.next.takeWhile isNameChar
  need !name.isEmpty
  need (endsToken after.peek || "?:,]\x7d%@\x60".toList.contains after.peek)
  return (String.ofList name, after)

/-- Reads two hexadecimal digits. -/
def scanHexPair (c : Cursor) : Option (Nat × Cursor) :=
  match hexDigitValue? (c.peekAt 0), hexDigitValue? (c.peekAt 1) with
  | some a, some b => some (16 * a + b, c.skip 2)
  | _, _ => none

/-- The characters of a tag that stand for themselves. -/
def isTagChar (c : Char) : Bool :=
  c.isAlphanum || "-;/?:@&=+$,_.!~*'()[]".toList.contains c

/-- Reads a run of bytes written in hexadecimal after percent signs. -/
def scanPercentBytes : (fuel : Nat) → Cursor → Except Fault (List UInt8 × Cursor)
  | 0, c => .ok ([], c)
  | fuel + 1, c =>
    if c.peek = '%' then
      match scanHexPair c.next with
      | some (n, after) => do
        let (bytes, last) ← scanPercentBytes fuel after
        return (UInt8.ofNat n :: bytes, last)
      | none => .error .malformed
    else .ok ([], c)

/-- Reads the characters of a tag; bytes after percent signs make text in UTF-8. -/
def scanTagChars : (fuel : Nat) → Cursor → Except Fault (List Char × Cursor)
  | 0, c => .ok ([], c)
  | fuel + 1, c =>
    if c.peek = '%' then do
      let (bytes, after) ← scanPercentBytes fuel c
      match String.fromUTF8? ⟨bytes.toArray⟩ with
      | some s => do
        let (cs, last) ← scanTagChars fuel after
        return (s.toList ++ cs, last)
      | none => .error .malformed
    else if isTagChar c.peek then do
      let (cs, last) ← scanTagChars fuel c.next
      return (c.peek :: cs, last)
    else .ok ([], c)

/-- Reads the suffix of a tag or the expansion of a handle. -/
def scanTagText : Scan String := fun c => do
  let (cs, after) ← scanTagChars (c.left + 1) c
  need (after.index != c.index)
  return (String.ofList cs, after)

/-- Reads a handle: an exclamation mark, or a name between two of them. -/
def scanHandle : Scan String := fun c => do
  need (c.peek == '!')
  let (name, after) := c.next.takeWhile isNameChar
  if name.isEmpty && after.peek == ' ' then return ("!", after)
  need (after.peek == '!')
  return (String.ofList ('!' :: name ++ ['!']), after.next)

/-- Reads a tag: one in angle brackets, the lone exclamation mark, or a handle and a suffix. -/
def scanTag : Scan Token := fun c => do
  let second := c.peekAt 1
  let (token, after) ←
    if second = '<' then do
      let (suffix, after) ← scanTagText (c.skip 2)
      need (after.peek == '>')
      pure (Token.tag none suffix, after.next)
    else if endsToken second then
      pure (Token.tag none "!", c.next)
    else do
      let word := c.next.rest.takeWhile (!endsWord ·)
      let (handle, after) ← if word.contains '!' then scanHandle c else pure ("!", c.next)
      let (suffix, after) ← scanTagText after
      pure (Token.tag (some handle) suffix, after)
  need (endsWord after.peek)
  return (token, after)

/-! ## Directives -/

/-- Reads a number of a version. -/
def scanVersionPart : Scan Nat := fun c => do
  let (digits, after) := c.takeWhile Char.isDigit
  need !digits.isEmpty
  return (digits.foldl (fun n d => 10 * n + (d.toNat - 0x30)) 0, after)

/-- Reads a directive to the end of its line. -/
def scanDirective : Scan Token := fun c => do
  let (name, after) := c.next.takeWhile isNameChar
  need !name.isEmpty
  need (endsWord after.peek)
  let (d, after) ←
    if name = "YAML".toList then do
      let (major, after) ← scanVersionPart after.skipBlanks
      need (after.peek == '.')
      let (minor, after) ← scanVersionPart after.next
      need (endsWord after.peek)
      pure (Directive.version major minor, after)
    else if name = "TAG".toList then do
      let (handle, after) ← scanHandle after.skipBlanks
      need (after.peek == ' ')
      let (expansion, after) ← scanTagText after.skipBlanks
      need (endsWord after.peek)
      pure (Directive.handle handle expansion, after)
    else pure (Directive.other, after.skipWhile (!endsLine ·))
  let after := after.skipBlanks.skipComment
  need (endsLine after.peek)
  return (.directive d, after.skipLineBreak)

/-! ## Scalars in quotes -/

/-- The character that an escape of one letter stands for. -/
def escape? : Char → Option Char
  | '0' => some '\x00'
  | 'a' => some '\x07'
  | 'b' => some '\x08'
  | 't' => some '\t'
  | '\t' => some '\t'
  | 'n' => some '\n'
  | 'v' => some '\x0b'
  | 'f' => some '\x0c'
  | 'r' => some '\r'
  | 'e' => some '\x1b'
  | ' ' => some ' '
  | '"' => some '"'
  | '\\' => some '\\'
  | '/' => some '/'
  | 'N' => some '\x85'
  | '_' => some '\xa0'
  | 'L' => some '\u2028'
  | 'P' => some '\u2029'
  | _ => none

/-- The number of hexadecimal digits that an escape of this letter takes. -/
def escapeWidth? : Char → Option Nat
  | 'x' => some 2
  | 'u' => some 4
  | 'U' => some 8
  | _ => none

/-- The character with the given code. -/
def charOfCode (code : Nat) : Except Fault Char :=
  if 0x10FFFF < code then .error (.characterCode code)
  else if 0xD800 ≤ code ∧ code ≤ 0xDFFF then .error (.surrogate code)
  else .ok (Char.ofNat code)

/-- Reads a number of hexadecimal digits. -/
def scanHex (width : Nat) : Scan Nat := fun c => do
  let digits := c.rest.take width
  need (digits.length == width)
  match digits.mapM hexDigitValue? with
  | some ds => return (ds.foldl (fun n d => 16 * n + d) 0, c.skip width)
  | none => .error .malformed

/-- Reads the line breaks, with blanks around them, that follow a line break inside quotes. -/
def scanQuotedBreaks : (fuel : Nat) → Cursor → Except Fault (List Char × Cursor)
  | 0, c => .ok ([], c)
  | fuel + 1, c => do
    need !c.atDocumentMark
    let c := c.skipWhile fun ch => ch == ' ' || ch == '\t'
    match c.lineBreak? with
    | some (ch, after) => do
      let (breaks, last) ← scanQuotedBreaks fuel after
      return (ch :: breaks, last)
    | none => .ok ([], c)

/-- Joined lines: a line feed between two lines becomes a blank, unless empty lines follow; another
line break stays. -/
def foldBreak (first : Char) (breaks : List Char) : List Char :=
  if first ≠ '\n' then first :: breaks
  else if breaks.isEmpty then [' '] else breaks

/-- Reads the text of a scalar in quotes up to its closing quote. -/
def scanQuotedBody (quote : Char) : (fuel : Nat) → Cursor → Except Fault (List Char × Cursor)
  | 0, _ => .error .malformed
  | fuel + 1, c =>
    let ch := c.peek
    let go (front : List Char) (after : Cursor) : Except Fault (List Char × Cursor) := do
      let (body, last) ← scanQuotedBody quote fuel after
      return (front ++ body, last)
    if ch = endMark then .error .malformed
    else if ch = quote then
      if quote = '\'' ∧ c.peekAt 1 = '\'' then go ['\''] (c.skip 2)
      else .ok ([], c.next)
    else if ch = '\\' ∧ quote = '"' then
      let letter := c.peekAt 1
      let after := c.skip 2
      match escape? letter, escapeWidth? letter, c.next.lineBreak? with
      | some e, _, _ => go [e] after
      | none, some width, _ => do
        let (code, after) ← scanHex width after
        go [← charOfCode code] after
      | none, none, some (_, after) => do
        let (breaks, after) ← scanQuotedBreaks fuel after
        go breaks after
      | none, none, none => .error .malformed
    else if ch = ' ' ∨ ch = '\t' ∨ isBreak ch then
      let (blanks, after) := c.takeWhile fun b => b == ' ' || b == '\t'
      if after.peek = endMark then .error .malformed
      else
        match after.lineBreak? with
        | some (first, after) => do
          let (breaks, after) ← scanQuotedBreaks fuel after
          go (foldBreak first breaks) after
        | none => go blanks after
    else go [ch] c.next

/-- Reads a scalar in quotes. -/
def scanQuoted : Scan Token := fun c => do
  let (body, after) ← scanQuotedBody c.peek (c.left + 1) c.next
  return (.scalar (String.ofList body) false, after)

/-! ## Block scalars -/

/-- What becomes of the line breaks at the end of a block scalar. -/
inductive Chomping where
  | clip
  | strip
  | keep
deriving DecidableEq, Repr

/-- Reads the sign that chooses the chomping. -/
def scanChomping (c : Cursor) : Chomping × Cursor :=
  if c.peek = '+' then (.keep, c.next)
  else if c.peek = '-' then (.strip, c.next)
  else (.clip, c)

/-- Reads the digit that gives the indentation. -/
def scanIncrement (c : Cursor) : Except Fault (Option Nat × Cursor) :=
  if c.peek.isDigit then
    if c.peek = '0' then .error .malformed else .ok (some (c.peek.toNat - 0x30), c.next)
  else .ok (none, c)

/-- Reads the sign and the digit after the mark of a block scalar, in either order. -/
def scanBlockHeader : Scan (Chomping × Option Nat) := fun c => do
  let (chomping, after) := scanChomping c
  let (increment, after) ← scanIncrement after
  let (chomping, after) := if chomping = .clip then scanChomping after else (chomping, after)
  need (endsWord after.peek)
  let after := after.skipBlanks.skipComment
  need (endsLine after.peek)
  return ((chomping, increment), after.skipLineBreak)

/-- Reads the empty lines in front of a block scalar, and the widest indentation among them and the
first line that is not empty. -/
def scanIndentation : (fuel : Nat) → (widest : Nat) → Cursor → List Char × Nat × Cursor
  | 0, widest, c => ([], widest, c)
  | fuel + 1, widest, c =>
    match c.lineBreak? with
    | some (ch, after) =>
      let (breaks, widest, last) := scanIndentation fuel widest after
      (ch :: breaks, widest, last)
    | none =>
      if c.peek = ' ' then scanIndentation fuel (max widest c.next.column) c.next
      else ([], widest, c)

/-- The place after the blanks, as far as the indentation goes. -/
def skipIndentation (indent : Nat) (c : Cursor) : Cursor :=
  c.skip ((c.rest.take (indent - c.column)).takeWhile (· == ' ')).length

/-- Reads the empty lines between the lines of a block scalar. -/
def scanBlockBreaks (indent : Nat) : (fuel : Nat) → Cursor → List Char × Cursor
  | 0, c => ([], c)
  | fuel + 1, c =>
    let c := skipIndentation indent c
    match c.lineBreak? with
    | some (ch, after) =>
      let (breaks, last) := scanBlockBreaks indent fuel after
      (ch :: breaks, last)
    | none => ([], c)

/-- Reads the lines of a block scalar. The result is its text, the last line break and the empty
lines after it. -/
def scanBlockLines (folded : Bool) (indent : Nat) :
    (fuel : Nat) → Cursor → List Char × List Char × List Char × Cursor
  | 0, c => ([], [], [], c)
  | fuel + 1, c =>
    let isPadding (ch : Char) := ch == ' ' || ch == '\t'
    let (line, after) := c.takeWhile (!endsLine ·)
    let (lineEnd, after) := match after.lineBreak? with
      | some (ch, after) => ([ch], after)
      | none => ([], after)
    let (breaks, after) := scanBlockBreaks indent fuel after
    if after.column = indent ∧ after.peek ≠ endMark then
      let joint :=
        if folded && lineEnd == ['\n'] && !isPadding c.peek && !isPadding after.peek then
          if breaks.isEmpty then [' '] else []
        else lineEnd
      let (text, lastEnd, lastBreaks, last) := scanBlockLines folded indent fuel after
      (line ++ joint ++ breaks ++ text, lastEnd, lastBreaks, last)
    else (line, lineEnd, breaks, after)

/-- Reads a block scalar in a block that is indented as given. -/
def scanBlockScalar (blockIndent : Int) : Scan Token := fun c => do
  let folded := c.peek == '>'
  let ((chomping, increment), after) ← scanBlockHeader c.next
  let least := (max 1 (blockIndent + 1)).toNat
  let fuel := after.left + 1
  let (breaks, indent, after) :=
    match increment with
    | some n =>
      let indent := least + n - 1
      let (breaks, after) := scanBlockBreaks indent fuel after
      (breaks, indent, after)
    | none =>
      let (breaks, widest, after) := scanIndentation fuel 0 after
      (breaks, max least widest, after)
  let (text, lineEnd, lastBreaks, after) :=
    if after.column = indent ∧ after.peek ≠ endMark then
      let (text, lineEnd, lastBreaks, last) := scanBlockLines folded indent fuel after
      (breaks ++ text, lineEnd, lastBreaks, last)
    else ([], [], breaks, after)
  let ending := match chomping with
    | .strip => []
    | .clip => lineEnd
    | .keep => lineEnd ++ lastBreaks
  return (.scalar (String.ofList (text ++ ending)) false, after)

/-! ## Plain scalars -/

/-- Whether a plain scalar stops at the place, inside a flow collection or outside. -/
def stopsPlain (inFlow : Bool) (c : Cursor) : Bool :=
  let ch := c.peek
  let following := c.peekAt 1
  endsToken ch ||
    (ch == ':' &&
      (endsToken following || (inFlow && ",[]\x7b\x7d".toList.contains following))) ||
    (inFlow && ",?[]\x7b\x7d".toList.contains ch)

/-- Reads a run of a plain scalar. -/
def scanPlainRun (inFlow : Bool) : (fuel : Nat) → Cursor → List Char × Cursor
  | 0, c => ([], c)
  | fuel + 1, c =>
    if stopsPlain inFlow c then ([], c)
    else
      let (run, last) := scanPlainRun inFlow fuel c.next
      (c.peek :: run, last)

/-- What stands between two runs of a plain scalar. -/
structure PlainGap where
  /-- What the gap reads as, empty when the scalar ends here. -/
  text : List Char
  /-- Whether the gap reaches into another line, where a key may begin. -/
  crossesLine : Bool

/-- Reads the blanks and empty lines that follow a line break, or nothing when a mark of a document
comes. -/
def scanPlainBreaks : (fuel : Nat) → Cursor → Option (List Char) × Cursor
  | 0, c => (some [], c)
  | fuel + 1, c =>
    if c.peek = ' ' then scanPlainBreaks fuel c.next
    else
      match c.lineBreak? with
      | none => (some [], c)
      | some (ch, after) =>
        if after.atDocumentMark then (none, after)
        else
          let (breaks, last) := scanPlainBreaks fuel after
          (breaks.map (ch :: ·), last)

/-- Reads what stands between two runs of a plain scalar. -/
def scanPlainGap (fuel : Nat) (c : Cursor) : PlainGap × Cursor :=
  let (blanks, after) := c.takeWhile (· == ' ')
  match after.lineBreak? with
  | none => (⟨blanks, false⟩, after)
  | some (first, after) =>
    if after.atDocumentMark then (⟨[], true⟩, after)
    else
      match scanPlainBreaks fuel after with
      | (none, last) => (⟨[], true⟩, last)
      | (some breaks, last) => (⟨foldBreak first breaks, true⟩, last)

/-- Reads the runs of a plain scalar, which has to stay indented outside a flow collection. The
flag of the result tells whether the scalar ended by going into another line. -/
def scanPlainRuns (inFlow : Bool) (indent : Int) :
    (fuel : Nat) → (crossed : Bool) → Cursor → List Char × Bool × Cursor
  | 0, crossed, c => ([], crossed, c)
  | fuel + 1, crossed, c =>
    if c.peek = '#' then ([], crossed, c)
    else
      let (run, after) := scanPlainRun inFlow (fuel + 1) c
      if run.isEmpty then ([], crossed, c)
      else
        let (gap, next) := scanPlainGap (fuel + 1) after
        if gap.text.isEmpty ∨ next.peek = '#' ∨ (!inFlow ∧ (next.column : Int) < indent) then
          (run, gap.crossesLine, next)
        else
          let (rest, crossed, last) := scanPlainRuns inFlow indent fuel gap.crossesLine next
          (if rest.isEmpty then (run, crossed, last) else (run ++ gap.text ++ rest, crossed, last))

/-- Reads a plain scalar in a block that is indented as given. -/
def scanPlain (inFlow : Bool) (blockIndent : Int) (c : Cursor) : Token × Bool × Cursor :=
  let (text, crossed, after) :=
    scanPlainRuns inFlow (blockIndent + 1) (c.left + 1) false c
  (.scalar (String.ofList text) true, crossed, after)

end Token

end FormRouting.Yaml
