import FormRouting.Yaml.Token

/-!
# Tokenization

The tokens of a whole document. Indentation opens and closes blocks, and a key need not be marked:
what turns out to be followed by a colon was a key, and its tokens are then put in front of it. Such
a key stays on one line and within 1024 characters.
-/

namespace FormRouting.Yaml

/-- A place where an unmarked key may have begun. -/
structure KeyPlace where
  /-- How many tokens came before it. -/
  position : Nat
  /-- Whether nothing but a key may stand there. -/
  required : Bool
  index : Nat
  line : Nat
  column : Nat

/-- How far the tokenization of a document has come. -/
structure Progress where
  cursor : Cursor
  /-- How many flow collections are open. -/
  flowLevel : Nat
  /-- The column of the innermost open block, and those of the blocks around it. -/
  indent : Int
  outerIndents : List Int
  /-- Whether an unmarked key may begin here. -/
  keyAllowed : Bool
  /-- The places where keys may have begun, by flow level. -/
  keyPlaces : List (Nat × KeyPlace)
  /-- The tokens found, the newest first. -/
  tokens : List Token
  /-- How many tokens were found. -/
  count : Nat

namespace Progress

/-- The longest unmarked key. -/
def keyLength : Nat := 1024

def start (cs : List Char) : Progress :=
  ⟨.start cs, 0, -1, [], true, [], [], 0⟩

def inFlow (p : Progress) : Bool :=
  p.flowLevel != 0

def add (p : Progress) (t : Token) : Progress :=
  { p with tokens := t :: p.tokens, count := p.count + 1 }

/-- Puts tokens behind the first `position` ones. -/
def insertAt (p : Progress) (position : Nat) (ts : List Token) : Progress :=
  let later := p.count - position
  { p with
    tokens := p.tokens.take later ++ ts.reverse ++ p.tokens.drop later
    count := p.count + ts.length }

/-- The key place on the current flow level. -/
def keyPlace? (p : Progress) : Option KeyPlace :=
  (p.keyPlaces.find? (·.1 == p.flowLevel)).map (·.2)

/-- The progress without the key place on the current flow level. -/
def forgetKeyPlace (p : Progress) : Progress :=
  { p with keyPlaces := p.keyPlaces.filter (·.1 != p.flowLevel) }

/-- Gives up the key place on the current flow level; one that was required must not be given up. -/
def dropKeyPlace (p : Progress) : Except Fault Progress :=
  match p.keyPlace? with
  | some k => if k.required then .error .malformed else .ok p.forgetKeyPlace
  | none => .ok p

/-- Notes that a key may begin here. -/
def noteKeyPlace (p : Progress) : Except Fault Progress :=
  if p.keyAllowed then do
    let p ← p.dropKeyPlace
    let place : KeyPlace := {
      position := p.count
      required := !p.inFlow && p.indent == p.cursor.column
      index := p.cursor.index
      line := p.cursor.line
      column := p.cursor.column }
    return { p with keyPlaces := (p.flowLevel, place) :: p.keyPlaces }
  else .ok p

/-- Gives up the key places that have been passed. -/
def dropPassedKeyPlaces (p : Progress) : Except Fault Progress :=
  let passed (k : KeyPlace) : Bool :=
    k.line != p.cursor.line || keyLength < p.cursor.index - k.index
  if p.keyPlaces.any fun e => passed e.2 && e.2.required then .error .malformed
  else .ok { p with keyPlaces := p.keyPlaces.filter fun e => !passed e.2 }

/-- Closes the blocks that are indented further than a column. -/
def closeBlocks (column : Int) : (outers : List Int) → Progress → Progress
  | [], p => p
  | outer :: rest, p =>
    if column < p.indent then
      closeBlocks column rest { p.add .blockEnd with indent := outer, outerIndents := rest }
    else p

/-- Closes the blocks that end at a column; inside a flow collection indentation does not count. -/
def unwind (p : Progress) (column : Int) : Progress :=
  if p.inFlow then p else closeBlocks column p.outerIndents p

/-- Opens a block at a column, if it is indented further than the innermost one. -/
def openBlock? (p : Progress) (column : Nat) : Option Progress :=
  if p.indent < column then
    some { p with indent := column, outerIndents := p.indent :: p.outerIndents }
  else none

/-- Steps over some characters. -/
def advance (p : Progress) (n : Nat) : Progress :=
  { p with cursor := p.cursor.skip n }

/-- Goes to the next token, over blanks, comments and line ends. Outside a flow collection a key may
begin on a new line. -/
def toNextToken : (fuel : Nat) → Progress → Progress
  | 0, p => p
  | fuel + 1, p =>
    let c := p.cursor.skipBlanks.skipComment
    match c.lineBreak? with
    | some (_, after) =>
      toNextToken fuel { p with cursor := after, keyAllowed := p.keyAllowed || !p.inFlow }
    | none => { p with cursor := c }

/-- Ends what was open before a directive, a mark of a document or the end. -/
def closeAll (p : Progress) : Except Fault Progress := do
  let p ← (p.unwind (-1)).dropKeyPlace
  return { p with keyAllowed := false }

/-- Takes a token that a scan reads at the cursor. -/
def take (p : Progress) (scan : Token.Scan Token) : Except Fault Progress := do
  let (t, after) ← scan p.cursor
  return { p.add t with cursor := after }

/-- Takes a mark of a document. -/
def takeDocumentMark (p : Progress) (t : Token) : Except Fault Progress := do
  return ((← p.closeAll).add t).advance 3

/-- Takes the start of a flow collection, which may itself be a key. -/
def takeFlowStart (p : Progress) (t : Token) : Except Fault Progress := do
  let p ← p.noteKeyPlace
  return { (p.add t).advance 1 with flowLevel := p.flowLevel + 1, keyAllowed := true }

/-- Takes the end of a flow collection. -/
def takeFlowEnd (p : Progress) (t : Token) : Except Fault Progress := do
  Token.need p.inFlow
  let p ← p.dropKeyPlace
  return { (p.add t).advance 1 with flowLevel := p.flowLevel - 1, keyAllowed := false }

/-- Takes a comma. -/
def takeFlowEntry (p : Progress) : Except Fault Progress := do
  let p ← p.dropKeyPlace
  return { (p.add .flowEntry).advance 1 with keyAllowed := true }

/-- Opens a block of the given kind at the cursor, where it may begin, if there is need of one. -/
def beginBlock (p : Progress) (t : Token) : Except Fault Progress := do
  if p.inFlow then return p
  Token.need p.keyAllowed
  match p.openBlock? p.cursor.column with
  | some p => return p.add t
  | none => return p

/-- Takes the hyphen of a sequence entry. -/
def takeBlockEntry (p : Progress) : Except Fault Progress := do
  let p ← (← p.beginBlock .blockSequenceStart).dropKeyPlace
  return { (p.add .blockEntry).advance 1 with keyAllowed := true }

/-- Takes the question mark of a key. -/
def takeKey (p : Progress) : Except Fault Progress := do
  let p ← (← p.beginBlock .blockMappingStart).dropKeyPlace
  return { (p.add .key).advance 1 with keyAllowed := !p.inFlow }

/-- Takes the colon of a value. Where a key may have begun, it has. -/
def takeValue (p : Progress) : Except Fault Progress := do
  match p.keyPlace? with
  | some k =>
    let p := p.forgetKeyPlace
    let p := match (if p.inFlow then none else p.openBlock? k.column) with
      | some q => q.insertAt k.position [.blockMappingStart, .key]
      | none => p.insertAt k.position [.key]
    return { (p.add .value).advance 1 with keyAllowed := false }
  | none =>
    let p ← (← p.beginBlock .blockMappingStart).dropKeyPlace
    return { (p.add .value).advance 1 with keyAllowed := !p.inFlow }

/-- Takes a token that may be a key or stand in front of one. -/
def takeInline (p : Progress) (scan : Token.Scan Token) : Except Fault Progress := do
  let p ← p.noteKeyPlace
  { p with keyAllowed := false }.take scan

/-- Takes the name after an anchor's or an alias's mark. -/
def takeName (p : Progress) (token : String → Token) : Except Fault Progress :=
  p.takeInline fun c => do
    let (name, after) ← Token.scanName c
    return (token name, after)

/-- Takes a block scalar, after which a key may begin. -/
def takeBlockScalar (p : Progress) : Except Fault Progress := do
  let p ← p.dropKeyPlace
  { p with keyAllowed := true }.take (Token.scanBlockScalar p.indent)

/-- Takes a plain scalar. -/
def takePlain (p : Progress) : Except Fault Progress := do
  let p ← p.noteKeyPlace
  let (t, crossed, after) := Token.scanPlain p.inFlow p.indent p.cursor
  return { p.add t with cursor := after, keyAllowed := crossed }

/-- Whether a plain scalar begins at the cursor. -/
def startsPlain (p : Progress) : Bool :=
  let ch := p.cursor.peek
  (!endsToken ch && !"-?:,[]\x7b\x7d#&*!|>'\"%@\x60".toList.contains ch) ||
    (!endsToken (p.cursor.peekAt 1) && (ch == '-' || (!p.inFlow && (ch == '?' || ch == ':'))))

/-- Takes the token at the cursor. -/
def takeToken (p : Progress) : Except Fault Progress :=
  let c := p.cursor
  let ch := c.peek
  let standsAlone := endsToken (c.peekAt 1)
  if ch = '%' ∧ c.column = 0 then do (← p.closeAll).take Token.scanDirective
  else if c.column = 0 ∧ c.atDocumentMark then
    p.takeDocumentMark (if ch = '-' then .documentStart else .documentEnd)
  else if ch = '[' then p.takeFlowStart .flowSequenceStart
  else if ch = '\x7b' then p.takeFlowStart .flowMappingStart
  else if ch = ']' then p.takeFlowEnd .flowSequenceEnd
  else if ch = '\x7d' then p.takeFlowEnd .flowMappingEnd
  else if ch = ',' then p.takeFlowEntry
  else if ch = '-' ∧ standsAlone then p.takeBlockEntry
  else if ch = '?' ∧ (p.inFlow ∨ standsAlone) then p.takeKey
  else if ch = ':' ∧ (p.inFlow ∨ standsAlone) then p.takeValue
  else if ch = '*' then p.takeName .alias
  else if ch = '&' then p.takeName .anchor
  else if ch = '!' then p.takeInline Token.scanTag
  else if (ch = '|' ∨ ch = '>') ∧ !p.inFlow then p.takeBlockScalar
  else if ch = '\'' ∨ ch = '"' then p.takeInline Token.scanQuoted
  else if p.startsPlain then p.takePlain
  else .error .malformed

/-- Takes all tokens. Every round takes at least one character. -/
def takeAll : (fuel : Nat) → Progress → Except Fault Progress
  | 0, _ => .error .malformed
  | fuel + 1, p => do
    let p := toNextToken (p.cursor.left + 1) p
    let p ← p.dropPassedKeyPlaces
    let p := p.unwind p.cursor.column
    if p.cursor.peek = endMark then p.closeAll
    else takeAll fuel (← p.takeToken)

end Progress

/-- The tokens of a document. A byte order mark at its beginning is passed over. -/
def Token.ofChars (cs : List Char) : Except Fault (List Token) := do
  let p := Progress.start cs
  let p := if p.cursor.peek = '\uFEFF' then p.advance 1 else p
  return (← p.takeAll (cs.length + 1)).tokens.reverse

end FormRouting.Yaml
