import FormRouting.Yaml.Tag
import FormRouting.Yaml.Tokenization

/-!
# Nodes

The tree of a document: scalars, sequences and mappings, each with its tag. Tokens are composed into
nodes; an alias stands for the node that its anchor names, and a file holds one document.
-/

namespace FormRouting.Yaml

/-- A node of a document. -/
inductive Node where
  | scalar (tag : Tag) (text : String)
  | sequence (tag : Tag) (items : List Node)
  | mapping (tag : Tag) (entries : List (Node × Node))

namespace Node

/-- The node where none is written. -/
def absent : Node := .scalar .null ""

def tag : Node → Tag
  | .scalar tag _ | .sequence tag _ | .mapping tag _ => tag

def withTag (tag : Tag) : Node → Node
  | .scalar _ text => .scalar tag text
  | .sequence _ items => .sequence tag items
  | .mapping _ entries => .mapping tag entries

/-! ## Properties -/

/-- What the handles of tags stand for. -/
abbrev Handles := List (String × String)

/-- The handles of every document. -/
def defaultHandles : Handles := [("!", "!"), ("!!", Tag.standardStem)]

/-- What may be written in front of a node. -/
structure Properties where
  anchor : Option String
  tag : Option String

namespace Properties

/-- Reads an anchor, if there is one. -/
def readAnchor : List Token → Option String × List Token
  | .anchor name :: rest => (some name, rest)
  | tokens => (none, tokens)

/-- Reads a tag, if there is one. -/
def readTag (handles : Handles) : List Token → Except Fault (Option String × List Token)
  | .tag none suffix :: rest => .ok (some suffix, rest)
  | .tag (some handle) suffix :: rest =>
    match handles.lookup handle with
    | some expansion => .ok (some (expansion ++ suffix), rest)
    | none => .error .malformed
  | tokens => .ok (none, tokens)

/-- Reads an anchor and a tag, in either order. -/
def read (handles : Handles) (tokens : List Token) : Except Fault (Properties × List Token) :=
  match readAnchor tokens with
  | (some anchor, rest) => do
    let (tag, rest) ← readTag handles rest
    return (⟨some anchor, tag⟩, rest)
  | (none, rest) => do
    let (tag, rest) ← readTag handles rest
    if tag.isNone then return (⟨none, none⟩, rest)
    let (anchor, rest) := readAnchor rest
    return (⟨anchor, tag⟩, rest)

/-- Whether nothing was written. -/
def isEmpty (p : Properties) : Bool :=
  p.anchor.isNone && p.tag.isNone

/-- The tag of a collection, which has a tag of its own unless another is written. -/
def collectionTag (p : Properties) (usual : Tag) : Tag :=
  match p.tag with
  | none | some "!" => usual
  | some name => Tag.ofName name

/-- The tag of a scalar: the written one, or the one that a plain scalar is recognised as. -/
def scalarTag (p : Properties) (text : String) (plain : Bool) : Tag :=
  match p.tag with
  | none => if plain then Tag.ofPlain text else .text
  | some "!" => Tag.ofPlain text
  | some name => Tag.ofName name

end Properties

/-! ## Composition -/

/-- How far the composition of a document has come: the tokens that are left, and the nodes that
have an anchor, the newest first. -/
structure Composition where
  tokens : List Token
  anchors : List (String × Node)

/-- What is composed from the tokens in front. -/
abbrev Compose (α : Type) := Composition → Except Fault (α × Composition)

namespace Composition

/-- Notes a node under its anchor, if it has one. -/
def note (c : Composition) (p : Properties) (node : Node) : Composition :=
  match p.anchor with
  | some name => { c with anchors := (name, node) :: c.anchors }
  | none => c

/-- Whether the next token is of the given ones. -/
def startsWith (c : Composition) (stops : Token → Bool) : Bool :=
  (c.tokens.head?.map stops).getD false

/-- Steps over the next token, which has to be the given one. -/
def expect (t : Token) (c : Composition) : Except Fault Composition :=
  match c.tokens with
  | u :: rest => if u = t then .ok { c with tokens := rest } else .error .malformed
  | [] => .error .malformed

end Composition

/-- Where a node stands, which decides what it may be. -/
inductive Place where
  /-- Inside a flow collection, which holds no block. -/
  | flow
  | block
  /-- At a key or a value of a block mapping. A sequence needs no indentation of its own there. -/
  | entry
deriving DecidableEq, Repr

/-- The tokens before which the node of an entry of a block sequence is absent. -/
def endsBlockItem (t : Token) : Bool :=
  t == .blockEntry || t == .blockEnd

/-- The tokens before which a key or a value in a block mapping is absent. -/
def endsBlockEntry (t : Token) : Bool :=
  t == .key || t == .value || t == .blockEnd

/-- The tokens before which the node of an entry of a sequence without its own indentation is
absent. -/
def endsHangingItem (t : Token) : Bool :=
  t == .blockEntry || endsBlockEntry t

/-- The tokens before which a value in a flow collection is absent. -/
def endsFlowValue (t : Token) : Bool :=
  t == .flowEntry || t == .flowSequenceEnd || t == .flowMappingEnd

/-- The tokens before which a marked key in a flow collection is absent. -/
def endsFlowKey (t : Token) : Bool :=
  t == .value || endsFlowValue t

mutual

/-- Composes a node. A collection is noted under its anchor when it begins, still empty, so that it
can be named inside itself. -/
def readNode (handles : Handles) : (fuel : Nat) → Place → Compose Node
  | 0, _, _ => .error .malformed
  | fuel + 1, place, c =>
    match c.tokens with
    | .alias name :: rest =>
      match c.anchors.lookup name with
      | some node => .ok (node, { c with tokens := rest })
      | none => .error .malformed
    | tokens => do
      let (p, tokens) ← Properties.read handles tokens
      Token.need (p.anchor.bind fun name => c.anchors.lookup name).isNone
      let sequenceTag := p.collectionTag .sequence
      let mappingTag := p.collectionTag .mapping
      match tokens with
      | .scalar text plain :: rest =>
        let node := .scalar (p.scalarTag text plain) text
        return (node, { c with tokens := rest }.note p node)
      | .flowSequenceStart :: rest => do
        let begun := { c with tokens := rest }.note p (.sequence sequenceTag [])
        let (items, c) ← readFlowItems handles fuel true begun
        let node := .sequence sequenceTag items
        return (node, c.note p node)
      | .flowMappingStart :: rest => do
        let begun := { c with tokens := rest }.note p (.mapping mappingTag [])
        let (entries, c) ← readFlowEntries handles fuel true begun
        let node := .mapping mappingTag entries
        return (node, c.note p node)
      | .blockSequenceStart :: rest => do
        Token.need (place != .flow)
        let begun := { c with tokens := rest }.note p (.sequence sequenceTag [])
        let (items, c) ← readBlockItems handles fuel begun
        let node := .sequence sequenceTag items
        return (node, c.note p node)
      | .blockMappingStart :: rest => do
        Token.need (place != .flow)
        let begun := { c with tokens := rest }.note p (.mapping mappingTag [])
        let (entries, c) ← readBlockEntries handles fuel begun
        let node := .mapping mappingTag entries
        return (node, c.note p node)
      | tokens =>
        if place = .entry ∧ tokens.head? = some .blockEntry then do
          let begun := { c with tokens := tokens }.note p (.sequence sequenceTag [])
          let (items, c) ← readHangingItems handles fuel begun
          let node := .sequence sequenceTag items
          return (node, c.note p node)
        else do
          Token.need !p.isEmpty
          let node := .scalar (p.scalarTag "" true) ""
          return (node, { c with tokens := tokens }.note p node)

/-- Composes a node, unless a token comes before which it is absent. -/
def readOptional (handles : Handles) (stops : Token → Bool) :
    (fuel : Nat) → Place → Compose Node
  | 0, _, _ => .error .malformed
  | fuel + 1, place, c =>
    if c.startsWith stops then .ok (.absent, c) else readNode handles fuel place c

/-- Composes a value with its mark, which is absent without its mark. -/
def readValue (handles : Handles) (stops : Token → Bool) : (fuel : Nat) → Place → Compose Node
  | 0, _, _ => .error .malformed
  | fuel + 1, place, c =>
    match c.tokens with
    | .value :: rest => readOptional handles stops fuel place { c with tokens := rest }
    | _ => .ok (.absent, c)

/-- Composes the items of a block sequence up to its end. -/
def readBlockItems (handles : Handles) : (fuel : Nat) → Compose (List Node)
  | 0, _ => .error .malformed
  | fuel + 1, c =>
    match c.tokens with
    | .blockEntry :: rest => do
      let (item, c) ← readOptional handles endsBlockItem fuel .block { c with tokens := rest }
      let (items, c) ← readBlockItems handles fuel c
      return (item :: items, c)
    | .blockEnd :: rest => .ok ([], { c with tokens := rest })
    | _ => .error .malformed

/-- Composes the items of a sequence that has no indentation of its own. -/
def readHangingItems (handles : Handles) : (fuel : Nat) → Compose (List Node)
  | 0, _ => .error .malformed
  | fuel + 1, c =>
    match c.tokens with
    | .blockEntry :: rest => do
      let (item, c) ← readOptional handles endsHangingItem fuel .block { c with tokens := rest }
      let (items, c) ← readHangingItems handles fuel c
      return (item :: items, c)
    | _ => .ok ([], c)

/-- Composes the entries of a block mapping up to its end. -/
def readBlockEntries (handles : Handles) : (fuel : Nat) → Compose (List (Node × Node))
  | 0, _ => .error .malformed
  | fuel + 1, c =>
    match c.tokens with
    | .key :: rest => do
      let (key, c) ← readOptional handles endsBlockEntry fuel .entry { c with tokens := rest }
      let (value, c) ← readValue handles endsBlockEntry fuel .entry c
      let (entries, c) ← readBlockEntries handles fuel c
      return ((key, value) :: entries, c)
    | .blockEnd :: rest => .ok ([], { c with tokens := rest })
    | _ => .error .malformed

/-- Composes the items of a flow sequence up to its end. An item may be a lone entry of a mapping. -/
def readFlowItems (handles : Handles) : (fuel : Nat) → (first : Bool) → Compose (List Node)
  | 0, _, _ => .error .malformed
  | fuel + 1, first, c => do
    if c.startsWith (· == .flowSequenceEnd) then return ([], ← c.expect .flowSequenceEnd)
    let c ← if first then pure c else c.expect .flowEntry
    match c.tokens with
    | .flowSequenceEnd :: rest => return ([], { c with tokens := rest })
    | .key :: rest => do
      let (key, c) ← readOptional handles endsFlowKey fuel .flow { c with tokens := rest }
      let (value, c) ← readValue handles endsFlowValue fuel .flow c
      let (items, c) ← readFlowItems handles fuel false c
      return (.mapping .mapping [(key, value)] :: items, c)
    | _ => do
      let (item, c) ← readNode handles fuel .flow c
      let (items, c) ← readFlowItems handles fuel false c
      return (item :: items, c)

/-- Composes the entries of a flow mapping up to its end. A node without a mark is a key with an
absent value. -/
def readFlowEntries (handles : Handles) :
    (fuel : Nat) → (first : Bool) → Compose (List (Node × Node))
  | 0, _, _ => .error .malformed
  | fuel + 1, first, c => do
    if c.startsWith (· == .flowMappingEnd) then return ([], ← c.expect .flowMappingEnd)
    let c ← if first then pure c else c.expect .flowEntry
    match c.tokens with
    | .flowMappingEnd :: rest => return ([], { c with tokens := rest })
    | .key :: rest => do
      let (key, c) ← readOptional handles endsFlowKey fuel .flow { c with tokens := rest }
      let (value, c) ← readValue handles endsFlowValue fuel .flow c
      let (entries, c) ← readFlowEntries handles fuel false c
      return ((key, value) :: entries, c)
    | _ => do
      let (key, c) ← readNode handles fuel .flow c
      let (entries, c) ← readFlowEntries handles fuel false c
      return ((key, .absent) :: entries, c)

end

/-! ## Documents -/

/-- Reads the directives in front of a document. The version is given once and is 1 at its head; a
handle is given once. -/
def readDirectives : (versionSeen : Bool) → (handles : Handles) → List Token →
    Except Fault (Handles × List Token)
  | versionSeen, handles, .directive d :: rest =>
    match d with
    | .version major _ =>
      if versionSeen ∨ major ≠ 1 then .error .malformed else readDirectives true handles rest
    | .handle handle expansion =>
      if (handles.lookup handle).isSome then .error .malformed
      else readDirectives versionSeen ((handle, expansion) :: handles) rest
    | .other => readDirectives versionSeen handles rest
  | _, handles, tokens => .ok (handles ++ defaultHandles, tokens)

/-- The tokens before which a document with a start mark is absent. -/
def endsDocument : Token → Bool
  | .directive _ | .documentStart | .documentEnd => true
  | _ => false

/-- Composes the node of a document and goes on to the end, where nothing else may stand. -/
def ofDocument (handles : Handles) (tokens : List Token) : Except Fault Node := do
  let (node, c) ← readNode handles (3 * tokens.length + 3) .block ⟨tokens, []⟩
  Token.need (c.tokens.all (· == .documentEnd))
  return node

/-- The node of the document that tokens make up; there may be none at all. -/
def ofTokens? (tokens : List Token) : Except Fault (Option Node) :=
  match tokens with
  | [] => .ok none
  | .directive _ :: _ | .documentStart :: _ => do
    let (handles, rest) ← readDirectives false [] tokens
    match rest with
    | .documentStart :: content =>
      if (content.head?.map endsDocument).getD true then do
        Token.need (content.all (· == .documentEnd))
        return some .absent
      else return some (← ofDocument handles content)
    | _ => .error .malformed
  | _ => return some (← ofDocument defaultHandles tokens)

end Node

end FormRouting.Yaml
