import FormRouting.Text.Lines
import FormRouting.Text.Space

/-!
# Files of settings

A file of settings has a name and a value on each line. A value may stand in quotes, where it may
hold escapes and go over several lines, and it may refer to other settings. A line that is not well
formed is passed over.
-/

namespace FormRouting

namespace Dotenv

/-- The characters up to the end of the line, and the rest from there. -/
def splitLine (cs : List Char) : List Char × List Char :=
  let inLine (c : Char) : Bool := c != '\n' && c != '\r'
  (cs.takeWhile inLine, cs.dropWhile inLine)

/-- The rest after the end of a line. -/
def dropLineEnd : List Char → List Char
  | '\r' :: '\n' :: rest => rest
  | '\n' :: rest => rest
  | '\r' :: rest => rest
  | cs => cs

/-- The rest after the current line. -/
def dropLine (cs : List Char) : List Char :=
  dropLineEnd (splitLine cs).2

/-- The rest after a word that marks a setting for export. -/
def dropExport (cs : List Char) : List Char :=
  let word := "export".toList
  if word.isPrefixOf cs then
    let after := cs.drop word.length
    if (after.head?.map isInlineSpace).getD false then after.dropWhile isInlineSpace else cs
  else cs

/-- Reads a name: in single quotes, or up to space, an equals sign or a comment. A comment has no
name. -/
def name? (cs : List Char) : Option (Option String × List Char) :=
  match cs with
  | '#' :: _ => some (none, cs)
  | '\'' :: rest =>
    let name := rest.takeWhile (· != '\'')
    match rest.dropWhile (· != '\'') with
    | _ :: after => if name.isEmpty then none else some (some (String.ofList name), after)
    | [] => none
  | cs =>
    let isNameChar (c : Char) : Bool := c != '=' && c != '#' && !isSpace c
    let name := cs.takeWhile isNameChar
    if name.isEmpty then none else some (some (String.ofList name), cs.dropWhile isNameChar)

/-- The characters up to the closing quote, and the rest after it. A quote behind a backslash closes
only if no other one does. -/
def quoted? (quote : Char) : List Char → Option (List Char × List Char)
  | [] => none
  | '\\' :: c :: rest =>
    if c = quote then
      match quoted? quote rest with
      | some (body, after) => some ('\\' :: c :: body, after)
      | none => some (['\\'], rest)
    else (quoted? quote (c :: rest)).map fun r => ('\\' :: r.1, r.2)
  | c :: rest =>
    if c = quote then some ([], rest)
    else (quoted? quote rest).map fun r => (c :: r.1, r.2)

/-- The character that a letter behind a backslash stands for. -/
def escape? (inDouble : Bool) (c : Char) : Option Char :=
  match c with
  | '\\' => some '\\'
  | '\'' => some '\''
  | '"' => if inDouble then some '"' else none
  | 'a' => if inDouble then some '\x07' else none
  | 'b' => if inDouble then some '\x08' else none
  | 'f' => if inDouble then some '\x0c' else none
  | 'n' => if inDouble then some '\n' else none
  | 'r' => if inDouble then some '\r' else none
  | 't' => if inDouble then some '\t' else none
  | 'v' => if inDouble then some '\x0b' else none
  | _ => none

/-- The text with its escapes replaced. -/
def unescape (inDouble : Bool) : List Char → List Char
  | '\\' :: c :: rest =>
    match escape? inDouble c with
    | some e => e :: unescape inDouble rest
    | none => '\\' :: unescape inDouble (c :: rest)
  | c :: rest => c :: unescape inDouble rest
  | [] => []

/-- A bare value without the comment that follows it after space. -/
def dropComment : List Char → List Char
  | [] => []
  | c :: rest =>
    if isSpace c ∧ (rest.dropWhile isSpace).head? = some '#' then []
    else c :: dropComment rest

/-- Reads a value. -/
def value? (cs : List Char) : Option (List Char × List Char) :=
  match cs with
  | '\'' :: rest => (quoted? '\'' rest).map fun r => (unescape false r.1, r.2)
  | '"' :: rest => (quoted? '"' rest).map fun r => (unescape true r.1, r.2)
  | cs =>
    let (line, rest) := splitLine cs
    some (dropSpaceRight (dropComment line), rest)

/-- The rest after a comment and the end of the line, if nothing else is there. -/
def finish? (cs : List Char) : Option (List Char) :=
  let after := cs.dropWhile isInlineSpace
  let after := if after.head? = some '#' then (splitLine after).2 else after
  match after with
  | [] => some []
  | '\n' :: _ | '\r' :: _ => some (dropLineEnd after)
  | _ => none

/-- A setting as it is written: a name, and perhaps a value. -/
abbrev Setting := String × Option (List Char)

/-- Reads a setting and the end of its line. The result is the setting, if there is one, and the rest
after the line. -/
def setting (cs : List Char) : Option Setting × List Char :=
  let start := dropExport cs
  match name? start with
  | none => (none, dropLine start)
  | some (name, rest) =>
    let after := rest.dropWhile isInlineSpace
    let valued : Option (Option (List Char) × List Char) :=
      match after with
      | '=' :: rest =>
        (value? (rest.dropWhile isInlineSpace)).map fun r => (some r.1, r.2)
      | _ => some (none, after)
    match valued with
    | none => (none, dropLine (after.drop 1))
    | some (value, rest) =>
      match finish? rest with
      | some last => (name.map (·, value), last)
      | none => (none, dropLine rest)

/-- Reads all settings. Every round takes at least one character. -/
def settings : (fuel : Nat) → List Char → List Setting
  | 0, _ => []
  | fuel + 1, cs =>
    match cs.dropWhile isSpace with
    | [] => []
    | cs =>
      match setting cs with
      | (some s, rest) => s :: settings fuel rest
      | (none, rest) => settings fuel rest

/-! ## References -/

/-- Settings with their values; a setting may have none. -/
abbrev Values := List (String × Option String)

/-- Puts a setting; one that is there already keeps its place. -/
def put (name : String) (value : Option String) : Values → Values
  | [] => [(name, value)]
  | e :: rest => if e.1 = name then (name, value) :: rest else e :: put name value rest

/-- Reads a reference behind its dollar sign: a name in braces, and perhaps a value in its place. -/
def reference? (cs : List Char) : Option (String × String × List Char) :=
  match cs with
  | '\x7b' :: rest =>
    let name := rest.takeWhile fun c => c != '\x7d' && c != ':'
    match rest.drop name.length with
    | '\x7d' :: after => some (String.ofList name, "", after)
    | ':' :: '-' :: rest =>
      let other := rest.takeWhile (· != '\x7d')
      match rest.drop other.length with
      | _ :: after => some (String.ofList name, String.ofList other, after)
      | [] => none
    | _ => none
  | _ => none

/-- The text that a reference stands for. -/
def resolve (known : Values) (name other : String) : String :=
  match known.lookup name with
  | some value => value.getD ""
  | none => other

/-- The text with its references replaced. -/
def expand (known : Values) : (fuel : Nat) → List Char → List Char
  | 0, cs => cs
  | _ + 1, [] => []
  | fuel + 1, c :: rest =>
    match if c = '$' then reference? rest else none with
    | some (name, other, after) => (resolve known name other).toList ++ expand known fuel after
    | none => c :: expand known fuel rest

/-- Replaces the references in settings. A reference means an earlier setting of the file, or else
one of the environment. -/
def expandAll (environment : Values) : (done : Values) → List Setting → Values
  | done, [] => done
  | done, (name, value) :: rest =>
    let known := done ++ environment
    let expanded := value.map fun cs => String.ofList (expand known (cs.length + 1) cs)
    expandAll environment (put name expanded done) rest

/-- The settings of a file. -/
def read (environment : Values) (text : String) : Values :=
  let cs := unifyLineEnds text.toList
  expandAll environment [] (settings (cs.length + 1) cs)

end Dotenv

end FormRouting
