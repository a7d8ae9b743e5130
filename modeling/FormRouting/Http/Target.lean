import FormRouting.Text.Digit
import FormRouting.Text.Utf8

/-!
# Request targets

The path that a request goes to. Its written form leaves out what follows a question mark or a
number sign, resolves segments that go up, and may hold characters as hexadecimal bytes after
percent signs. A path is decoded twice on its way, once where the request is written and once where
it is taken in.
-/

namespace FormRouting

namespace Target

/-- The byte that two characters name. -/
def byte? (a b : Char) : Option UInt8 :=
  match hexDigitValue? a, hexDigitValue? b with
  | some m, some n => some (UInt8.ofNat (16 * m + n))
  | _, _ => none

/-- The bytes of a text with those that are written after percent signs. -/
def bytes : List Char → List UInt8
  | [] => []
  | [c] => Utf8.encode [c]
  | [c, d] => Utf8.encode [c, d]
  | c :: a :: b :: rest =>
    match if c = '%' then byte? a b else none with
    | some byte => byte :: bytes rest
    | none => Utf8.encode [c] ++ bytes (a :: b :: rest)

/-- The text with the bytes after percent signs replaced. -/
def decode (cs : List Char) : List Char :=
  Utf8.decode (bytes cs)

/-- The parts of a path between its slashes. -/
def segments : List Char → List (List Char)
  | [] => [[]]
  | c :: rest =>
    if c = '/' then [] :: segments rest
    else
      match segments rest with
      | part :: parts => (c :: part) :: parts
      | [] => [[c]]

/-- A path from its parts. -/
def joined : List (List Char) → List Char
  | [] => []
  | [part] => part
  | part :: parts => part ++ '/' :: joined parts

/-- Takes one part of a path: a dot stays, two dots go up, though not above the root. The parts that
have been taken are the last first. -/
def climb (taken : List (List Char)) (part : List Char) : List (List Char) :=
  if part = ['.'] then taken
  else if part = ['.', '.'] then (if taken = [[]] then taken else taken.drop 1)
  else part :: taken

/-- The path with the segments resolved that stay or go up. -/
def resolve (path : List Char) : List Char :=
  joined ((segments path).foldl climb []).reverse

/-- The path as it is written in a target. -/
def written (target : List Char) : List Char :=
  let path := target.takeWhile fun c => c != '?' && c != '#'
  '/' :: path.dropWhile (· == '/')

/-- The path that a target names. -/
def path (target : String) : String :=
  String.ofList (decode (decode (resolve (written target.toList))))

/-- The path as it is counted: a character in it that would end it in a target ends it, and line
ends and tabulators do not count. -/
def countedPath (path : String) : String :=
  String.ofList ((path.toList.takeWhile fun c => c != '?' && c != '#').filter fun c =>
    c != '\t' && c != '\n' && c != '\r')

/-- The path without the slashes at its end. -/
def dropSlashes (path : String) : String :=
  String.ofList (path.toList.reverse.dropWhile (· == '/')).reverse

end Target

end FormRouting
