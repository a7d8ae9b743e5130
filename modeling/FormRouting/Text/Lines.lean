/-!
# Line ends

Texts are read from files with every end of a line as a line feed.
-/

namespace FormRouting

/-- The characters with every end of a line as a line feed. -/
def unifyLineEnds : List Char → List Char
  | '\r' :: '\n' :: rest => '\n' :: unifyLineEnds rest
  | '\r' :: rest => '\n' :: unifyLineEnds rest
  | c :: rest => c :: unifyLineEnds rest
  | [] => []

end FormRouting
