/-!
# Searching in texts

Whether one text begins with another, or holds it anywhere.
-/

namespace FormRouting

/-- Whether the characters of the first list stand somewhere in the second, one after the other. -/
def occursIn (part : List Char) : List Char → Bool
  | [] => part.isEmpty
  | c :: rest => part.isPrefixOf (c :: rest) || occursIn part rest

/-- Whether a text holds another. -/
def holdsText (whole part : String) : Bool :=
  occursIn part.toList whole.toList

/-- Whether a text begins with another. -/
def beginsWith (whole part : String) : Bool :=
  part.toList.isPrefixOf whole.toList

end FormRouting
