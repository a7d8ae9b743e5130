import FormRouting.Text.CaseFolding.Table

/-!
# Case folding

Texts are compared without regard to case by folding both. Folding is full: a character may fold to
several, so `ß` folds to `ss` and `İ` to an `i` with a combining dot.
-/

namespace FormRouting

namespace CaseFolding

/-- Whether a character lies on the run. -/
def Run.covers (r : Run) (n : Nat) : Bool :=
  r.first ≤ n && n ≤ r.last && (n - r.first) % r.stride == 0

/-- What one character folds to. A character that the table does not list folds to itself. -/
def foldChar (c : Char) : List Char :=
  let n := c.toNat
  if n < 0x80 then
    if 0x41 ≤ n && n ≤ 0x5A then [Char.ofNat (n + 0x20)] else [c]
  else
    match runs.find? (·.covers n) with
    | some r => [Char.ofNat (n + r.distance).toNat]
    | none =>
      match expansions.find? (·.1 == n) with
      | some e => e.2.map Char.ofNat
      | none => [c]

end CaseFolding

/-- The text with every character folded. -/
def foldCase (s : String) : String :=
  String.ofList (s.toList.flatMap CaseFolding.foldChar)

@[simp]
theorem toList_foldCase (s : String) :
    (foldCase s).toList = s.toList.flatMap CaseFolding.foldChar := by
  simp [foldCase]

/-- Folding goes character by character, so the folding of a joined text is joined from the
foldings. -/
theorem foldCase_append (s t : String) : foldCase (s ++ t) = foldCase s ++ foldCase t := by
  apply String.toList_injective
  simp

end FormRouting
