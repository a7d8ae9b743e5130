import FormRouting.Text.CaseFolding
import FormRouting.Text.Search
import Mathlib.Data.List.Infix

/-!
# What a search finds

Searching a text is deciding whether the characters of one list stand in another one after the other
(`holdsText_iff`, `beginsWith_iff`). Folding goes character by character, so it keeps what is found
(`holdsText_foldCase`) and it goes past whatever joins texts (`foldCase_intercalate`).

In a joined text a search finds each of the parts, and it may find more: what straddles a separator.
With a separator of two characters it finds nothing more of a text that does not hold the first of
them and does not begin with the second (`infix_intercalate_pair_iff`).
-/

namespace FormRouting

/-! ## Searching -/

theorem occursIn_iff {part whole : List Char} : occursIn part whole = true ↔ part <:+: whole := by
  induction whole with
  | nil => rw [occursIn, List.isEmpty_iff, List.infix_nil]
  | cons c rest ih =>
    rw [occursIn, Bool.or_eq_true, List.isPrefixOf_iff_prefix, ih, List.infix_cons_iff]

theorem holdsText_iff {whole part : String} :
    holdsText whole part = true ↔ part.toList <:+: whole.toList :=
  occursIn_iff

theorem beginsWith_iff {whole part : String} :
    beginsWith whole part = true ↔ part.toList <+: whole.toList :=
  List.isPrefixOf_iff_prefix

/-- A text holds what it begins with. -/
theorem holdsText_of_beginsWith {whole part : String} (h : beginsWith whole part = true) :
    holdsText whole part = true :=
  holdsText_iff.mpr (beginsWith_iff.mp h).isInfix

/-! ## Searching what is folded -/

/-- What stands in a text stands in it folded when it is folded. -/
theorem holdsText_foldCase {whole part : String} (h : part.toList <:+: whole.toList) :
    holdsText (foldCase whole) (foldCase part) = true := by
  rw [holdsText_iff, toList_foldCase, toList_foldCase]
  exact h.flatMap CaseFolding.foldChar

/-- Folding a joined text folds the parts and what joins them. -/
theorem foldCase_intercalate (separator : String) (texts : List String) :
    foldCase (separator.intercalate texts) =
      (foldCase separator).intercalate (texts.map foldCase) := by
  induction texts with
  | nil => rfl
  | cons text rest ih =>
    cases rest with
    | nil => simp
    | cons next rest =>
      rw [String.intercalate_cons_cons, foldCase_append, foldCase_append, ih, List.map_cons,
        List.map_cons, List.map_cons, String.intercalate_cons_cons]

/-! ## Searching what is joined -/

section

variable {α : Type}

/-- Every part stands in what they are joined to. -/
theorem infix_intercalate_of_mem {part : List α} {parts : List (List α)} (separator : List α)
    (h : part ∈ parts) : part <:+: separator.intercalate parts := by
  induction parts with
  | nil => cases h
  | cons first rest ih =>
    cases rest with
    | nil =>
      obtain rfl := List.mem_singleton.mp h
      simp
    | cons next rest =>
      rw [List.intercalate_cons_cons, List.append_assoc]
      rcases List.mem_cons.mp h with rfl | h
      · exact (List.prefix_append _ _).isInfix
      · rw [← List.append_assoc]
        exact (ih h).trans (List.suffix_append _ _).isInfix

variable {mark gap : α} {part : List α}

/-- What another list begins with, and is not empty, begins with its first element. -/
theorem head?_eq_of_isPrefix_cons (hne : part ≠ []) {c : α} {rest : List α}
    (h : part <+: c :: rest) : part.head? = some c := by
  obtain ⟨t, rfl, -⟩ := (List.prefix_cons_iff.mp h).resolve_left hne
  rfl

/-- A list that does not hold the first character of a separator and does not begin with the second
stands on one side of it. -/
theorem infix_append_pair_iff (hne : part ≠ []) (hmark : mark ∉ part)
    (hgap : part.head? ≠ some gap) {left right : List α} :
    part <:+: left ++ [mark, gap] ++ right ↔ part <:+: left ∨ part <:+: right := by
  rw [List.append_assoc, List.infix_append_iff]
  constructor
  · rintro (h | h | ⟨before, after, rfl, hbefore, hafter⟩)
    · exact .inl h
    · -- It begins at neither character of the separator.
      rcases List.infix_cons_iff.mp h with h | h
      · exact absurd (List.mem_of_mem_head? (head?_eq_of_isPrefix_cons hne h)) hmark
      · rcases List.infix_cons_iff.mp h with h | h
        · exact absurd (head?_eq_of_isPrefix_cons hne h) hgap
        · exact .inr h
    · -- What reaches into the separator holds its first character.
      rcases List.prefix_cons_iff.mp hafter with rfl | ⟨t, rfl, -⟩
      · rw [List.append_nil]
        exact .inl hbefore.isInfix
      · simp at hmark
  · rintro (h | h)
    · exact .inl h
    · exact .inr (.inl (h.trans (List.suffix_append [mark, gap] right).isInfix))

/-- In what is joined by a separator of two characters, a list that does not hold the first and does
not begin with the second is found only in a single part. -/
theorem infix_intercalate_pair_iff (hne : part ≠ []) (hmark : mark ∉ part)
    (hgap : part.head? ≠ some gap) (parts : List (List α)) :
    part <:+: [mark, gap].intercalate parts ↔ ∃ text ∈ parts, part <:+: text := by
  induction parts with
  | nil => simp [hne]
  | cons first rest ih =>
    cases rest with
    | nil => simp
    | cons next rest =>
      rw [List.intercalate_cons_cons, infix_append_pair_iff hne hmark hgap, ih]
      simp only [List.mem_cons, exists_eq_or_imp]

end

end FormRouting
