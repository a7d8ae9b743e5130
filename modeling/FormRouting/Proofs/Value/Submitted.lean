import FormRouting.Routing.Validation
import FormRouting.Value.Text
import Mathlib.Data.Int.Notation
import Mathlib.Tactic.SplitIfs

/-!
# Submitted values

What validation takes a submitted value for, said by the kinds of values alone: which values are
blank (`Value.Blank`), which scalars stand for which text (`Value.Spells`), and what a value chooses
from the options of a question (`Value.choices`). The tests of the validation are shown to agree
with these, and a value that is not blank is shown to spell no empty text, so that no answer turns
blank on the way.
-/

namespace FormRouting

/-! ## Texts of numbers -/

/-- The text of an integer is not empty. -/
theorem toString_int_ne_empty (n : ℤ) : toString n ≠ "" := by
  rw [Int.toString_eq_repr, Int.repr_eq_if]
  split
  · exact Nat.repr_ne_empty
  · -- The sign of a negative number is a character.
    intro h
    have hlen := congrArg String.length h
    simp at hlen

theorem NumberLayout.positional_ne_nil (digits : List Char) (position : ℤ) :
    plain.positional digits position ≠ [] := by
  unfold positional
  dsimp only
  split_ifs
  · simp
  · simp [plain]
  · simp

theorem NumberLayout.scientific_ne_nil (layout : NumberLayout) (digits : List Char)
    (exponent : ℤ) : layout.scientific digits exponent ≠ [] := by
  unfold scientific
  simp

/-- The text of a floating-point number is not empty. -/
theorem Binary64.text_ne_empty (x : Binary64) : x.text ≠ "" := by
  unfold text NumberLayout.write
  cases x with
  | nan => decide
  | infinite negative => cases negative <;> decide
  | finite negative rank =>
    -- Whatever the sign puts in front, the magnitude has a character.
    have hmagnitude : NumberLayout.plain.magnitude rank ≠ [] := by
      unfold NumberLayout.magnitude
      dsimp only
      split_ifs
      · exact NumberLayout.positional_ne_nil _ _
      · exact NumberLayout.scientific_ne_nil _ _ _
    simp [hmagnitude]

namespace Value

/-! ## Blanks -/

/-- The values that leave a question blank. -/
inductive Blank : Value → Prop where
  | null : Blank .null
  | text : Blank (.text "")
  | list : Blank (.list [])
  | tuple : Blank (.tuple [])
  | set (frozen : Bool) : Blank (.set frozen [])

theorem isBlank_iff (v : Value) : v.isBlank = true ↔ v.Blank := by
  constructor
  · intro h
    cases v with
    | null => exact .null
    | text s =>
      obtain rfl : s = "" := by simpa [isBlank] using h
      exact .text
    | list items =>
      obtain rfl : items = [] := by simpa [isBlank] using h
      exact .list
    | tuple items =>
      obtain rfl : items = [] := by simpa [isBlank] using h
      exact .tuple
    | set frozen items =>
      obtain rfl : items = [] := by simpa [isBlank] using h
      exact .set frozen
    | _ => simp [isBlank] at h
  · intro h
    cases h <;> rfl

/-! ## Scalars and their texts -/

/-- A text, truth value or number stands for a text. -/
inductive Spells : Value → String → Prop where
  | text (s : String) : Spells (.text s) s
  | yes : Spells (.bool true) "true"
  | no : Spells (.bool false) "false"
  | int (n : ℤ) : Spells (.int n) (toString n)
  | real (x : Binary64) : Spells (.real x) x.text

theorem answerText?_eq_some_iff {v : Value} {s : String} :
    v.answerText? = some s ↔ v.Spells s := by
  constructor
  · intro h
    cases v with
    | text t =>
      obtain rfl : t = s := by simpa [answerText?] using h
      exact .text t
    | bool b =>
      cases b with
      | false =>
        obtain rfl : "false" = s := by simpa [answerText?] using h
        exact .no
      | true =>
        obtain rfl : "true" = s := by simpa [answerText?] using h
        exact .yes
    | int n =>
      obtain rfl : toString n = s := by simpa [answerText?] using h
      exact .int n
    | real x =>
      obtain rfl : x.text = s := by simpa [answerText?] using h
      exact .real x
    | _ => simp [answerText?] at h
  · intro h
    cases h <;> rfl

/-- A value stands for one text at most. -/
theorem Spells.unique {v : Value} {s t : String} (hs : v.Spells s) (ht : v.Spells t) : s = t := by
  have h := answerText?_eq_some_iff.mpr hs
  rw [answerText?_eq_some_iff.mpr ht] at h
  exact (Option.some.inj h).symm

/-- A value that is not blank stands for no empty text. -/
theorem Spells.ne_empty {v : Value} {s : String} (h : v.Spells s) (hv : ¬v.Blank) : s ≠ "" := by
  cases h with
  | text s =>
    rintro rfl
    exact hv .text
  | yes => decide
  | no => decide
  | int n => exact toString_int_ne_empty n
  | real x => exact x.text_ne_empty

/-! ## Choices -/

/-- What a value chooses from the options of a question: its items, or itself when it is no
collection of items. -/
def choices (v : Value) : List Value :=
  v.collection?.getD [v]

/-- A value that is not blank chooses something. -/
theorem choices_ne_nil {v : Value} (h : ¬v.Blank) : v.choices ≠ [] := by
  unfold choices
  cases v with
  | list items =>
    rintro rfl
    exact h .list
  | tuple items =>
    rintro rfl
    exact h .tuple
  | set frozen items =>
    rintro rfl
    exact h (.set frozen)
  | _ => simp [collection?]

end Value

end FormRouting
