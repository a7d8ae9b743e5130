import FormRouting.Value.Equality
import Mathlib.Data.List.Basic
import Mathlib.Tactic.SplitIfs

/-!
# Entries of a mapping

What putting an entry into a mapping does to what is looked up in it, and to the entries under
other keys. A key that is the same as a text is that text (`same_text_iff`), so an entry under a
text takes the place of the one under that text and of no other.
-/

namespace FormRouting.Value

theorem same_text (s t : String) : same (.text s) (.text t) = (s == t) := by
  rw [same]

/-- Only a text is the same as it. -/
theorem same_text_iff {k : Value} {name : String} :
    k.same (.text name) = true ↔ k = .text name := by
  cases k with
  | text s => rw [same_text, beq_iff_eq, text.injEq]
  | _ => simp [same, sameQuantity, quantity?]

/-- A key that is not there is put at the end. -/
theorem putEntry_of_absent {entries : List (Value × Value)} {key : Value}
    (h : ∀ e ∈ entries, e.1.same key = false) (v : Value) :
    putEntry entries key v = entries ++ [(key, v)] := by
  induction entries with
  | nil => rfl
  | cons e rest ih =>
    rw [List.forall_mem_cons] at h
    rw [putEntry, if_neg (by rw [h.1]; exact Bool.false_ne_true), ih h.2, List.cons_append]

/-- What is put under a text is found there, and under other texts there is what was before. -/
theorem lookup_putEntry (key name : String) (v : Value) (entries : List (Value × Value)) :
    lookup key (putEntry entries (.text name) v) =
      if name = key then some v else lookup key entries := by
  induction entries with
  | nil => rw [putEntry, lookup_text_cons, lookup_nil]
  | cons entry rest ih =>
    obtain ⟨k, w⟩ := entry
    -- The value takes the place of what was under its key, or comes behind the rest.
    rw [putEntry]
    split_ifs with hsame hname hname
    · rw [same_text_iff.mp hsame, lookup_text_cons, if_pos hname]
    · rw [same_text_iff.mp hsame, lookup_text_cons, lookup_text_cons, if_neg hname, if_neg hname]
    · rw [if_pos hname] at ih
      cases k with
      | text s =>
        have hne : s ≠ key := by
          rintro rfl
          exact hsame (same_text_iff.mpr (congrArg text hname.symm))
        rw [lookup_text_cons, if_neg hne, ih]
      | _ => exact ih
    · rw [if_neg hname] at ih
      cases k with
      | text s => rw [lookup_text_cons, lookup_text_cons, ih]
      | _ => exact ih

/-- Putting an entry leaves what is under other keys. -/
theorem lookup_putEntry_of_ne {key name : String} (h : name ≠ key) (v : Value)
    (entries : List (Value × Value)) :
    lookup key (putEntry entries (.text name) v) = lookup key entries := by
  rw [lookup_putEntry, if_neg h]

/-- Putting an entry leaves all entries of which the key is of another kind. -/
theorem filter_putEntry {p : Value → Bool} {name : String} (h : p (.text name) = false) (v : Value)
    (entries : List (Value × Value)) :
    (putEntry entries (.text name) v).filter (fun e => p e.1) = entries.filter fun e => p e.1 := by
  have hout : ∀ w rest, List.filter (fun e : Value × Value => p e.1) ((.text name, w) :: rest) =
      List.filter (fun e => p e.1) rest := by
    intro w rest
    exact List.filter_cons_of_neg (by rw [h]; exact Bool.false_ne_true)
  induction entries with
  | nil => rw [putEntry, hout]
  | cons entry rest ih =>
    obtain ⟨k, w⟩ := entry
    rw [putEntry]
    split_ifs with hsame
    · rw [same_text_iff.mp hsame, hout, hout]
    · rw [List.filter_cons, List.filter_cons, ih]

end FormRouting.Value
