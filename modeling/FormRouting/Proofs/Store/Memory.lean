import FormRouting.Store.Memory
import Mathlib.Data.List.Basic

/-!
# The parts of a memory store

What the operations of a memory store do to what it is asked for: the form under a slug after a form
was put (`get?_put`) or removed (`get?_remove`), and the submissions that are kept after others
(`keep_append_keep`).
-/

namespace FormRouting.MemoryStore

/-- A form is found under the slug that it is put under; under other slugs nothing changes. -/
theorem lookup_putInto (slug other : String) (form : Form) (forms : List (String × Form)) :
    (putInto slug form forms).lookup other = if slug = other then some form else forms.lookup other := by
  induction forms with
  | nil =>
    rw [putInto, List.lookup_cons]
    split_ifs with h
    · rw [h, beq_self_eq_true]
    · rw [beq_false_of_ne (Ne.symm h)]
  | cons e rest ih =>
    obtain ⟨first, found⟩ := e
    rw [putInto]
    by_cases hfirst : first = slug
    · rw [if_pos hfirst, List.lookup_cons, List.lookup_cons, hfirst]
      split_ifs with h
      · rw [h, beq_self_eq_true]
      · rw [beq_false_of_ne (Ne.symm h)]
    · rw [if_neg hfirst, List.lookup_cons, List.lookup_cons, ih]
      -- The entry in front has another slug than the form, so it is not the one that is looked up.
      split_ifs with h
      · rw [beq_false_of_ne (h ▸ Ne.symm hfirst)]
      · rfl

/-- Nothing is found under a slug whose entries are left out; under other slugs nothing changes. -/
theorem lookup_filter_ne (slug other : String) (forms : List (String × Form)) :
    (forms.filter (·.1 != slug)).lookup other =
      if slug = other then none else forms.lookup other := by
  induction forms with
  | nil => simp
  | cons e rest ih =>
    obtain ⟨first, found⟩ := e
    rw [List.filter_cons]
    by_cases hfirst : first = slug
    · rw [if_neg (by simpa using hfirst), ih, List.lookup_cons, hfirst]
      split_ifs with h
      · rfl
      · rw [beq_false_of_ne (Ne.symm h)]
    · rw [if_pos (by simpa using hfirst), List.lookup_cons, List.lookup_cons, ih]
      split_ifs with h
      · rw [beq_false_of_ne (h ▸ Ne.symm hfirst)]
      · rfl

theorem get?_put (store : MemoryStore) (form : Form) (slug : String) :
    (store.put form).get? slug = if form.slug.toText = slug then some form else store.get? slug :=
  lookup_putInto _ _ _ _

theorem get?_remove (store : MemoryStore) (slug other : String) :
    (store.remove slug).get? other = if slug = other then none else store.get? other :=
  lookup_filter_ne _ _ _

theorem keep_eq_take (limit : Option ℕ) (submissions : List Submission) :
    keep limit submissions = submissions.take (limit.getD submissions.length) := by
  cases limit with
  | none => exact List.take_length.symm
  | some n => rfl

/-- A record comes in front of the submissions, of which the newest are kept, as many as the limit
allows. -/
theorem parts_record (store : MemoryStore) (s : Submission) :
    (store.record s).forms = store.forms ∧ (store.record s).limit = store.limit ∧
      (store.record s).submissions =
        (s :: store.submissions).take (store.limit.getD (store.submissions.length + 1)) :=
  ⟨rfl, rfl, keep_eq_take _ _⟩

/-- Records that were left out before are left out again. -/
theorem keep_append_keep (limit : Option ℕ) (newer older : List Submission) :
    keep limit (newer ++ keep limit older) = keep limit (newer ++ older) := by
  cases limit with
  | none => rfl
  | some n =>
    show (newer ++ older.take n).take n = (newer ++ older).take n
    rw [List.take_append, List.take_append, List.take_take, Nat.min_eq_left (Nat.sub_le _ _)]

end FormRouting.MemoryStore
