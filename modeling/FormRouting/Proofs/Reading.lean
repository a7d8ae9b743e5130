import FormRouting.Value.Reading
import Mathlib.Data.Int.Notation
import Mathlib.Data.List.Forall2
import Mathlib.Tactic.SplitIfs

/-!
# Readings that succeed

When a reading that is put together from others succeeds. Each lemma is an `iff`, so it takes a
reading apart and puts one together alike: one that goes on with the result of another
(`bind_eq_ok_iff`), one whose result is changed (`map_eq_ok_iff`), one whose error is
(`mapError_eq_ok_iff`), and one of every member of a list (`mapM_eq_ok_iff`). Two readings of a list
that agree on its members, but for the form of the error, agree on the list (`mapM_eq_mapError`).
-/

namespace FormRouting

variable {ε δ α β γ : Type}

/-- A reading that goes on with the result of another one succeeds exactly when both do. -/
theorem bind_eq_ok_iff {x : Except ε α} {f : α → Except ε β} {b : β} :
    (x >>= f) = .ok b ↔ ∃ a, x = .ok a ∧ f a = .ok b := by
  cases x <;> simp [bind, Except.bind]

/-- A reading that goes on in a way which cannot fail succeeds exactly when it gets there. -/
theorem exists_bind_eq_ok_iff {x : Except ε α} {f : α → Except ε β}
    (hf : ∀ a, ∃ b, f a = .ok b) : (∃ b, (x >>= f) = .ok b) ↔ ∃ a, x = .ok a := by
  cases x with
  | error e => simp [bind, Except.bind]
  | ok a => exact iff_of_true (hf a) ⟨a, rfl⟩

/-- Two readings whose results are put together, in a way which cannot fail, succeed exactly when both
do. -/
theorem exists_bind_bind_eq_ok_iff {x : Except ε α} {y : Except ε β} {f : α → β → Except ε γ}
    (hf : ∀ a b, ∃ c, f a b = .ok c) :
    (∃ c, (x >>= fun a => y >>= f a) = .ok c) ↔ (∃ a, x = .ok a) ∧ ∃ b, y = .ok b := by
  cases x with
  | error e => simp [bind, Except.bind]
  | ok a =>
    rw [and_iff_right ⟨a, rfl⟩]
    exact exists_bind_eq_ok_iff (hf a)

/-- A reading whose result is changed succeeds exactly when the reading does. -/
theorem map_eq_ok_iff {x : Except ε α} {f : α → β} {b : β} :
    x.map f = .ok b ↔ ∃ a, x = .ok a ∧ f a = b := by
  cases x <;> simp [Except.map]

/-- A reading whose error is changed succeeds exactly when the reading does. -/
theorem mapError_eq_ok_iff {x : Except ε α} {f : ε → δ} {a : α} :
    x.mapError f = .ok a ↔ x = .ok a := by
  cases x <;> simp [Except.mapError]

/-- Reading the members of a list succeeds exactly when every member reads as the result in its
place. -/
theorem mapM_eq_ok_iff {f : α → Except ε β} {xs : List α} {ys : List β} :
    xs.mapM f = .ok ys ↔ List.Forall₂ (fun x y => f x = .ok y) xs ys := by
  induction xs generalizing ys with
  | nil =>
    rw [List.mapM_nil, List.forall₂_nil_left_iff]
    constructor
    · rintro ⟨rfl⟩
      rfl
    · rintro rfl
      rfl
  | cons x xs ih =>
    rw [List.mapM_cons, List.forall₂_cons_left_iff, bind_eq_ok_iff]
    constructor
    · rintro ⟨y, hy, hrest⟩
      obtain ⟨ys', hys', hresult⟩ := bind_eq_ok_iff.mp hrest
      exact ⟨y, ys', hy, ih.mp hys', (Except.ok.inj hresult).symm⟩
    · rintro ⟨y, ys', hy, hys', rfl⟩
      exact ⟨y, hy, bind_eq_ok_iff.mpr ⟨ys', ih.mpr hys', rfl⟩⟩

/-- A list can be read exactly when each of its members can. -/
theorem exists_mapM_eq_ok_iff {f : α → Except ε β} {xs : List α} :
    (∃ ys, xs.mapM f = .ok ys) ↔ ∀ x ∈ xs, ∃ y, f x = .ok y := by
  induction xs with
  | nil => simp [pure, Except.pure]
  | cons x xs ih =>
    rw [List.forall_mem_cons, ← ih, List.mapM_cons]
    cases f x <;> cases xs.mapM f <;> simp [bind, Except.bind, pure, Except.pure]

/-- Members that read as others do, but for the form of the error, read alike as a list. -/
theorem mapM_eq_mapError {f : α → Except δ γ} {g : β → Except ε γ} {h : ε → δ} {xs : List α}
    {ys : List β} (hread : List.Forall₂ (fun x y => f x = (g y).mapError h) xs ys) :
    xs.mapM f = (ys.mapM g).mapError h := by
  induction hread with
  | nil => rfl
  | @cons x y xs ys hxy _ ih =>
    rw [List.mapM_cons, List.mapM_cons, hxy, ih]
    cases g y with
    | error e => rfl
    | ok c => cases ys.mapM g <;> rfl

namespace Value

/-- A value has fields exactly when it is a record. -/
theorem fields_eq_ok_iff {v : Value} {entries : List (Value × Value)} :
    v.fields = .ok entries ↔ v = .map entries := by
  unfold fields
  cases v <;> simp

/-- A needed field is read exactly when the record has it. -/
theorem need_eq_ok_iff {entries : List (Value × Value)} {key : String} {v : Value} :
    need entries key = .ok v ↔ lookup key entries = some v := by
  unfold need
  cases lookup key entries <;> simp

/-- The text of a value is read exactly when the value can be written. -/
theorem readText_eq_ok_iff {v : Value} {s : String} :
    v.readText = .ok s ↔ v.isWritable = true ∧ v.toText = s := by
  unfold readText
  split_ifs with h <;> simp [h]

@[simp]
theorem readText_text (s : String) : (Value.text s).readText = .ok s :=
  readText_eq_ok_iff.mpr ⟨isWritable_text s, rfl⟩

/-- The texts of values are read exactly when each of them can be written. -/
theorem mapM_readText_eq_ok_iff {vs : List Value} {texts : List String} :
    vs.mapM readText = .ok texts ↔ (∀ v ∈ vs, v.isWritable = true) ∧ vs.map toText = texts := by
  rw [mapM_eq_ok_iff]
  constructor
  · intro h
    induction h with
    | nil => simp
    | cons hread _ ih =>
      obtain ⟨hv, rfl⟩ := readText_eq_ok_iff.mp hread
      exact ⟨List.forall_mem_cons.mpr ⟨hv, ih.1⟩, by rw [List.map_cons, ih.2]⟩
  · rintro ⟨hvs, rfl⟩
    rw [List.forall₂_map_right_iff, List.forall₂_same]
    exact fun v hv => readText_eq_ok_iff.mpr ⟨hvs v hv, rfl⟩

/-- What a lookup finds is the value of an entry. -/
theorem exists_mem_of_lookup {key : String} {entries : List (Value × Value)} {v : Value}
    (h : lookup key entries = some v) : ∃ e ∈ entries, e.2 = v := by
  fun_induction lookup key entries with
  | case1 => cases h
  | case2 v' rest => exact ⟨_, List.mem_cons_self, Option.some.inj h⟩
  | case3 k v' rest hk ih =>
    obtain ⟨e, he, hv⟩ := ih h
    exact ⟨e, List.mem_cons_of_mem _ he, hv⟩
  | case4 e rest hk ih =>
    obtain ⟨e, he, hv⟩ := ih h
    exact ⟨e, List.mem_cons_of_mem _ he, hv⟩

/-- A field that a record has is not replaced. -/
theorem fieldOr_of_lookup {entries : List (Value × Value)} {key : String} {v : Value}
    (h : lookup key entries = some v) (other : Value) : fieldOr entries key other = v := by
  rw [fieldOr, h, Option.getD_some]

/-- An integer is what is read in its place, zero too, though it does not count as true. -/
theorem orElse_int_zero (n : ℤ) : (int n).orElse (.int 0) = .int n := by
  unfold orElse
  split_ifs with h
  · rfl
  · have hzero : n = 0 := by simpa [truthy] using h
    rw [hzero]

/-- The members of a list are what is read in its place, none for the empty one, though it does not
count as true. -/
theorem members_orElse_list (items : List Value) :
    ((list items).orElse (.list [])).members = .ok items := by
  cases items <;> rfl

end Value

end FormRouting
