import FormRouting.Json.Reader
import FormRouting.Json.Writer
import FormRouting.Proofs.Value.Writable

/-!
# What JSON can stand for

The values that JSON texts stand for: nothing, truth values, numbers, texts, and lists and mappings
of such values, the mappings with texts as keys (`Value.IsJson`). Reading yields no other values
(`isJson_of_read`), and none with an integer that is too long to be written (`isWritable_of_read`);
all of these are written (`IsJson.exists_write`). Reading and writing go beyond JSON with the numbers
that are not finite; a value is strict if it holds none (`IsJson.isStrict_iff`).
-/

namespace FormRouting

namespace Value

/-- A value that a JSON text can stand for. -/
inductive IsJson : Value → Prop where
  | null : IsJson .null
  | bool (b : Bool) : IsJson (.bool b)
  | int (n : Int) : IsJson (.int n)
  | real (x : Binary64) : IsJson (.real x)
  | text (s : String) : IsJson (.text s)
  | list {items : List Value} (h : ∀ v ∈ items, IsJson v) : IsJson (.list items)
  | map {entries : List (Value × Value)} (hkeys : ∀ e ∈ entries, ∃ key, e.1 = .text key)
      (hvalues : ∀ e ∈ entries, IsJson e.2) : IsJson (.map entries)

variable {entries : List (Value × Value)} {key v : Value}

/-- A mapping into which an entry is put holds that value or what it held, under the same keys. -/
theorem mem_of_mem_putEntry {e : Value × Value} (h : e ∈ putEntry entries key v) :
    (e.1 = key ∨ ∃ e' ∈ entries, e'.1 = e.1) ∧ (e.2 = v ∨ ∃ e' ∈ entries, e'.2 = e.2) := by
  induction entries with
  | nil =>
    obtain rfl := List.mem_singleton.mp h
    exact ⟨.inl rfl, .inl rfl⟩
  | cons first rest ih =>
    rw [putEntry] at h
    split_ifs at h
    · rcases List.mem_cons.mp h with rfl | hrest
      · exact ⟨.inr ⟨first, List.mem_cons_self, rfl⟩, .inl rfl⟩
      · have hmem := List.mem_cons_of_mem first hrest
        exact ⟨.inr ⟨e, hmem, rfl⟩, .inr ⟨e, hmem, rfl⟩⟩
    · rcases List.mem_cons.mp h with rfl | hrest
      · exact ⟨.inr ⟨_, List.mem_cons_self, rfl⟩, .inr ⟨_, List.mem_cons_self, rfl⟩⟩
      · have hlater : ∀ {p : Value × Value → Prop}, (∃ e' ∈ rest, p e') → ∃ e' ∈ first :: rest, p e' :=
          fun ⟨e', hmem, hp⟩ => ⟨e', List.mem_cons_of_mem first hmem, hp⟩
        exact ⟨(ih hrest).1.imp_right hlater, (ih hrest).2.imp_right hlater⟩

/-- A value that was read of a JSON text: such a text can stand for it, and it can be written. -/
structure IsRead (v : Value) : Prop where
  json : IsJson v
  writable : v.isWritable = true

theorem IsRead.list {items : List Value} (h : ∀ v ∈ items, IsRead v) : IsRead (.list items) where
  json := .list fun v hv => (h v hv).json
  writable := by
    rw [isWritable, areWritable_iff]
    exact fun v hv => (h v hv).writable

theorem IsRead.map (hkeys : ∀ e ∈ entries, ∃ key, e.1 = .text key)
    (hvalues : ∀ e ∈ entries, IsRead e.2) : IsRead (.map entries) where
  json := .map hkeys fun e he => (hvalues e he).json
  writable := by
    rw [isWritable, areWritableEntries_iff]
    intro e he
    obtain ⟨key, hkey⟩ := hkeys e he
    rw [hkey]
    exact ⟨isWritable_text key, (hvalues e he).writable⟩

/-- The mapping of entries that texts are the keys of. -/
theorem isRead_mapOfEntries (hkeys : ∀ e ∈ entries, ∃ key, e.1 = .text key)
    (hvalues : ∀ e ∈ entries, IsRead e.2) : IsRead (mapOfEntries entries) := by
  unfold mapOfEntries
  -- What is put into such a mapping leaves it one.
  suffices h : ∀ m : List (Value × Value), (∀ e ∈ m, ∃ key, e.1 = .text key) →
      (∀ e ∈ m, IsRead e.2) → IsRead (.map (entries.foldl (fun m e => putEntry m e.1 e.2) m)) from
    h [] (List.forall_mem_nil _) (List.forall_mem_nil _)
  induction entries with
  | nil => exact fun m => .map
  | cons e rest ih =>
    rw [List.forall_mem_cons] at hkeys hvalues
    intro m hmkeys hmvalues
    refine ih hkeys.2 hvalues.2 _ (fun e' he' => ?_) (fun e' he' => ?_)
    · rcases (mem_of_mem_putEntry he').1 with hkey | ⟨earlier, hmem, hkey⟩
      · rw [hkey]
        exact hkeys.1
      · rw [← hkey]
        exact hmkeys earlier hmem
    · rcases (mem_of_mem_putEntry he').2 with hvalue | ⟨earlier, hmem, hvalue⟩
      · rw [hvalue]
        exact hvalues.1
      · rw [← hvalue]
        exact hmvalues earlier hmem

end Value

namespace Json

open Value (IsJson IsRead)

variable {v : Value} {cs rest : List Char}

/-! ## What is read -/

/-- Whole digits that are not too many name a number that can be written. -/
theorem isWritable_splitWhole (h : (splitWhole cs).1.length ≤ IntegerText.digitLimit) :
    IntegerText.isWritable (RealText.natOfDigits (splitWhole cs).1) = true := by
  have hdigit : ∀ c ∈ (splitWhole cs).1, c.isDigit = true := by
    rw [splitWhole.eq_def]
    split
    · simp
    · exact fun c hc => List.mem_takeWhile_imp hc
  have hten : ∀ d ∈ (splitWhole cs).1.map fun c => c.toNat - 0x30, d < 10 := by
    rw [List.forall_mem_map]
    intro c hc
    have hrange := hdigit c hc
    simp only [Char.isDigit, Bool.and_eq_true, decide_eq_true_eq] at hrange
    have hlast : c.toNat ≤ 0x39 := UInt32.le_iff_toNat_le.mp hrange.2
    omega
  have hlt := IntegerText.ofDigits_lt hten
  rw [List.length_map] at hlt
  exact IntegerText.isWritable_of_lt h (by rwa [Int.natAbs_natCast])

theorem isRead_readNumber {negative : Bool} (h : readNumber negative cs = .ok (v, rest)) :
    IsRead v := by
  unfold readNumber at h
  dsimp only at h
  split_ifs at h with hnone hplain hlong hnegative
  · cases h
    refine ⟨.int _, ?_⟩
    rw [Value.isWritable_int, IntegerText.isWritable_neg]
    exact isWritable_splitWhole (not_lt.mp hlong)
  · cases h
    refine ⟨.int _, ?_⟩
    rw [Value.isWritable_int]
    exact isWritable_splitWhole (not_lt.mp hlong)
  · split at h
    · cases h
      exact ⟨.real _, by rw [Value.isWritable]⟩
    · cases h

theorem isRead_readScalar (h : readScalar cs = .ok (v, rest)) : IsRead v := by
  unfold readScalar at h
  dsimp only at h
  split at h
  · -- A word is one of six, which stand for values that JSON has.
    rename_i found hword
    obtain rfl := Except.ok.inj h
    obtain ⟨word, hmem, hfound⟩ := List.exists_of_findSome?_eq_some hword
    obtain ⟨after, -, hpair⟩ := Option.map_eq_some_iff.mp hfound
    cases hpair
    simp only [List.mem_cons, List.not_mem_nil, or_false] at hmem
    rcases hmem with rfl | rfl | rfl | rfl | rfl | rfl <;>
      exact ⟨by constructor, by rw [Value.isWritable]⟩
  · split at h <;> exact isRead_readNumber h

mutual

/-- A value that is read. The recursion is that of the reader. -/
theorem isRead_readValue {v : Value} {rest : List Char} : ∀ (fuel : Nat) (cs : List Char),
    readValue fuel cs = .ok (v, rest) → IsRead v
  | 0, _, h => by cases h
  | fuel + 1, cs, h => by
    unfold readValue at h
    split at h
    · split at h
      · cases h
        exact ⟨.text _, Value.isWritable_text _⟩
      · cases h
    · split at h
      · cases h
        exact .list (List.forall_mem_nil _)
      · split at h
        · rename_i hitems
          cases h
          exact .list (isRead_readItems fuel _ hitems)
        · cases h
    · split at h
      · cases h
        exact .map (List.forall_mem_nil _) (List.forall_mem_nil _)
      · split at h
        · rename_i hentries
          cases h
          obtain ⟨hkeys, hvalues⟩ := isRead_readEntries fuel _ hentries
          exact Value.isRead_mapOfEntries hkeys hvalues
        · cases h
    · exact isRead_readScalar h

theorem isRead_readItems {items : List Value} {rest : List Char} : ∀ (fuel : Nat) (cs : List Char),
    readItems fuel cs = .ok (items, rest) → ∀ v ∈ items, IsRead v
  | 0, _, h => by cases h
  | fuel + 1, cs, h => by
    unfold readItems at h
    split at h
    · cases h
    · rename_i hvalue
      have hfirst := isRead_readValue fuel _ hvalue
      split at h
      · cases h
        exact List.forall_mem_singleton.mpr hfirst
      · split at h
        · rename_i hitems
          cases h
          rw [List.forall_mem_cons]
          exact ⟨hfirst, isRead_readItems fuel _ hitems⟩
        · cases h
      · cases h

theorem isRead_readEntries {entries : List (Value × Value)} {rest : List Char} :
    ∀ (fuel : Nat) (cs : List Char), readEntries fuel cs = .ok (entries, rest) →
      (∀ e ∈ entries, ∃ key, e.1 = .text key) ∧ ∀ e ∈ entries, IsRead e.2
  | 0, _, h => by cases h
  | fuel + 1, cs, h => by
    unfold readEntries at h
    split at h
    · split at h
      · cases h
      · split at h
        · split at h
          · cases h
          · rename_i hvalue
            have hfirst := isRead_readValue fuel _ hvalue
            split at h
            · cases h
              exact ⟨List.forall_mem_singleton.mpr ⟨_, rfl⟩, List.forall_mem_singleton.mpr hfirst⟩
            · split at h
              · rename_i hentries
                cases h
                obtain ⟨hkeys, hvalues⟩ := isRead_readEntries fuel _ hentries
                rw [List.forall_mem_cons, List.forall_mem_cons]
                exact ⟨⟨⟨_, rfl⟩, hkeys⟩, hfirst, hvalues⟩
              · cases h
            · cases h
        · cases h
    · cases h

end

theorem isRead_of_read {s : String} (h : read s = .ok v) : IsRead v := by
  unfold read at h
  dsimp only at h
  split at h
  · cases h
  · rename_i hvalue
    split_ifs at h
    obtain rfl := Except.ok.inj h
    exact isRead_readValue _ _ hvalue

/-- What a text is read as is a value that JSON can stand for. -/
theorem isJson_of_read {s : String} (h : read s = .ok v) : IsJson v :=
  (isRead_of_read h).json

/-- What a text is read as can be written. -/
theorem isWritable_of_read {s : String} (h : read s = .ok v) : v.isWritable = true :=
  (isRead_of_read h).writable

/-! ## What is written -/

theorem exists_encodeItems_of_each {items : List Value} (h : ∀ v ∈ items, ∃ cs, encode? v = some cs) :
    ∃ members, encodeItems? items = some members := by
  induction items with
  | nil => exact ⟨[], rfl⟩
  | cons v rest ih =>
    rw [List.forall_mem_cons] at h
    obtain ⟨m, hm⟩ := h.1
    obtain ⟨members, hmembers⟩ := ih h.2
    exact ⟨m :: members, by rw [encodeItems?, hm, hmembers]⟩

theorem exists_encodeEntries_of_each {entries : List (Value × Value)}
    (hkeys : ∀ e ∈ entries, ∃ key, e.1 = .text key)
    (hvalues : ∀ e ∈ entries, ∃ cs, encode? e.2 = some cs) :
    ∃ members, encodeEntries? entries = some members := by
  induction entries with
  | nil => exact ⟨[], rfl⟩
  | cons e rest ih =>
    rw [List.forall_mem_cons] at hkeys hvalues
    obtain ⟨key, v⟩ := e
    obtain ⟨name, rfl⟩ := hkeys.1
    obtain ⟨m, hm⟩ := hvalues.1
    obtain ⟨members, hmembers⟩ := ih hkeys.2 hvalues.2
    exact ⟨(encodeText name ++ ':' :: ' ' :: m) :: members,
      by rw [encodeEntries?, keyText?, hm, hmembers]⟩

theorem exists_encode (h : IsJson v) (hwritable : v.isWritable = true) :
    ∃ cs, encode? v = some cs := by
  induction h with
  | null | bool _ | real _ | text _ => exact ⟨_, rfl⟩
  | int n => exact ⟨_, encodeInt?_of_isWritable (Value.isWritable_int n ▸ hwritable)⟩
  | list _ ih =>
    rw [Value.isWritable, Value.areWritable_iff] at hwritable
    obtain ⟨members, hmembers⟩ :=
      exists_encodeItems_of_each fun v hv => ih v hv (hwritable v hv)
    exact ⟨_, by rw [encode?, hmembers]; rfl⟩
  | map hkeys _ ih =>
    rw [Value.isWritable, Value.areWritableEntries_iff] at hwritable
    obtain ⟨members, hmembers⟩ :=
      exists_encodeEntries_of_each hkeys fun e he => ih e he (hwritable e he).2
    exact ⟨_, by rw [encode?, hmembers]; rfl⟩

end Json

namespace Value.IsJson

variable {v : Value}

/-- A value that JSON can stand for is written, if its integers can be. -/
theorem exists_write (h : v.IsJson) (hwritable : v.isWritable = true) :
    ∃ s, Json.write? v = some s := by
  obtain ⟨cs, hcs⟩ := Json.exists_encode h hwritable
  exact ⟨String.ofList cs, by rw [Json.write?, hcs]; rfl⟩

end Value.IsJson

/-! ## Numbers that are not finite -/

namespace Value

/-- A value is a number that is not finite, or holds one in a list or under a key. -/
inductive HoldsNonfinite : Value → Prop where
  | nan : HoldsNonfinite (.real .nan)
  | infinite (negative : Bool) : HoldsNonfinite (.real (.infinite negative))
  | item {items : List Value} {v : Value} (hmem : v ∈ items) (h : HoldsNonfinite v) :
      HoldsNonfinite (.list items)
  | entry {entries : List (Value × Value)} {e : Value × Value} (hmem : e ∈ entries)
      (h : HoldsNonfinite e.2) : HoldsNonfinite (.map entries)

theorem holdsNonfinite_list_iff {items : List Value} :
    HoldsNonfinite (.list items) ↔ ∃ v ∈ items, v.HoldsNonfinite :=
  ⟨fun | .item hmem h => ⟨_, hmem, h⟩, fun ⟨_, hmem, h⟩ => .item hmem h⟩

theorem holdsNonfinite_map_iff {entries : List (Value × Value)} :
    HoldsNonfinite (.map entries) ↔ ∃ e ∈ entries, e.2.HoldsNonfinite :=
  ⟨fun | .entry hmem h => ⟨_, hmem, h⟩, fun ⟨_, hmem, h⟩ => .entry hmem h⟩

end Value

namespace Json

theorem areStrict_iff {items : List Value} :
    areStrict items = true ↔ ∀ v ∈ items, isStrict v = true := by
  induction items with
  | nil => simp [areStrict]
  | cons v rest ih => rw [areStrict, Bool.and_eq_true, ih, List.forall_mem_cons]

theorem areStrictEntries_iff {entries : List (Value × Value)}
    (hkeys : ∀ e ∈ entries, ∃ key, e.1 = .text key) :
    areStrictEntries entries = true ↔ ∀ e ∈ entries, isStrict e.2 = true := by
  induction entries with
  | nil => simp [areStrictEntries]
  | cons e rest ih =>
    rw [List.forall_mem_cons] at hkeys ⊢
    obtain ⟨key, v⟩ := e
    obtain ⟨name, rfl⟩ := hkeys.1
    rw [areStrictEntries, Bool.and_eq_true, Bool.and_eq_true, ih hkeys.2]
    exact and_congr_left' (and_iff_right rfl)

end Json

/-- A value that JSON can stand for and that can be written is strict exactly if it holds no number
that is not finite. -/
theorem Value.IsJson.isStrict_iff {v : Value} (h : v.IsJson) (hwritable : v.isWritable = true) :
    Json.isStrict v = true ↔ ¬v.HoldsNonfinite := by
  induction h with
  | null | bool _ | text _ => exact iff_of_true rfl (by rintro ⟨⟩)
  | int n =>
    rw [isWritable_int] at hwritable
    exact iff_of_true hwritable (by rintro ⟨⟩)
  | real x =>
    cases x with
    | nan => exact iff_of_false Bool.false_ne_true (not_not_intro .nan)
    | infinite negative => exact iff_of_false Bool.false_ne_true (not_not_intro (.infinite negative))
    | finite negative rank => exact iff_of_true rfl (by rintro ⟨⟩)
  | list _ ih =>
    rw [isWritable, areWritable_iff] at hwritable
    rw [Json.isStrict, Json.areStrict_iff, holdsNonfinite_list_iff, not_exists]
    simp only [not_and]
    exact forall₂_congr fun v hv => ih v hv (hwritable v hv)
  | map hkeys _ ih =>
    rw [isWritable, areWritableEntries_iff] at hwritable
    -- The keys are texts, and so whether the entries can be shown is up to their values.
    rw [Json.isStrict, Json.areStrictEntries_iff hkeys, holdsNonfinite_map_iff, not_exists]
    simp only [not_and]
    exact forall₂_congr fun e he => ih e he (hwritable e he).2

end FormRouting
