import FormRouting.Proofs.Json.Number
import FormRouting.Proofs.Value.Mapping

/-!
# What JSON keeps

Values that are written as JSON and read again come back as they were, if nothing in them changes its
kind on the way: a tuple comes back as a list, and a key that is no text comes back as one.
`Value.Lossless` are the values in which this does not happen, and `Lossless.exists_write` says that
they are written in ASCII and read as the same values.

A written value can stand anywhere in a text, as long as what follows closes it (`Closing`).
`StandsFor` says so of a value and of what is written for it. It holds of the members of a list or of
a mapping, then of these read one after the other (`readItems_separated`, `readEntries_separated`),
and so of the whole. Reading takes a step for each value and one for each member, so twice the length
of what is written is enough.
-/

namespace FormRouting

/-! ## Mappings -/

namespace Value

/-- Entries with distinct text keys are the entries of their mapping. -/
theorem mapOfEntries_eq_record {entries : List (String × Value)}
    (h : (entries.map Prod.fst).Nodup) :
    mapOfEntries (entries.map fun e => (.text e.1, e.2)) = record entries := by
  rw [mapOfEntries, record, map.injEq]
  -- Entries are put in from the front, so what is there when the last one comes are all others.
  induction entries using List.reverseRecOn with
  | nil => rfl
  | append_singleton entries e ih =>
    rw [List.map_append, List.nodup_append] at h
    obtain ⟨hearlier, -, hapart⟩ := h
    rw [List.map_append, List.foldl_append, ih hearlier]
    refine putEntry_of_absent (fun earlier hmem => ?_) e.2
    obtain ⟨e', he', rfl⟩ := List.mem_map.mp hmem
    rw [same_text]
    exact beq_false_of_ne (hapart _ (List.mem_map_of_mem he') _ List.mem_cons_self)

/-- A value that JSON keeps: nothing, a truth value, an integer of no more digits than are ever
converted, a text, and lists and mappings of such values, the mappings with texts as keys. -/
inductive Lossless : Value → Prop where
  | null : Lossless .null
  | bool (b : Bool) : Lossless (.bool b)
  | int {n : ℤ} (h : (Nat.toDigits 10 n.natAbs).length ≤ IntegerText.digitLimit) :
      Lossless (.int n)
  | text (s : String) : Lossless (.text s)
  | list {items : List Value} (h : ∀ v ∈ items, Lossless v) : Lossless (.list items)
  | record {entries : List (String × Value)} (hdistinct : (entries.map Prod.fst).Nodup)
      (h : ∀ e ∈ entries, Lossless e.2) : Lossless (record entries)

end Value

namespace Json

/-! ## Reading members -/

theorem skipBlanks_space (cs : List Char) : skipBlanks (' ' :: cs) = skipBlanks cs := rfl

/-- A text begins with a member: not with a blank, nor with the end of a list or of a mapping. -/
def BeginsMember (cs : List Char) : Prop :=
  ∃ c rest, cs = c :: rest ∧ isBlank c = false ∧ c ≠ ']' ∧ c ≠ '\x7d'

theorem BeginsMember.skipBlanks {cs : List Char} (h : BeginsMember cs) (rest : List Char) :
    skipBlanks (cs ++ rest) = cs ++ rest := by
  obtain ⟨c, cs, rfl, hc, -⟩ := h
  exact List.dropWhile_cons_of_neg (by rw [hc]; exact Bool.false_ne_true)

section

variable {fuel : ℕ} {cs inner rest : List Char}

theorem readItems_bracket {v : Value} (hv : readValue fuel cs = .ok (v, ']' :: rest)) :
    readItems (fuel + 1) cs = .ok ([v], rest) := by
  have hend : skipBlanks (']' :: rest) = ']' :: rest := rfl
  simp only [readItems, hv, hend]

theorem readItems_comma {v : Value} {items : List Value}
    (hv : readValue fuel cs = .ok (v, ',' :: inner))
    (hitems : readItems fuel (skipBlanks inner) = .ok (items, rest)) :
    readItems (fuel + 1) cs = .ok (v :: items, rest) := by
  have hnext : skipBlanks (',' :: inner) = ',' :: inner := rfl
  simp only [readItems, hv, hnext, hitems]

/-- What begins with an item behind an opening bracket is the beginning of a list. -/
theorem readValue_bracket {items : List Value} (hcs : BeginsMember cs)
    (hitems : readItems fuel (cs ++ inner) = .ok (items, rest)) :
    readValue (fuel + 1) ('[' :: (cs ++ inner)) = .ok (.list items, rest) := by
  have hblanks := hcs.skipBlanks inner
  obtain ⟨c, cs, rfl, -, hc, -⟩ := hcs
  rw [List.cons_append] at hblanks hitems ⊢
  simp only [readValue, hblanks]
  split
  · next heq => exact absurd (List.cons.inj heq).1 hc
  · rw [hitems]

theorem readValue_brace {entries : List (Value × Value)} (hcs : BeginsMember cs)
    (hentries : readEntries fuel (cs ++ inner) = .ok (entries, rest)) :
    readValue (fuel + 1) ('\x7b' :: (cs ++ inner)) = .ok (Value.mapOfEntries entries, rest) := by
  have hblanks := hcs.skipBlanks inner
  obtain ⟨c, cs, rfl, -, -, hc⟩ := hcs
  rw [List.cons_append] at hblanks hentries ⊢
  simp only [readValue, hblanks]
  split
  · next heq => exact absurd (List.cons.inj heq).1 hc
  · rw [hentries]

/-- An entry is read at the front: its key, a colon and its value, with nothing but blanks between
them. -/
inductive ReadsEntry (fuel : ℕ) (e : String × Value) (rest : List Char) : List Char → Prop where
  | mk {body after inner : List Char} (hkey : readText fuel body = .ok (e.1, after))
      (hcolon : skipBlanks after = ':' :: inner)
      (hvalue : readValue fuel (skipBlanks inner) = .ok (e.2, rest)) :
      ReadsEntry fuel e rest ('"' :: body)

theorem readEntries_brace {e : String × Value} (he : ReadsEntry fuel e ('\x7d' :: rest) cs) :
    readEntries (fuel + 1) cs = .ok ([(.text e.1, e.2)], rest) := by
  obtain ⟨hkey, hcolon, hvalue⟩ := he
  have hend : skipBlanks ('\x7d' :: rest) = '\x7d' :: rest := rfl
  simp only [readEntries, hkey, hcolon, hvalue, hend]

theorem readEntries_comma {e : String × Value} {entries : List (Value × Value)}
    (he : ReadsEntry fuel e (',' :: inner) cs)
    (hentries : readEntries fuel (skipBlanks inner) = .ok (entries, rest)) :
    readEntries (fuel + 1) cs = .ok ((.text e.1, e.2) :: entries, rest) := by
  obtain ⟨hkey, hcolon, hvalue⟩ := he
  have hnext : skipBlanks (',' :: inner) = ',' :: inner := rfl
  simp only [readEntries, hkey, hcolon, hvalue, hnext, hentries]

end

/-! ## Written members -/

theorem beginsMember_encodeText (s : String) : BeginsMember (encodeText s) :=
  ⟨'"', _, rfl, rfl, by decide, by decide⟩

theorem separated_cons_cons (m m' : List Char) (members : List (List Char)) :
    separated (m :: m' :: members) = m ++ ',' :: ' ' :: separated (m' :: members) := rfl

theorem beginsMember_separated {m : List Char} (h : BeginsMember m) (members : List (List Char)) :
    BeginsMember (separated (m :: members)) := by
  obtain ⟨c, cs, rfl, hc⟩ := h
  cases members with
  | nil => exact ⟨c, cs, rfl, hc⟩
  | cons m' members => exact ⟨c, _, rfl, hc⟩

theorem ascii_separated {α : Type} {R : α → List Char → Prop} (hR : ∀ a m, R a m → Ascii m)
    {as : List α} {members : List (List Char)} (h : List.Forall₂ R as members) :
    Ascii (separated members) := by
  induction h with
  | nil => exact ascii_nil
  | @cons a m as members hfirst _ ih =>
    cases members with
    | nil => exact hR a m hfirst
    | cons m' members =>
      rw [separated_cons_cons]
      simp only [ascii_append, ascii_cons]
      exact ⟨hR a m hfirst, by decide, by decide, ih⟩

/-- What is written for a value stands for it: wherever something closes it, it is read as the value,
in no more steps than twice its length. -/
structure StandsFor (v : Value) (cs : List Char) : Prop where
  ascii : Ascii cs
  begins : BeginsMember cs
  read : ∀ {fuel : ℕ} {rest : List Char}, 2 * cs.length ≤ fuel → Closing rest →
    readValue fuel (cs ++ rest) = .ok (v, rest)

/-- What is written for an entry stands for its key and its value. -/
inductive StandsForEntry (e : String × Value) : List Char → Prop where
  | mk {cs : List Char} (h : StandsFor e.2 cs) : StandsForEntry e (encodeText e.1 ++ ':' :: ' ' :: cs)

namespace StandsForEntry

variable {e : String × Value} {cs : List Char}

theorem ascii (h : StandsForEntry e cs) : Ascii cs := by
  obtain ⟨hvalue⟩ := h
  simp [ascii_encodeText, hvalue.ascii]

theorem begins (h : StandsForEntry e cs) : BeginsMember cs := by
  obtain ⟨hvalue⟩ := h
  obtain ⟨c, cs, hkey, hc⟩ := beginsMember_encodeText e.1
  rw [hkey]
  exact ⟨c, _, rfl, hc⟩

theorem read (h : StandsForEntry e cs) {fuel : ℕ} {rest : List Char} (hfuel : 2 * cs.length ≤ fuel)
    (hrest : Closing rest) : ReadsEntry fuel e rest (cs ++ rest) := by
  obtain @⟨written, hvalue⟩ := h
  simp only [List.length_append, List.length_cons] at hfuel
  have hlength : (encodeText e.1).length ≤ fuel := by omega
  obtain ⟨body, hbody, hkey⟩ := exists_readText_encodeText hlength (':' :: ' ' :: (written ++ rest))
  rw [List.append_assoc, List.cons_append, List.cons_append, hbody]
  refine .mk hkey rfl ?_
  rw [skipBlanks_space, hvalue.begins.skipBlanks]
  exact hvalue.read (by omega) hrest

end StandsForEntry

/-- Written items are read up to the bracket that ends the list. -/
theorem readItems_separated {v : Value} {m : List Char} {items : List Value}
    {members : List (List Char)} (hfirst : StandsFor v m) (h : List.Forall₂ StandsFor items members)
    {fuel : ℕ} (hfuel : 2 * (separated (m :: members)).length < fuel) (rest : List Char) :
    readItems fuel (separated (m :: members) ++ ']' :: rest) = .ok (v :: items, rest) := by
  induction h generalizing v m fuel with
  | nil =>
    obtain ⟨fuel, rfl⟩ := Nat.exists_eq_add_one.mpr (Nat.zero_lt_of_lt hfuel)
    exact readItems_bracket (hfirst.read (Nat.le_of_lt_succ hfuel) (.bracket rest))
  | @cons v' m' items members hnext _ ih =>
    obtain ⟨fuel, rfl⟩ := Nat.exists_eq_add_one.mpr (Nat.zero_lt_of_lt hfuel)
    rw [separated_cons_cons] at hfuel ⊢
    simp only [List.length_append, List.length_cons] at hfuel
    rw [List.append_assoc, List.cons_append, List.cons_append]
    -- The comma and the blank pay for the step that takes this item.
    refine readItems_comma (hfirst.read (by omega) (.comma _)) ?_
    rw [skipBlanks_space, (beginsMember_separated hnext.begins members).skipBlanks]
    exact ih hnext (by omega)

/-- Written entries are read up to the brace that ends the mapping. -/
theorem readEntries_separated {e : String × Value} {m : List Char} {entries : List (String × Value)}
    {members : List (List Char)} (hfirst : StandsForEntry e m)
    (h : List.Forall₂ StandsForEntry entries members) {fuel : ℕ}
    (hfuel : 2 * (separated (m :: members)).length < fuel) (rest : List Char) :
    readEntries fuel (separated (m :: members) ++ '\x7d' :: rest) =
      .ok ((e :: entries).map fun e => (.text e.1, e.2), rest) := by
  induction h generalizing e m fuel with
  | nil =>
    obtain ⟨fuel, rfl⟩ := Nat.exists_eq_add_one.mpr (Nat.zero_lt_of_lt hfuel)
    exact readEntries_brace (hfirst.read (Nat.le_of_lt_succ hfuel) (.brace rest))
  | @cons e' m' entries members hnext _ ih =>
    obtain ⟨fuel, rfl⟩ := Nat.exists_eq_add_one.mpr (Nat.zero_lt_of_lt hfuel)
    rw [separated_cons_cons] at hfuel ⊢
    simp only [List.length_append, List.length_cons] at hfuel
    rw [List.append_assoc, List.cons_append, List.cons_append]
    refine readEntries_comma (hfirst.read (by omega) (.comma _)) ?_
    rw [skipBlanks_space, (beginsMember_separated hnext.begins members).skipBlanks]
    exact ih hnext (by omega)

/-! ## Values -/

/-- What is read begins with a step, and the steps that are left suffice for the other characters. -/
theorem exists_eq_succ {fuel : ℕ} {c : Char} {cs : List Char} (h : 2 * (c :: cs).length ≤ fuel) :
    ∃ steps, fuel = steps + 1 ∧ 2 * cs.length < steps := by
  rw [List.length_cons] at h
  exact ⟨fuel - 1, by omega, by omega⟩

/-- A word stands for the value that it is read as in one step. -/
theorem standsFor_word {v : Value} {c : Char} {cs : List Char} (hascii : Ascii (c :: cs))
    (hbegins : BeginsMember (c :: cs))
    (h : ∀ fuel rest, readValue (fuel + 1) (c :: (cs ++ rest)) = .ok (v, rest)) :
    StandsFor v (c :: cs) where
  ascii := hascii
  begins := hbegins
  read hfuel _ := by
    obtain ⟨fuel, rfl, -⟩ := exists_eq_succ hfuel
    exact h fuel _

theorem standsFor_text (s : String) : StandsFor (.text s) (encodeText s) where
  ascii := ascii_encodeText s
  begins := beginsMember_encodeText s
  read {fuel rest} hfuel _ := by
    have hquotes := length_encodeText s
    obtain ⟨steps, rfl⟩ := Nat.exists_eq_add_one.mpr (show 0 < fuel by omega)
    have hlength : (encodeText s).length ≤ steps := by omega
    obtain ⟨body, hbody, hread⟩ := exists_readText_encodeText hlength rest
    rw [hbody]
    simp only [readValue, hread]

theorem standsFor_int {n : ℤ}
    (h : (Nat.toDigits 10 n.natAbs).length ≤ IntegerText.digitLimit) :
    StandsFor (.int n) (toString n).toList where
  ascii := ascii_toString n
  begins := by
    obtain ⟨c, cs, htext, rfl | ⟨d, hd, rfl⟩⟩ := exists_toString_eq_cons n
    · exact ⟨'-', cs, htext, rfl, by decide, by decide⟩
    · refine ⟨d.digitChar, cs, htext, ?_⟩
      interval_cases d <;> decide
  read {fuel rest} hfuel hrest := by
    obtain ⟨c, cs, htext, hc⟩ := exists_toString_eq_cons n
    have hread := readScalar_toString h hrest
    rw [htext] at hfuel hread ⊢
    obtain ⟨fuel, rfl, -⟩ := exists_eq_succ hfuel
    rw [← hread]
    obtain rfl | ⟨d, hd, rfl⟩ := hc
    · rfl
    · interval_cases d <;> rfl

theorem standsFor_list {items : List Value} {members : List (List Char)}
    (h : List.Forall₂ StandsFor items members) :
    StandsFor (.list items) ('[' :: (separated members ++ [']'])) where
  ascii := by simp [ascii_separated (fun _ _ => StandsFor.ascii) h]
  begins := ⟨'[', _, rfl, rfl, by decide, by decide⟩
  read {fuel rest} hfuel _ := by
    obtain ⟨fuel, rfl, hsteps⟩ := exists_eq_succ hfuel
    simp only [List.length_append, List.length_cons] at hsteps
    rw [List.cons_append, List.append_assoc]
    cases h with
    | nil => rfl
    | @cons v m items members hfirst hrest =>
      have hlength : 2 * (separated (m :: members)).length < fuel := by omega
      have hread := readItems_separated hfirst hrest hlength rest
      exact readValue_bracket (beginsMember_separated hfirst.begins members) hread

theorem standsFor_record {entries : List (String × Value)} {members : List (List Char)}
    (hdistinct : (entries.map Prod.fst).Nodup) (h : List.Forall₂ StandsForEntry entries members) :
    StandsFor (Value.record entries) ('\x7b' :: (separated members ++ ['\x7d'])) where
  ascii := by simp [ascii_separated (fun _ _ => StandsForEntry.ascii) h]
  begins := ⟨'\x7b', _, rfl, rfl, by decide, by decide⟩
  read {fuel rest} hfuel _ := by
    obtain ⟨fuel, rfl, hsteps⟩ := exists_eq_succ hfuel
    simp only [List.length_append, List.length_cons] at hsteps
    rw [List.cons_append, List.append_assoc]
    cases h with
    | nil => rfl
    | @cons e m entries members hfirst hrest =>
      have hlength : 2 * (separated (m :: members)).length < fuel := by omega
      have hread := readEntries_separated hfirst hrest hlength rest
      rw [← Value.mapOfEntries_eq_record hdistinct]
      exact readValue_brace (beginsMember_separated hfirst.begins members) hread

/-- Items are written if each of them is. -/
theorem exists_encodeItems {items : List Value}
    (h : ∀ v ∈ items, ∃ cs, encode? v = some cs ∧ StandsFor v cs) :
    ∃ members, encodeItems? items = some members ∧ List.Forall₂ StandsFor items members := by
  induction items with
  | nil => exact ⟨[], rfl, .nil⟩
  | cons v items ih =>
    rw [List.forall_mem_cons] at h
    obtain ⟨⟨cs, hencode, hv⟩, hitems⟩ := h
    obtain ⟨members, hmembers, hrest⟩ := ih hitems
    exact ⟨cs :: members, by rw [encodeItems?, hencode, hmembers], .cons hv hrest⟩

/-- Entries are written if the value of each of them is. -/
theorem exists_encodeEntries {entries : List (String × Value)}
    (h : ∀ e ∈ entries, ∃ cs, encode? e.2 = some cs ∧ StandsFor e.2 cs) :
    ∃ members, encodeEntries? (entries.map fun e => (.text e.1, e.2)) = some members ∧
      List.Forall₂ StandsForEntry entries members := by
  induction entries with
  | nil => exact ⟨[], rfl, .nil⟩
  | cons e entries ih =>
    rw [List.forall_mem_cons] at h
    obtain ⟨⟨cs, hencode, he⟩, hentries⟩ := h
    obtain ⟨members, hmembers, hrest⟩ := ih hentries
    refine ⟨_, ?_, .cons (.mk he) hrest⟩
    rw [List.map_cons, encodeEntries?, keyText?, hencode, hmembers]

end Json

open Json

/-- A value that JSON keeps is written, and what is written stands for it. -/
theorem Value.Lossless.exists_encode {v : Value} (h : v.Lossless) :
    ∃ cs, encode? v = some cs ∧ StandsFor v cs := by
  induction h with
  | null =>
    exact ⟨['n', 'u', 'l', 'l'], rfl,
      standsFor_word (by simp) ⟨'n', _, rfl, rfl, by decide, by decide⟩ fun _ _ => rfl⟩
  | bool b =>
    cases b with
    | false =>
      exact ⟨['f', 'a', 'l', 's', 'e'], rfl,
        standsFor_word (by simp) ⟨'f', _, rfl, rfl, by decide, by decide⟩ fun _ _ => rfl⟩
    | true =>
      exact ⟨['t', 'r', 'u', 'e'], rfl,
        standsFor_word (by simp) ⟨'t', _, rfl, rfl, by decide, by decide⟩ fun _ _ => rfl⟩
  | int h => exact ⟨_, encodeInt?_of_isWritable (decide_eq_true h), standsFor_int h⟩
  | text s => exact ⟨_, rfl, standsFor_text s⟩
  | list _ ih =>
    obtain ⟨members, hmembers, h⟩ := exists_encodeItems ih
    exact ⟨_, by rw [encode?, hmembers, Option.map_some], standsFor_list h⟩
  | record hdistinct _ ih =>
    obtain ⟨members, hmembers, h⟩ := exists_encodeEntries ih
    exact ⟨_, by rw [Value.record, encode?, hmembers, Option.map_some], standsFor_record hdistinct h⟩

/-- A value that JSON keeps is written in ASCII and read as the same value. -/
theorem Value.Lossless.exists_write {v : Value} (h : v.Lossless) :
    ∃ s, write? v = some s ∧ Ascii s.toList ∧ Json.read s = .ok v := by
  obtain ⟨cs, hencode, hv⟩ := h.exists_encode
  refine ⟨String.ofList cs, by rw [write?, hencode, Option.map_some], ?_, ?_⟩
  · rw [String.toList_ofList]
    exact hv.ascii
  · have hblanks := hv.begins.skipBlanks []
    have hread := hv.read (Nat.le_succ (2 * cs.length)) .nothing
    rw [List.append_nil] at hblanks hread
    simp only [Json.read, String.toList_ofList, hblanks, hread]
    rfl

end FormRouting
