import FormRouting.Form.Answer
import Mathlib.Data.List.Nodup
import Mathlib.Tactic.SplitIfs

/-!
# Answer sets

An answer set that is made of entries with distinct ids holds exactly these entries, in their order
(`entries_ofList`), and each of them is found under its id (`get?_of_mem`). Of entries that repeat an
id it keeps one, and what is found under the id is the last of them (`get?_ofList`).
-/

namespace FormRouting.AnswerSet

variable {α : Type}

/-- An answer under a new id goes to the end. -/
theorem putInto_of_not_mem {id : String} (answer : α) {entries : List (String × α)}
    (h : id ∉ entries.map Prod.fst) : putInto id answer entries = entries ++ [(id, answer)] := by
  induction entries with
  | nil => rfl
  | cons e rest ih =>
    rw [List.map_cons, List.mem_cons, not_or] at h
    rw [putInto, if_neg (Ne.symm h.1), ih h.2, List.cons_append]

/-- Putting an answer under an id keeps the ids, with the new one at the end if it was not there. -/
theorem map_fst_putInto (id : String) (answer : α) (entries : List (String × α)) :
    (putInto id answer entries).map Prod.fst =
      if id ∈ entries.map Prod.fst then entries.map Prod.fst else entries.map Prod.fst ++ [id] := by
  split_ifs with h
  · induction entries with
    | nil => simp at h
    | cons e rest ih =>
      rw [putInto]
      split_ifs with hid
      · rw [List.map_cons, List.map_cons, hid]
      · rw [List.map_cons, List.mem_cons] at h
        rw [List.map_cons, List.map_cons, ih (h.resolve_left (Ne.symm hid))]
  · rw [putInto_of_not_mem answer h, List.map_append]
    rfl

/-- An answer is found under the id that it is put under; under other ids nothing changes. -/
theorem find?_putInto (id k : String) (answer : α) (entries : List (String × α)) :
    (putInto id answer entries).find? (·.1 == k) =
      if id = k then some (id, answer) else entries.find? (·.1 == k) := by
  induction entries with
  | nil =>
    rw [putInto, List.find?_cons]
    split_ifs with h
    · rw [h, beq_self_eq_true]
    · rw [beq_false_of_ne h]
  | cons e rest ih =>
    rw [putInto]
    by_cases hid : e.1 = id
    · rw [if_pos hid, List.find?_cons, List.find?_cons, hid]
      split_ifs with h
      · rw [h, beq_self_eq_true]
      · rw [beq_false_of_ne h]
    · rw [if_neg hid, List.find?_cons, List.find?_cons, ih]
      -- The entry in front has another id than the answer, so it is not the one that both find.
      split_ifs with h
      · rw [beq_false_of_ne (h ▸ hid)]
      · rfl

/-- Recording entries with new and distinct ids puts them behind the ones that are there. -/
theorem foldl_insert {kept entries : List (String × α)}
    (distinct : ((kept ++ entries).map Prod.fst).Nodup) :
    entries.foldl (fun answers e => answers.insert e.1 e.2) (⟨kept⟩ : AnswerSet α) =
      ⟨kept ++ entries⟩ := by
  induction entries generalizing kept with
  | nil => rw [List.foldl_nil, List.append_nil]
  | cons e rest ih =>
    have hassoc : kept ++ e :: rest = (kept ++ [e]) ++ rest := by simp
    have hnew : e.1 ∉ kept.map Prod.fst := by
      rw [List.map_append, List.map_cons, List.nodup_append] at distinct
      intro hmem
      exact distinct.2.2 _ hmem _ (by simp) rfl
    rw [hassoc] at distinct ⊢
    rw [List.foldl_cons, insert, putInto_of_not_mem _ hnew]
    exact ih distinct

/-- A set made of entries with distinct ids holds them in their order. -/
theorem entries_ofList {entries : List (String × α)} (distinct : (entries.map Prod.fst).Nodup) :
    (ofList entries).entries = entries := by
  unfold ofList empty
  rw [foldl_insert (by simpa using distinct), List.nil_append]

/-- With distinct ids every entry is found under its id. -/
theorem get?_of_mem {answers : AnswerSet α} (distinct : (answers.entries.map Prod.fst).Nodup)
    {id : String} {answer : α} (h : (id, answer) ∈ answers.entries) :
    answers.get? id = some answer := by
  unfold get?
  generalize answers.entries = entries at distinct h
  induction entries with
  | nil => simp at h
  | cons e rest ih =>
    rw [List.map_cons, List.nodup_cons] at distinct
    rcases List.mem_cons.mp h with rfl | h
    · simp
    · have hne : e.1 ≠ id := by
        rintro rfl
        exact distinct.1 (List.mem_map.mpr ⟨_, h, rfl⟩)
      rw [List.find?_cons, beq_false_of_ne hne]
      exact ih distinct.2 h

/-- Of the entries that a set is made of, the last one with an id is found under it. -/
theorem get?_ofList (entries : List (String × α)) (k : String) :
    (ofList entries).get? k = (entries.reverse.find? (·.1 == k)).map (·.2) := by
  -- What was there to begin with is found when no entry has the id.
  have hfold : ∀ kept : List (String × α),
      (entries.foldl (fun answers e => answers.insert e.1 e.2) (⟨kept⟩ : AnswerSet α)).entries.find?
        (·.1 == k) = (entries.reverse.find? (·.1 == k)).or (kept.find? (·.1 == k)) := by
    induction entries with
    | nil => exact fun _ => rfl
    | cons e rest ih =>
      intro kept
      have hsplit : (e :: rest).reverse.find? (·.1 == k) =
          (rest.reverse.find? (·.1 == k)).or (if e.1 = k then some e else none) := by
        rw [List.reverse_cons, List.find?_append, List.find?_cons, List.find?_nil]
        split_ifs with h
        · rw [h, beq_self_eq_true]
        · rw [beq_false_of_ne h]
      rw [List.foldl_cons, insert, ih, find?_putInto, hsplit, Option.or_assoc]
      split_ifs <;> rfl
  unfold get? ofList empty
  rw [hfold, List.find?_nil, Option.or_none]

/-- Recording answers never repeats an id. -/
theorem nodup_ofList (entries : List (String × α)) :
    ((ofList entries).entries.map Prod.fst).Nodup := by
  have hfold : ∀ kept : List (String × α), (kept.map Prod.fst).Nodup →
      ((entries.foldl (fun answers e => answers.insert e.1 e.2)
        (⟨kept⟩ : AnswerSet α)).entries.map Prod.fst).Nodup := by
    induction entries with
    | nil => exact fun _ h => h
    | cons e rest ih =>
      intro kept hkept
      rw [List.foldl_cons, insert]
      refine ih _ ?_
      rw [map_fst_putInto]
      split_ifs with h
      · exact hkept
      · exact List.nodup_append.mpr ⟨hkept, List.nodup_singleton _, fun a ha b hb hab => by
          rw [List.mem_singleton.mp hb] at hab
          exact h (hab ▸ ha)⟩
  exact hfold [] List.nodup_nil

end FormRouting.AnswerSet
