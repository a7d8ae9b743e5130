import FormRouting.Proofs.Form.AnswerSet
import FormRouting.Proofs.Form.DisplayOrder
import FormRouting.Proofs.Repetitions
import FormRouting.Proofs.Value.Submitted

/-!
# What validation accepts

Which submissions `Question.validate` accepts, and the answers it makes of them, said question by
question. `Question.Takes` is the rule for the value submitted for one question and
`Question.Gives` the answer it amounts to. `check_cases` shows that `Question.check` has the three
results that these allow, and `validate_eq_ok_iff` that a submission is accepted exactly when every
question takes its value. With distinct ids, `validate_accepts_and_collects` describes the answers
completely: which questions have one, in which order, and what it is.
-/

namespace FormRouting.Question

open Value (field)

/-! ## The rule for one question -/

/-- A value that is not blank fits a question: a text question takes the text of any scalar, a
question with one choice a scalar that spells an option, and a question with several choices a value
that chooses nothing but scalars that spell options. -/
def Fits (q : Question) (v : Value) : Prop :=
  match q.type with
  | .text => ∃ s, v.Spells s
  | .select | .radio => ∃ s, v.Spells s ∧ s ∈ q.options
  | .checkbox => ∀ item ∈ v.choices, ∃ s, item.Spells s ∧ s ∈ q.options

/-- A question takes a value: it may be left blank unless it is required, and any other value has to
fit. -/
def Takes (q : Question) (v : Value) : Prop :=
  (v.Blank → q.required = false) ∧ (¬v.Blank → q.Fits v)

/-- The answer that a value amounts to: for a question with several choices the set of the texts it
chooses, and for another one its text. A blank amounts to the empty set or the empty text. -/
def Gives (q : Question) (v : Value) (a : Answer) : Prop :=
  match q.type with
  | .checkbox => ∃ options, a = .selections options ∧ options.Nodup ∧
      ∀ s, s ∈ options ↔ ¬v.Blank ∧ ∃ item ∈ v.choices, item.Spells s
  | _ => ∃ s, a = .text s ∧ (v.Blank → s = "") ∧ (¬v.Blank → v.Spells s)

section

variable {q : Question} {v : Value} {a : Answer}

theorem gives_several_iff (htype : q.type = .checkbox) :
    q.Gives v a ↔ ∃ options, a = .selections options ∧ options.Nodup ∧
      ∀ s, s ∈ options ↔ ¬v.Blank ∧ ∃ item ∈ v.choices, item.Spells s := by
  rw [Gives, htype]

theorem gives_one_iff (htype : q.type ≠ .checkbox) :
    q.Gives v a ↔ ∃ s, a = .text s ∧ (v.Blank → s = "") ∧ (¬v.Blank → v.Spells s) := by
  unfold Gives
  split
  · exact absurd ‹_› htype
  · exact Iff.rfl

end

/-- A value that is not blank amounts to an answer that is not empty. -/
theorem Gives.ne_empty {q : Question} {v : Value} {a : Answer} (h : q.Gives v a) (hv : ¬v.Blank)
    (hfits : q.Fits v) : a ≠ .text "" ∧ a ≠ .selections [] := by
  by_cases htype : q.type = .checkbox
  · obtain ⟨options, rfl, -, hmem⟩ := (gives_several_iff htype).mp h
    rw [Fits, htype] at hfits
    -- Something is chosen, and it spells a text, which is then among the options.
    obtain ⟨item, hitem⟩ := List.exists_mem_of_ne_nil _ (Value.choices_ne_nil hv)
    obtain ⟨s, hs, -⟩ := hfits item hitem
    have hin : s ∈ options := (hmem s).mpr ⟨hv, item, hitem, hs⟩
    exact ⟨by simp, by rintro ⟨⟩; simp at hin⟩
  · obtain ⟨s, rfl, -, hs⟩ := (gives_one_iff htype).mp h
    have hne := (hs hv).ne_empty hv
    exact ⟨by simpa using hne, by simp⟩

/-! ## Checking one item -/

theorem checkItem_eq_ok_iff {q : Question} {item : Value} {s : String} :
    q.checkItem item = .ok s ↔ item.Spells s ∧ s ∈ q.options := by
  rw [← Value.answerText?_eq_some_iff]
  unfold checkItem
  cases item.answerText? with
  | none => simp
  | some t =>
    simp only [List.contains_iff_mem, Option.some.injEq]
    split_ifs with ht
    · constructor
      · rintro ⟨⟩
        exact ⟨rfl, ht⟩
      · rintro ⟨rfl, -⟩
        rfl
    · constructor
      · rintro ⟨⟩
      · rintro ⟨rfl, hs⟩
        exact absurd hs ht

/-- A selection has no problem exactly when each of its items spells an option. -/
theorem itemErrors_eq_nil_iff {q : Question} {items : List Value} :
    q.itemErrors items = [] ↔ ∀ item ∈ items, ∃ s, item.Spells s ∧ s ∈ q.options := by
  unfold itemErrors
  rw [List.filterMap_eq_nil_iff]
  refine forall₂_congr fun item _ => ?_
  simp only [← checkItem_eq_ok_iff]
  cases q.checkItem item <;> simp

/-- The options that a selection names are those that its items spell. -/
theorem mem_itemTexts {q : Question} {items : List Value} {s : String} :
    s ∈ q.itemTexts items ↔ ∃ item ∈ items, item.Spells s ∧ s ∈ q.options := by
  unfold itemTexts
  rw [List.mem_eraseDups, List.mem_filterMap]
  simp only [← checkItem_eq_ok_iff]
  refine exists_congr fun item => and_congr_right fun _ => ?_
  cases q.checkItem item <;> simp [Except.toOption]

theorem nodup_itemTexts (q : Question) (items : List Value) : (q.itemTexts items).Nodup :=
  nodup_eraseDups _

/-! ## Checking the value for a question -/

theorem isMultiValued_iff {type : QuestionType} :
    type.isMultiValued = true ↔ type = .checkbox := by
  cases type <;> simp [QuestionType.isMultiValued]

theorem checkSelection_eq (q : Question) (v : Value) :
    q.checkSelection v = if (q.itemErrors v.choices).isEmpty
      then .answered (.selections (q.itemTexts v.choices))
      else .refused (q.itemErrors v.choices) := rfl

/-- A question with several choices takes what fits it, and refuses the rest with some problem. -/
theorem checkSelection_cases (q : Question) (v : Value) (htype : q.type = .checkbox)
    (hv : ¬v.Blank) :
    (q.Fits v ∧ ∃ a, q.checkSelection v = .answered a ∧ q.Gives v a) ∨
      (¬q.Fits v ∧ ∃ e es, q.checkSelection v = .refused (e :: es)) := by
  have hfits : q.Fits v ↔ q.itemErrors v.choices = [] := by
    rw [itemErrors_eq_nil_iff, Fits, htype]
  rw [hfits, checkSelection_eq]
  cases herrors : q.itemErrors v.choices with
  | nil =>
    -- Without a problem every item spells an option, so the options named are all texts spelled.
    refine .inl ⟨rfl, _, rfl, ?_⟩
    rw [Gives, htype]
    refine ⟨_, rfl, nodup_itemTexts q _, fun s => ?_⟩
    rw [mem_itemTexts]
    constructor
    · rintro ⟨item, hitem, hs, -⟩
      exact ⟨hv, item, hitem, hs⟩
    · rintro ⟨-, item, hitem, hs⟩
      obtain ⟨t, ht, hoption⟩ := itemErrors_eq_nil_iff.mp herrors item hitem
      obtain rfl := hs.unique ht
      exact ⟨item, hitem, hs, hoption⟩
  | cons e es => exact .inr ⟨by simp, e, es, rfl⟩

/-- A question with one answer takes what fits it, and refuses the rest with some problem. -/
theorem checkScalar_cases (q : Question) (v : Value) (htype : q.type ≠ .checkbox) (hv : ¬v.Blank) :
    (q.Fits v ∧ ∃ a, q.checkScalar v = .answered a ∧ q.Gives v a) ∨
      (¬q.Fits v ∧ ∃ e es, q.checkScalar v = .refused (e :: es)) := by
  unfold checkScalar
  cases htext : v.answerText? with
  | none =>
    have hnone : ∀ s, ¬v.Spells s := by
      intro s hs
      rw [Value.answerText?_eq_some_iff.mpr hs] at htext
      cases htext
    refine .inr ⟨?_, _, _, rfl⟩
    unfold Fits
    cases h : q.type with
    | checkbox => exact absurd h htype
    | text =>
      rintro ⟨s, hs⟩
      exact hnone s hs
    | _ =>
      rintro ⟨s, hs, -⟩
      exact hnone s hs
  | some s =>
    have hs : v.Spells s := Value.answerText?_eq_some_iff.mp htext
    have hgives : q.Gives v (.text s) := by
      unfold Gives
      cases h : q.type with
      | checkbox => exact absurd h htype
      | _ => exact ⟨s, rfl, fun hblank => absurd hblank hv, fun _ => hs⟩
    have hfits : q.Fits v ↔ ¬(q.type ≠ .text ∧ ¬q.options.contains s) := by
      unfold Fits
      rw [List.contains_iff_mem]
      cases h : q.type with
      | checkbox => exact absurd h htype
      | text => exact iff_of_true ⟨s, hs⟩ (by simp)
      | _ =>
        simp only [ne_eq, reduceCtorEq, not_false_eq_true, true_and, not_not]
        constructor
        · rintro ⟨t, ht, hoption⟩
          rwa [hs.unique ht]
        · exact fun hoption => ⟨s, hs, hoption⟩
    rw [hfits]
    dsimp only
    split_ifs with hrefused
    · exact .inr ⟨not_not_intro hrefused, _, _, rfl⟩
    · exact .inl ⟨hrefused, _, rfl, hgives⟩

/-- A value that is not blank is checked by what the question takes. -/
theorem check_of_not_blank (q : Question) {v : Value} (hv : ¬v.Blank) :
    q.check v = if q.type.isMultiValued then q.checkSelection v else q.checkScalar v := by
  unfold check
  rw [if_neg (by rwa [Value.isBlank_iff])]

/-- Checking the value for a question has three results: a value that it takes is left out when it
is null and gives an answer otherwise, and any other value is refused with some problem. -/
theorem check_cases (q : Question) (v : Value) :
    (q.Takes v ∧ v = .null ∧ q.check v = .omitted) ∨
      (q.Takes v ∧ v ≠ .null ∧ ∃ a, q.check v = .answered a ∧ q.Gives v a) ∨
      (¬q.Takes v ∧ ∃ e es, q.check v = .refused (e :: es)) := by
  by_cases hv : v.Blank
  · unfold check
    rw [if_pos ((Value.isBlank_iff v).mpr hv)]
    have htakes : q.Takes v ↔ q.required = false :=
      ⟨fun h => h.1 hv, fun h => ⟨fun _ => h, fun hnot => absurd hv hnot⟩⟩
    rw [htakes]
    cases hrequired : q.required with
    | true => exact .inr (.inr ⟨by simp, _, _, rfl⟩)
    | false =>
      have hgives : q.Gives v q.blankAnswer := by
        unfold Gives blankAnswer
        cases q.type with
        | checkbox =>
          refine ⟨[], rfl, List.nodup_nil, fun s => ?_⟩
          exact iff_of_false (by simp) fun h => h.1 hv
        | _ => exact ⟨"", rfl, fun _ => rfl, fun hnot => absurd hv hnot⟩
      -- A null is left out; any other blank was submitted, and is an answer.
      cases hv with
      | null => exact .inl ⟨rfl, rfl, rfl⟩
      | _ => exact .inr (.inl ⟨rfl, by simp, _, rfl, hgives⟩)
  · have hnull : v ≠ .null := by
      rintro rfl
      exact hv .null
    have htakes : q.Takes v ↔ q.Fits v :=
      ⟨fun h => h.2 hv, fun h => ⟨fun hnot => absurd hnot hv, fun _ => h⟩⟩
    rw [htakes, check_of_not_blank q hv]
    by_cases htype : q.type = .checkbox
    · rw [if_pos (isMultiValued_iff.mpr htype)]
      rcases checkSelection_cases q v htype hv with ⟨hfits, h⟩ | h
      · exact .inr (.inl ⟨hfits, hnull, h⟩)
      · exact .inr (.inr h)
    · rw [if_neg (isMultiValued_iff.not.mpr htype)]
      rcases checkScalar_cases q v htype hv with ⟨hfits, h⟩ | h
      · exact .inr (.inl ⟨hfits, hnull, h⟩)
      · exact .inr (.inr h)

/-- Checking finds no problem with exactly the values that a question takes. -/
theorem errors_check_eq_nil_iff {q : Question} {v : Value} :
    (q.check v).errors = [] ↔ q.Takes v := by
  rcases check_cases q v with ⟨h, -, hcheck⟩ | ⟨h, -, a, hcheck, -⟩ | ⟨h, e, es, hcheck⟩
  · rw [hcheck]
    exact iff_of_true rfl h
  · rw [hcheck]
    exact iff_of_true rfl h
  · rw [hcheck]
    exact iff_of_false (by simp [Checked.errors]) h

/-! ## Checking a submission -/

variable {questions : List Question} {raw : List (Value × Value)}

/-- The entry that a submission gives to a question, if it gives an answer. -/
def entryFor (raw : List (Value × Value)) (q : Question) : Option (String × Answer) :=
  (q.check (field raw q.id)).answer?.map fun a => (q.id, a)

theorem validate_eq (questions : List Question) (raw : List (Value × Value)) :
    validate questions raw =
      if ((inOrder questions).flatMap fun q => (q.check (field raw q.id)).errors).isEmpty
      then .ok (.ofList ((inOrder questions).filterMap (entryFor raw)))
      else .error ((inOrder questions).flatMap fun q => (q.check (field raw q.id)).errors) := by
  unfold validate collectAnswers
  dsimp only
  rw [List.flatMap_map, List.filterMap_map]
  rfl

/-- A submission is accepted exactly when each question takes its value, and the answers are made of
the entries that the questions get, in the order in which they are put. -/
theorem validate_eq_ok_iff {answers : AnswerSet Answer} :
    validate questions raw = .ok answers ↔
      (∀ q ∈ questions, q.Takes (field raw q.id)) ∧
        answers = .ofList ((inOrder questions).filterMap (entryFor raw)) := by
  have hall : (∀ q ∈ questions, q.Takes (field raw q.id)) ↔
      ((inOrder questions).flatMap fun q => (q.check (field raw q.id)).errors) = [] := by
    simp only [List.flatMap_eq_nil_iff, mem_inOrder, errors_check_eq_nil_iff]
  rw [hall, validate_eq, ← List.isEmpty_iff]
  split_ifs with h
  · simp only [Except.ok.injEq, true_and, h]
    exact eq_comm
  · simp [h]

/-- The questions that get an entry, with the ids of the entries. -/
theorem map_fst_filterMap_entryFor (qs : List Question) :
    (qs.filterMap (entryFor raw)).map Prod.fst =
      (qs.filter fun q => (entryFor raw q).isSome).map (·.id) := by
  induction qs with
  | nil => rfl
  | cons q qs ih =>
    cases h : (q.check (field raw q.id)).answer? with
    | none =>
      have hnone : entryFor raw q = none := by rw [entryFor, h]; rfl
      rw [List.filterMap_cons_none hnone, List.filter_cons_of_neg (by simp [hnone]), ih]
    | some a =>
      have hsome : entryFor raw q = some (q.id, a) := by rw [entryFor, h]; rfl
      rw [List.filterMap_cons_some hsome, List.filter_cons_of_pos (by simp [hsome]),
        List.map_cons, List.map_cons, ih]

/-- A question that takes its value gets an entry exactly when the value is not null. -/
theorem isSome_entryFor_iff {q : Question} (h : q.Takes (field raw q.id)) :
    (entryFor raw q).isSome ↔ field raw q.id ≠ .null := by
  unfold entryFor
  rcases check_cases q (field raw q.id) with
    ⟨-, hnull, hcheck⟩ | ⟨-, hnull, a, hcheck, -⟩ | ⟨hnot, -⟩
  · rw [hcheck]
    exact iff_of_false (by simp [Checked.answer?]) (not_not_intro hnull)
  · rw [hcheck]
    exact iff_of_true (by simp [Checked.answer?]) hnull
  · exact absurd h hnot

/-- The entry of a question holds the answer that its value amounts to. -/
theorem entryFor_gives {q : Question} (h : q.Takes (field raw q.id))
    (hv : field raw q.id ≠ .null) :
    ∃ a, entryFor raw q = some (q.id, a) ∧ q.Gives (field raw q.id) a := by
  unfold entryFor
  rcases check_cases q (field raw q.id) with ⟨-, hnull, -⟩ | ⟨-, -, a, hcheck, ha⟩ | ⟨hnot, -⟩
  · exact absurd hnull hv
  · rw [hcheck]
    exact ⟨a, rfl, ha⟩
  · exact absurd h hnot

/-- A question whose value is null has no answer. -/
theorem get?_eq_none_of_null {answers : AnswerSet Answer} (h : validate questions raw = .ok answers)
    {id : String} (hnull : field raw id = .null) : answers.get? id = none := by
  obtain ⟨htakes, rfl⟩ := validate_eq_ok_iff.mp h
  rw [AnswerSet.get?_ofList, Option.map_eq_none_iff, List.find?_eq_none]
  intro e he hid
  obtain ⟨q, hq, hentry⟩ := List.mem_filterMap.mp (List.mem_reverse.mp he)
  have hv := (isSome_entryFor_iff (htakes q (mem_inOrder.mp hq))).mp (by rw [hentry]; rfl)
  obtain ⟨a, -, rfl⟩ := Option.map_eq_some_iff.mp hentry
  obtain rfl : q.id = id := beq_iff_eq.mp hid
  exact hv hnull

/-- With distinct ids the entries of an accepted submission are those that its questions get. -/
theorem entries_of_validate (distinct : (questions.map (·.id)).Nodup) {answers : AnswerSet Answer}
    (h : validate questions raw = .ok answers) :
    answers.entries = (inOrder questions).filterMap (entryFor raw) := by
  rw [(validate_eq_ok_iff.mp h).2]
  apply AnswerSet.entries_ofList
  rw [map_fst_filterMap_entryFor]
  exact (nodup_inOrder distinct).sublist (List.filter_sublist.map _)

/-- With distinct ids every question whose value is not null has the answer that the value amounts
to. -/
theorem get?_of_validate (distinct : (questions.map (·.id)).Nodup) {answers : AnswerSet Answer}
    (h : validate questions raw = .ok answers) {q : Question} (hq : q ∈ questions)
    (hv : field raw q.id ≠ .null) :
    ∃ a, answers.get? q.id = some a ∧ q.Gives (field raw q.id) a := by
  have hentries := entries_of_validate distinct h
  obtain ⟨a, ha, hgives⟩ := entryFor_gives ((validate_eq_ok_iff.mp h).1 q hq) hv
  refine ⟨a, AnswerSet.get?_of_mem ?_ ?_, hgives⟩
  · rw [hentries, map_fst_filterMap_entryFor]
    exact (nodup_inOrder distinct).sublist (List.filter_sublist.map _)
  · rw [hentries]
    exact List.mem_filterMap.mpr ⟨q, mem_inOrder.mpr hq, ha⟩

/-- Between questions with distinct ids, a submission is accepted exactly when each question takes
its value. The answers then are those of the questions whose value is not null, in the order in
which these are put; each of them is what the value amounts to, and a required question has one that
is not empty. -/
theorem validate_accepts_and_collects (questions : List Question) (raw : List (Value × Value))
    (distinct : (questions.map (·.id)).Nodup) :
    ((∃ answers, validate questions raw = .ok answers) ↔
      ∀ q ∈ questions, q.Takes (field raw q.id)) ∧
    ∀ answers, validate questions raw = .ok answers →
      (∃ answered : List Question, answered.Pairwise Before ∧
        (∀ q, q ∈ answered ↔ q ∈ questions ∧ field raw q.id ≠ .null) ∧
        answers.entries.map Prod.fst = answered.map (·.id)) ∧
      (∀ q ∈ questions, field raw q.id ≠ .null →
        ∃ a, answers.get? q.id = some a ∧ q.Gives (field raw q.id) a) ∧
      (∀ q ∈ questions, q.required = true →
        ∃ a, answers.get? q.id = some a ∧ a ≠ .text "" ∧ a ≠ .selections []) := by
  refine ⟨?_, fun answers h => ⟨?_, fun q hq hv => get?_of_validate distinct h hq hv, ?_⟩⟩
  · constructor
    · rintro ⟨answers, h⟩
      exact (validate_eq_ok_iff.mp h).1
    · intro h
      exact ⟨_, validate_eq_ok_iff.mpr ⟨h, rfl⟩⟩
  · refine ⟨(inOrder questions).filter fun q => (entryFor raw q).isSome, ?_, fun q => ?_, ?_⟩
    · exact (pairwise_before_inOrder distinct).sublist List.filter_sublist
    · rw [List.mem_filter, mem_inOrder]
      exact and_congr_right fun hq => isSome_entryFor_iff ((validate_eq_ok_iff.mp h).1 q hq)
    · rw [entries_of_validate distinct h, map_fst_filterMap_entryFor]
  · -- A required question takes no blank, so what it was given is neither null nor empty.
    intro q hq hrequired
    have htakes := (validate_eq_ok_iff.mp h).1 q hq
    have hblank : ¬(field raw q.id).Blank := by
      intro hb
      rw [htakes.1 hb] at hrequired
      exact Bool.false_ne_true hrequired
    have hnull : field raw q.id ≠ .null := by
      intro hnull
      rw [hnull] at hblank
      exact hblank .null
    obtain ⟨a, ha, hgives⟩ := get?_of_validate distinct h hq hnull
    exact ⟨a, ha, hgives.ne_empty hblank (htakes.2 hblank)⟩

/-- A submission of a number for a choice, next to a repeated option in a selection. The questions
are put by their index, which is the reverse of how they are listed. -/
theorem validate_accepts_and_collects_selection :
    let extras : Question := ⟨"extras", .text "Extras", .checkbox, ["bag", "1"], false, 2⟩
    let size : Question := ⟨"size", .text "Size", .radio, ["42", "44"], true, 1⟩
    let raw : List (Value × Value) :=
      [(.text "extras", .list [.int 1, .text "bag", .int 1]), (.text "size", .int 42)]
    (([extras, size] : List Question).map (·.id)).Nodup ∧
      ∃ answers, validate [extras, size] raw = .ok answers ∧
        ∃ options, answers.get? "extras" = some (.selections options) ∧ options.Nodup ∧
          "bag" ∈ options ∧ "1" ∈ options := by
  intro extras size raw
  have distinct : (([extras, size] : List Question).map (·.id)).Nodup := by decide
  obtain ⟨accepts, collects⟩ := validate_accepts_and_collects [extras, size] raw distinct
  have hextras : field raw "extras" = .list [.int 1, .text "bag", .int 1] := rfl
  have hsize : field raw "size" = .int 42 := rfl
  have hblank : ¬(field raw "extras").Blank := by
    rw [hextras]
    rintro ⟨⟩
  obtain ⟨answers, h⟩ := accepts.mpr fun q hq => by
    rcases List.mem_pair.mp hq with rfl | rfl
    · refine ⟨fun _ => rfl, fun _ item hitem => ?_⟩
      rw [show extras.id = "extras" from rfl, hextras] at hitem
      rcases List.mem_cons.mp hitem with rfl | hitem
      · exact ⟨_, .int 1, by decide⟩
      · rcases List.mem_pair.mp hitem with rfl | rfl
        · exact ⟨_, .text "bag", by decide⟩
        · exact ⟨_, .int 1, by decide⟩
    · rw [show size.id = "size" from rfl, hsize]
      exact ⟨by rintro ⟨⟩, fun _ => ⟨_, .int 42, by decide⟩⟩
  obtain ⟨-, gives, -⟩ := collects answers h
  obtain ⟨a, ha, options, rfl, hnodup, hmem⟩ := gives extras (by simp) (by rintro ⟨⟩)
  have hchoices : (field raw "extras").choices = [.int 1, .text "bag", .int 1] := rfl
  refine ⟨distinct, answers, h, options, ha, hnodup, ?_, ?_⟩
  · exact (hmem _).mpr ⟨hblank, .text "bag", by rw [hchoices]; simp, .text _⟩
  · exact (hmem _).mpr ⟨hblank, .int 1, by rw [hchoices]; simp, .int 1⟩

end FormRouting.Question
