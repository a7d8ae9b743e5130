import FormRouting.Check
import FormRouting.Proofs.Form.Definition
import FormRouting.Proofs.Routing.Precedence
import Mathlib.Data.List.Nodup

/-!
# Definitions without problems

What it takes for the check of a definition to find no problem, said without the check: the needed
fields are there, all records read as questions and rules, their ids are distinct, questions that
offer a choice have options, and every rule names a question (`Check.Flawless`). Both readers of
records go through a list with the ids seen so far, so that their lemmas (`questions_eq_nil_iff`,
`rules_eq_nil_iff`) are about ids that are new to those (`Check.Fresh`); `definition_eq_nil_iff` puts
them together.
-/

namespace FormRouting.Check

/-- A definition has the needed fields, its records read as the given questions and rules, and these
are in order. -/
structure Flawless (entries : List (Value × Value)) (questions : List Question)
    (rules : List Rule) : Prop extends Form.ReadsAs entries questions rules where
  needed : ∀ name ∈ neededFields, (Value.lookup name entries).isSome
  distinctQuestions : (questions.map (·.id)).Nodup
  /-- A question that offers a choice has something to choose from. -/
  offering : ∀ q ∈ questions, q.type.hasOptions = true → q.options ≠ []
  distinctRules : (rules.map (·.id)).Nodup
  /-- Every rule names a question of the definition. -/
  resolving : ∀ r ∈ rules, r.resolves questions = true

/-! ## Ids -/

section

variable {ι : Type}

/-- Ids are distinct, and none of them was seen before. -/
def Fresh (seen ids : List ι) : Prop :=
  ids.Nodup ∧ ∀ id ∈ ids, id ∉ seen

/-- Ids are fresh exactly when the first one is new and the others are fresh to it as well. -/
theorem fresh_cons_iff {seen ids : List ι} {id : ι} :
    Fresh seen (id :: ids) ↔ id ∉ seen ∧ Fresh (id :: seen) ids := by
  unfold Fresh
  rw [List.nodup_cons, List.forall_mem_cons]
  constructor
  · rintro ⟨⟨hnotin, hnodup⟩, hnew, hseen⟩
    refine ⟨hnew, hnodup, fun other hother hmem => ?_⟩
    rcases List.mem_cons.mp hmem with rfl | hmem
    · exact hnotin hother
    · exact hseen other hother hmem
  · rintro ⟨hnew, hnodup, hseen⟩
    refine ⟨⟨fun hmem => hseen id hmem List.mem_cons_self, hnodup⟩, hnew, fun other hother hmem => ?_⟩
    exact hseen other hother (List.mem_cons_of_mem _ hmem)

theorem fresh_nil_left_iff {ids : List ι} : Fresh [] ids ↔ ids.Nodup := by
  simp [Fresh]

/-- Freshness depends only on which ids were seen. -/
theorem fresh_congr {seen seen' ids : List ι} (h : ∀ id, id ∈ seen ↔ id ∈ seen') :
    Fresh seen ids ↔ Fresh seen' ids := by
  simp only [Fresh, h]

end

/-! ## Problems that are told -/

/-- Problems are told exactly when each of them can be, and then as they are. -/
theorem tell_eq_ok_iff {problems told : List Problem} :
    tell problems = .ok told ↔ (∀ p ∈ problems, p.isWritable = true) ∧ problems = told := by
  unfold tell
  rw [← List.all_eq_true]
  split_ifs with h <;> simp [h]

/-- Of no problems nothing is told. -/
theorem tell_eq_nil_iff {problems : List Problem} : tell problems = .ok [] ↔ problems = [] := by
  rw [tell_eq_ok_iff]
  constructor
  · exact And.right
  · rintro rfl
    exact ⟨List.forall_mem_nil _, rfl⟩

/-! ## Questions -/

theorem questionProblems_eq_nil_iff {seen : List String} {q : Question} :
    questionProblems seen q = [] ↔
      q.id ∉ seen ∧ (q.type.hasOptions = true → q.options ≠ []) := by
  unfold questionProblems
  rw [List.append_eq_nil_iff]
  refine and_congr ?_ ?_
  · simp
  · cases q.type.hasOptions <;> simp

/-- Going through question records finds no problem exactly when all of them read as questions, with
fresh ids, and these have the options that they need. -/
theorem questions_eq_nil_iff {seen : List String} {records : List Value} {qs : List Question} :
    questions seen records = .ok ([], qs) ↔
      List.Forall₂ (fun record q => Question.ofRecord record = .ok q) records qs ∧
        Fresh seen (qs.map (·.id)) ∧ ∀ q ∈ qs, q.type.hasOptions = true → q.options ≠ [] := by
  induction records generalizing seen qs with
  | nil =>
    unfold questions
    rw [List.forall₂_nil_left_iff]
    constructor
    · rintro ⟨⟩
      simp [Fresh]
    · rintro ⟨rfl, -⟩
      rfl
  | cons record rest ih =>
    unfold questions
    rw [List.forall₂_cons_left_iff]
    cases hrecord : Question.ofRecord record with
    | error e =>
      -- A record that does not read as a question is a problem, or ends the check.
      dsimp only
      refine iff_of_false ?_ (by simp)
      split_ifs
      · intro h
        obtain ⟨fields, -, h⟩ := bind_eq_ok_iff.mp h
        obtain ⟨told, htold, h⟩ := bind_eq_ok_iff.mp h
        obtain ⟨later, -, h⟩ := bind_eq_ok_iff.mp h
        obtain ⟨-, rfl⟩ := tell_eq_ok_iff.mp htold
        cases h
      · simp
    | ok q =>
      dsimp only
      rw [bind_eq_ok_iff]
      constructor
      · rintro ⟨⟨problems, qs'⟩, hrest, hresult⟩
        obtain ⟨hproblems, rfl⟩ := Prod.mk.inj (Except.ok.inj hresult)
        obtain ⟨hq, rfl⟩ := List.append_eq_nil_iff.mp hproblems
        obtain ⟨hnew, hoptions⟩ := questionProblems_eq_nil_iff.mp hq
        obtain ⟨hread, hfresh, hoffering⟩ := ih.mp hrest
        refine ⟨⟨q, qs', rfl, hread, rfl⟩, fresh_cons_iff.mpr ⟨hnew, hfresh⟩, ?_⟩
        rw [List.forall_mem_cons]
        exact ⟨hoptions, hoffering⟩
      · rintro ⟨⟨q', qs', hq', hread, rfl⟩, hfresh, hoffering⟩
        obtain rfl := Except.ok.inj hq'
        obtain ⟨hnew, hfresh⟩ := fresh_cons_iff.mp hfresh
        rw [List.forall_mem_cons] at hoffering
        refine ⟨_, ih.mpr ⟨hread, hfresh, hoffering.2⟩, ?_⟩
        dsimp only
        rw [questionProblems_eq_nil_iff.mpr ⟨hnew, hoffering.1⟩]
        rfl

/-! ## Rules -/

/-- Going through rule records finds no problem exactly when all of them read as rules, with fresh
ids. -/
theorem rules_eq_nil_iff {seen : List Int} {records : List Value} {rs : List Rule} :
    rules seen records = .ok ([], rs) ↔
      List.Forall₂ (fun record r => Rule.ofRecord record = .ok r) records rs ∧
        Fresh seen (rs.map (·.id)) := by
  induction records generalizing seen rs with
  | nil =>
    unfold rules
    rw [List.forall₂_nil_left_iff]
    constructor
    · rintro ⟨⟩
      simp [Fresh]
    · rintro ⟨rfl, -⟩
      rfl
  | cons record rest ih =>
    unfold rules
    rw [List.forall₂_cons_left_iff]
    cases hrecord : Rule.ofRecord record with
    | error e =>
      refine iff_of_false ?_ (by simp)
      cases e with
      | refused ruleId defect =>
        intro h
        obtain ⟨later, -, h⟩ := bind_eq_ok_iff.mp h
        cases h
      | unreadable e => simp
    | ok r =>
      dsimp only
      rw [bind_eq_ok_iff]
      constructor
      · rintro ⟨told, htold, h⟩
        obtain ⟨⟨problems, rs'⟩, hrest, hresult⟩ := bind_eq_ok_iff.mp h
        obtain ⟨hproblems, rfl⟩ := Prod.mk.inj (Except.ok.inj hresult)
        obtain ⟨rfl, rfl⟩ := List.append_eq_nil_iff.mp hproblems
        have hnew : r.id ∉ seen := by simpa using tell_eq_nil_iff.mp htold
        obtain ⟨hread, hfresh⟩ := ih.mp hrest
        exact ⟨⟨r, rs', rfl, hread, rfl⟩, fresh_cons_iff.mpr ⟨hnew, hfresh⟩⟩
      · rintro ⟨⟨r', rs', hr', hread, rfl⟩, hfresh⟩
        obtain rfl := Except.ok.inj hr'
        obtain ⟨hnew, hfresh⟩ := fresh_cons_iff.mp hfresh
        refine ⟨[], ?_, bind_eq_ok_iff.mpr ⟨_, ih.mpr ⟨hread, hfresh⟩, rfl⟩⟩
        rw [tell_eq_nil_iff, if_neg (by simpa using hnew)]

/-- No rule dangles exactly when every rule names a question. -/
theorem dangling_eq_nil_iff {rs : List Rule} {qs : List Question} :
    Rule.dangling rs qs = [] ↔ ∀ r ∈ rs, r.resolves qs = true := by
  unfold Rule.dangling
  simp only [List.map_eq_nil_iff, List.filter_eq_nil_iff, List.mem_mergeSort, Bool.not_eq_true',
    Bool.not_eq_false]

/-! ## Definitions -/

/-- What the check of a definition comes to, step by step: it goes through the records of questions and
then through those of rules, and tells last of the rules that name no question. -/
inductive Examines (d : Value) (problems : List Problem) : Prop where
  | intro {entries : List (Value × Value)} {questionRecords ruleRecords : List Value}
      {qs : List Question} {rs : List Rule} {ofQuestions ofRules dangling : List Problem}
      (hentries : d = .map entries)
      (hquestions : Form.listed entries "questions" = .ok questionRecords)
      (hqs : questions [] questionRecords = .ok (ofQuestions, qs))
      (hrules : Form.listed entries "rules" = .ok ruleRecords)
      (hrs : rules [] ruleRecords = .ok (ofRules, rs))
      (htold : tell ((Rule.dangling rs qs).map .danglingRule) = .ok dangling)
      (hproblems : (neededFields.filter fun name => (Value.lookup name entries).isNone).map
        .missingField ++ ofQuestions ++ ofRules ++ dangling = problems)

/-- The check of a definition ends with problems exactly when each of its steps comes to an end. -/
theorem definition_eq_ok_iff {d : Value} {problems : List Problem} :
    definition d = .ok problems ↔ Examines d problems := by
  unfold definition
  constructor
  · intro h
    obtain ⟨entries, hentries, h⟩ := bind_eq_ok_iff.mp h
    obtain ⟨questionRecords, hquestions, h⟩ := bind_eq_ok_iff.mp h
    obtain ⟨⟨ofQuestions, qs⟩, hqs, h⟩ := bind_eq_ok_iff.mp h
    obtain ⟨ruleRecords, hrules, h⟩ := bind_eq_ok_iff.mp h
    obtain ⟨⟨ofRules, rs⟩, hrs, h⟩ := bind_eq_ok_iff.mp h
    obtain ⟨dangling, htold, h⟩ := bind_eq_ok_iff.mp h
    exact ⟨Value.fields_eq_ok_iff.mp hentries, hquestions, hqs, hrules, hrs, htold,
      Except.ok.inj h⟩
  · rintro ⟨rfl, hquestions, hqs, hrules, hrs, htold, rfl⟩
    exact bind_eq_ok_iff.mpr ⟨_, rfl, bind_eq_ok_iff.mpr ⟨_, hquestions, bind_eq_ok_iff.mpr ⟨_, hqs,
      bind_eq_ok_iff.mpr ⟨_, hrules, bind_eq_ok_iff.mpr ⟨_, hrs, bind_eq_ok_iff.mpr ⟨_, htold,
        rfl⟩⟩⟩⟩⟩⟩

/-- The check of a definition finds no problem exactly when the definition is flawless. -/
theorem definition_eq_nil_iff {d : Value} :
    definition d = .ok [] ↔ ∃ entries qs rs, d = .map entries ∧ Flawless entries qs rs := by
  rw [definition_eq_ok_iff]
  constructor
  · rintro ⟨rfl, hquestions, hqs, hrules, hrs, htold, hproblems⟩
    -- The four kinds of problems are listed one after the other, and there are none of any.
    obtain ⟨hthree, rfl⟩ := List.append_eq_nil_iff.mp hproblems
    obtain ⟨htwo, rfl⟩ := List.append_eq_nil_iff.mp hthree
    obtain ⟨hmissing, rfl⟩ := List.append_eq_nil_iff.mp htwo
    obtain ⟨hread, hfresh, hoffering⟩ := questions_eq_nil_iff.mp hqs
    obtain ⟨hkept, hfreshRules⟩ := rules_eq_nil_iff.mp hrs
    refine ⟨_, _, _, rfl, ⟨⟨_, hquestions, hread⟩, ⟨_, hrules, hkept⟩⟩, fun name hname => ?_,
      hfresh.1, hoffering, hfreshRules.1,
      dangling_eq_nil_iff.mp (List.map_eq_nil_iff.mp (tell_eq_nil_iff.mp htold))⟩
    have hnone := List.filter_eq_nil_iff.mp (List.map_eq_nil_iff.mp hmissing) name hname
    rwa [Bool.not_eq_true, Option.isNone_eq_false_iff] at hnone
  · rintro ⟨entries, qs, rs, rfl, h⟩
    obtain ⟨questionRecords, hquestions, hread⟩ := h.questionRecords
    obtain ⟨ruleRecords, hrules, hkept⟩ := h.ruleRecords
    have hqs : questions [] questionRecords = .ok ([], qs) :=
      questions_eq_nil_iff.mpr ⟨hread, fresh_nil_left_iff.mpr h.distinctQuestions, h.offering⟩
    have hrs : rules [] ruleRecords = .ok ([], rs) :=
      rules_eq_nil_iff.mpr ⟨hkept, fresh_nil_left_iff.mpr h.distinctRules⟩
    have htold : tell ((Rule.dangling rs qs).map .danglingRule) = .ok [] := by
      rw [tell_eq_nil_iff, dangling_eq_nil_iff.mpr h.resolving, List.map_nil]
    refine ⟨rfl, hquestions, hqs, hrules, hrs, htold, ?_⟩
    have hmissing : (neededFields.filter fun name => (Value.lookup name entries).isNone) = [] := by
      rw [List.filter_eq_nil_iff]
      intro name hname
      rw [Bool.not_eq_true, Option.isNone_eq_false_iff]
      exact h.needed name hname
    rw [hmissing]
    rfl

end FormRouting.Check
