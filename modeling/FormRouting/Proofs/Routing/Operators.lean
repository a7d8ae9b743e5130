import FormRouting.Proofs.Routing.SameAnswers
import FormRouting.Proofs.Text.Search

/-!
# The laws of the operators

A condition compares an answer with a value by one of four operators. Two of them ask for equality,
which is exact and for a question with several choices means being selected, or for its opposite.
The other two look into the joined text of the answer and fold case. `ConditionLaws` says how the
four belong together, and `conditions_obey_laws` that the conditions of rules do so: in particular,
a selected option survives sorting, joining and folding as a part of the text.

What is found in the joined text need not come from an option, as the text holds the separators too.
`contains_only_within_one` shows that it does come from a single one, unless what is looked for
holds a comma or begins with a space when it is folded.
-/

namespace FormRouting

/-! ## The joined text -/

namespace Answer

/-- A selected option stands in the joined text. -/
theorem infix_joined_of_mem {s : String} {options : List String} (h : s ∈ options) :
    s.toList <:+: (joined (.selections options)).toList := by
  rw [joined, String.toList_intercalate]
  exact infix_intercalate_of_mem _ (List.mem_map_of_mem (List.mem_mergeSort.mpr h))

/-- The folding of the joined text is joined from the foldings of the options. -/
theorem toList_foldCase_joined (options : List String) :
    (foldCase (joined (.selections options))).toList =
      [',', ' '].intercalate ((sorted options).map fun s => (foldCase s).toList) := by
  have hseparator : (foldCase separator).toList = [',', ' '] := by decide
  rw [joined, foldCase_intercalate, String.toList_intercalate, hseparator, List.map_map]
  rfl

end Answer

/-! ## Laws -/

/-- An operator that looks into the joined text of an answer. -/
def Operator.IsTextual (operator : Operator) : Prop :=
  operator = .contains ∨ operator = .startsWith

/-- How conditions belong together, each given by its operator and its value, on the answer to a
question and on a value in place of one. -/
structure ConditionLaws (holds : Operator → String → Option Answer → Bool)
    (holdsOfValue : Operator → String → Value → Except ReadError Bool) : Prop where
  /-- A text, or a set of texts whatever the order it is gone through in, is taken for the answer
  that it is. -/
  written : ∀ operator value a w, a.WrittenAs w →
    holdsOfValue operator value w = .ok (holds operator value (some a))
  /-- Null is taken for no answer. -/
  null : ∀ operator value, holdsOfValue operator value .null = .ok (holds operator value none)
  /-- No condition holds of a question that is not answered. -/
  unanswered : ∀ operator value, holds operator value none = false
  notEquals : ∀ value a, holds .notEquals value (some a) = !holds .equals value (some a)
  contains_of_equals : ∀ value a,
    holds .equals value (some a) = true → holds .contains value (some a) = true
  startsWith_of_equals : ∀ value s,
    holds .equals value (some (.text s)) = true → holds .startsWith value (some (.text s)) = true
  contains_of_startsWith : ∀ value a,
    holds .startsWith value (some a) = true → holds .contains value (some a) = true
  /-- The case of the value does not matter to what looks into the text. -/
  value_fold : ∀ operator, operator.IsTextual → ∀ value value' a, foldCase value = foldCase value' →
    holds operator value (some a) = holds operator value' (some a)
  /-- Neither does the case of a text. -/
  text_fold : ∀ operator, operator.IsTextual → ∀ value s s', foldCase s = foldCase s' →
    holds operator value (some (.text s)) = holds operator value (some (.text s'))
  /-- The order in which selections are listed matters to no operator. -/
  enumeration : ∀ operator value xs ys, List.Perm xs ys →
    holds operator value (some (.selections xs)) = holds operator value (some (.selections ys))
  /-- What looks into the text finds the empty text in every answer. -/
  empty : ∀ operator, operator.IsTextual → ∀ a, holds operator "" (some a) = true

namespace Rule

/-- The rule with another condition on the answer to its question. -/
def asking (rule : Rule) (operator : Operator) (value : String) : Rule :=
  { rule with operator, value }

section

variable (rule : Rule) (question : Question) (value : String) (a : Answer)

theorem holds_asking_equals :
    (rule.asking .equals value).holds question (some a) =
      (rule.asking .equals value).equalsAnswer question a := rfl

theorem holds_asking_contains :
    (rule.asking .contains value).holds question (some a) =
      holdsText (foldCase a.joined) (foldCase value) := rfl

theorem holds_asking_startsWith :
    (rule.asking .startsWith value).holds question (some a) =
      beginsWith (foldCase a.joined) (foldCase value) := rfl

end

/-- A value that an answer equals stands in its joined text. -/
theorem infix_of_equalsAnswer {rule : Rule} {question : Question} {a : Answer}
    (h : rule.equalsAnswer question a = true) : rule.value.toList <:+: a.joined.toList := by
  unfold equalsAnswer at h
  cases a with
  | text s =>
    have hs : s = rule.value := by simpa using h
    rw [Answer.joined, hs]
  | selections options =>
    split_ifs at h
    · exact Answer.infix_joined_of_mem (List.contains_iff_mem.mp h)
    · cases h

/-- A text that equals a value is the value. -/
theorem eq_of_equalsAnswer_text {rule : Rule} {question : Question} {s : String}
    (h : rule.equalsAnswer question (.text s) = true) : s = rule.value := by
  unfold equalsAnswer at h
  simpa using h

/-- A condition that looks into the text depends on the foldings alone. -/
theorem holds_textual_congr (rule : Rule) (question : Question) {operator : Operator}
    (htextual : operator.IsTextual) {value value' : String} {a a' : Answer}
    (hvalue : foldCase value = foldCase value') (ha : foldCase a.joined = foldCase a'.joined) :
    (rule.asking operator value).holds question (some a) =
      (rule.asking operator value').holds question (some a') := by
  rcases htextual with rfl | rfl
  · rw [holds_asking_contains, holds_asking_contains, hvalue, ha]
  · rw [holds_asking_startsWith, holds_asking_startsWith, hvalue, ha]

end Rule

/-- The conditions of rules obey the laws, on a question of any type. -/
theorem conditions_obey_laws (rule : Rule) (question : Question) :
    ConditionLaws (fun operator value => (rule.asking operator value).holds question)
      (fun operator value => (rule.asking operator value).holdsOfValue question) where
  written operator value _ _ h := (rule.asking operator value).holdsOfValue_of_writtenAs question h
  null _ _ := rfl
  unanswered _ _ := rfl
  notEquals _ _ := rfl
  contains_of_equals value a h := by
    rw [Rule.holds_asking_equals] at h
    rw [Rule.holds_asking_contains]
    have hinfix := Rule.infix_of_equalsAnswer h
    exact holdsText_foldCase hinfix
  startsWith_of_equals value s h := by
    rw [Rule.holds_asking_equals] at h
    obtain rfl : s = value := Rule.eq_of_equalsAnswer_text h
    rw [Rule.holds_asking_startsWith, beginsWith_iff]
    exact List.prefix_rfl
  contains_of_startsWith value a h := by
    rw [Rule.holds_asking_startsWith] at h
    rw [Rule.holds_asking_contains]
    exact holdsText_of_beginsWith h
  value_fold _ htextual _ _ _ h := rule.holds_textual_congr question htextual h rfl
  text_fold _ htextual _ _ _ h := rule.holds_textual_congr question htextual rfl h
  enumeration operator value _ _ h :=
    (rule.asking operator value).holdsOf_congr question (.selections h)
  empty _ htextual a := by
    have hempty : (foldCase "").toList = [] := by decide
    rcases htextual with rfl | rfl
    · rw [Rule.holds_asking_contains, holdsText_iff, hempty]
      exact List.nil_infix
    · rw [Rule.holds_asking_startsWith, beginsWith_iff, hempty]
      exact List.nil_prefix

/-- A street that is one of two selections, and is asked for in capitals, which make two letters of
one. -/
theorem conditions_obey_laws_street :
    let question : Question := ⟨"street", .text "Streets", .checkbox, [], true, 0⟩
    let rule : Rule := ⟨1, "street", .equals, "Weiße Gasse", ⟨.showMessage, "Here"⟩, 0, true⟩
    let selected : Answer := .selections ["Weiße Gasse", "Am Markt"]
    rule.holds question (some selected) = true ∧ foldCase "Weiße Gasse" = foldCase "WEISSE GASSE" ∧
      (rule.asking .contains "WEISSE GASSE").holds question (some selected) = true := by
  intro question rule selected
  have hequals : rule.holds question (some selected) = true := by decide
  have hfold : foldCase "Weiße Gasse" = foldCase "WEISSE GASSE" := by decide
  have laws := conditions_obey_laws rule question
  refine ⟨hequals, hfold, ?_⟩
  rw [← laws.value_fold .contains (.inl rfl) _ _ selected hfold]
  exact laws.contains_of_equals _ selected hequals

/-! ## Looking into single selections -/

/-- A value whose folding is not empty, holds no comma and does not begin with a space is contained
in the selected options exactly when one of them contains it, each folded. So more selections
contain no less. -/
theorem contains_only_within_one (rule : Rule) (question : Question)
    (hoperator : rule.operator = .contains) (hne : foldCase rule.value ≠ "")
    (hcomma : ',' ∉ (foldCase rule.value).toList)
    (hspace : (foldCase rule.value).toList.head? ≠ some ' ') :
    (∀ options, rule.holds question (some (.selections options)) = true ↔
      ∃ s ∈ options, (foldCase rule.value).toList <:+: (foldCase s).toList) ∧
    ∀ options options', options ⊆ options' →
      rule.holds question (some (.selections options)) = true →
      rule.holds question (some (.selections options')) = true := by
  have hwithin : ∀ options, rule.holds question (some (.selections options)) = true ↔
      ∃ s ∈ options, (foldCase rule.value).toList <:+: (foldCase s).toList := by
    intro options
    have hchars : (foldCase rule.value).toList ≠ [] := by
      intro hnil
      exact hne (String.toList_injective hnil)
    rw [Rule.holds, Rule.holdsOf, hoperator, Rule.containsAnswer, holdsText_iff,
      Answer.toList_foldCase_joined, infix_intercalate_pair_iff hchars hcomma hspace]
    simp only [Answer.sorted, List.mem_map, List.mem_mergeSort, exists_exists_and_eq_and]
  refine ⟨hwithin, fun options options' hsub h => ?_⟩
  obtain ⟨s, hs, hfound⟩ := (hwithin options).mp h
  exact (hwithin options').mpr ⟨s, hsub hs, hfound⟩

/-- A word within a selection that holds a comma itself. -/
theorem contains_only_within_one_size :
    let question : Question := ⟨"kinds", .text "Kinds", .checkbox, [], true, 0⟩
    let rule : Rule := ⟨1, "kinds", .contains, "Small", ⟨.showMessage, "In stock"⟩, 0, true⟩
    (foldCase "Small" ≠ "" ∧ ',' ∉ (foldCase "Small").toList ∧
      (foldCase "Small").toList.head? ≠ some ' ') ∧
    rule.holds question (some (.selections ["red, small", "large"])) = true ∧
    rule.holds question (some (.selections ["red, sm", "all"])) = false := by
  intro question rule
  have hne : foldCase "Small" ≠ "" := by decide
  have hcomma : ',' ∉ (foldCase "Small").toList := by decide
  have hspace : (foldCase "Small").toList.head? ≠ some ' ' := by decide
  obtain ⟨hwithin, -⟩ := contains_only_within_one rule question rfl hne hcomma hspace
  refine ⟨⟨hne, hcomma, hspace⟩, (hwithin _).mpr ⟨"red, small", by simp, by decide⟩, ?_⟩
  rw [← Bool.not_eq_true, hwithin]
  decide

/-- A value with a comma may be found across two selections. -/
example :
    (⟨1, "kinds", .contains, "Large, Red", ⟨.showMessage, ""⟩, 0, true⟩ : Rule).containsAnswer
      (.selections ["large", "red, small"]) = true := by
  have hsorted : Answer.sorted ["large", "red, small"] = ["large", "red, small"] :=
    List.mergeSort_of_pairwise (by decide)
  rw [Rule.containsAnswer, Answer.joined, hsorted]
  decide

end FormRouting
