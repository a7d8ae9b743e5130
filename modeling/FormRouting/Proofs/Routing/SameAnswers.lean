import FormRouting.Proofs.StableSort
import FormRouting.Routing.Evaluation
import Mathlib.Data.List.Forall2
import Mathlib.Data.String.Basic

/-!
# Answers that are the same

Two answers are the same when they are one text, or name the same options in any order
(`Answer.Same`), and two sets of answers when they answer the same questions with the same answers
(`AnswerSet.Same`). Evaluation does not tell such sets apart (`evaluate_congr`): the operators look
at an answer only through its members or through its joined text, and joining sorts the options.

A value may stand in place of an answer: a text, or a set of texts in any order
(`Answer.WrittenAs`). A condition holds of it as of the answer (`holdsOfValue_of_writtenAs`).
-/

namespace FormRouting

namespace Answer

/-- Two answers are one text, or the same options in any order. -/
inductive Same : Answer → Answer → Prop where
  | text (s : String) : Same (.text s) (.text s)
  | selections {xs ys : List String} (h : xs.Perm ys) : Same (.selections xs) (.selections ys)

theorem Same.refl (a : Answer) : a.Same a := by
  cases a with
  | text s => exact .text s
  | selections options => exact .selections (.refl options)

theorem Same.symm {a b : Answer} (h : a.Same b) : b.Same a := by
  cases h with
  | text s => exact .text s
  | selections h => exact .selections h.symm

theorem Same.trans {a b c : Answer} (hab : a.Same b) (hbc : b.Same c) : a.Same c := by
  cases hab with
  | text s => exact hbc
  | selections hab =>
    cases hbc with
    | selections hbc => exact .selections (hab.trans hbc)

/-- Sorting forgets the order in which the options were selected. -/
theorem sorted_congr {xs ys : List String} (h : xs.Perm ys) : sorted xs = sorted ys := by
  have htrans : ∀ a b c : String, decide (a ≤ b) → decide (b ≤ c) → decide (a ≤ c) := by
    intro a b c hab hbc
    exact decide_eq_true ((of_decide_eq_true hab).trans (of_decide_eq_true hbc))
  have htotal : ∀ a b : String, decide (a ≤ b) || decide (b ≤ a) := by
    intro a b
    rw [Bool.or_eq_true, decide_eq_true_iff, decide_eq_true_iff]
    exact le_total a b
  unfold sorted
  -- The order of texts is antisymmetric, so no two different ones tie.
  refine mergeSort_eq_of_perm htrans htotal (fun a _ b _ hab hba => ?_) h
  exact le_antisymm (of_decide_eq_true hab) (of_decide_eq_true hba)

/-- Same answers have one joined text. -/
theorem Same.joined_eq {a b : Answer} (h : a.Same b) : a.joined = b.joined := by
  cases h with
  | text s => rfl
  | selections h => rw [joined, joined, sorted_congr h]

/-- What an answer is as a value: a text, or a set of texts, which holds them in some order. -/
inductive WrittenAs : Answer → Value → Prop where
  | text (s : String) : WrittenAs (.text s) (.text s)
  | selections (frozen : Bool) {xs ys : List String} (h : xs.Perm ys) :
      WrittenAs (.selections xs) (.set frozen (ys.map .text))

theorem writtenAs_toValue (a : Answer) : a.WrittenAs a.toValue := by
  cases a with
  | text s => exact .text s
  | selections options => exact .selections true (List.mergeSort_perm options _).symm

theorem texts?_map_text (texts : List String) : texts? (texts.map .text) = some texts := by
  induction texts with
  | nil => rfl
  | cons s texts ih => rw [List.map_cons, texts?, ih, Option.map_some]

/-- A value that an answer is written as is the same answer. -/
theorem WrittenAs.ofValue {a : Answer} {w : Value} (h : a.WrittenAs w) :
    ∃ b, Answer.ofValue w = .ok b ∧ a.Same b := by
  cases h with
  | text s => exact ⟨_, rfl, .text s⟩
  | @selections frozen xs ys h =>
    have hitems : (Value.set frozen (ys.map .text)).items?.bind texts? = some ys :=
      texts?_map_text ys
    refine ⟨.selections ys, ?_, .selections h⟩
    unfold Answer.ofValue
    dsimp only
    rw [hitems]

end Answer

/-! ## Conditions -/

namespace Rule

/-- Same answers equal the same values. -/
theorem equalsAnswer_congr (rule : Rule) (question : Question) {a b : Answer} (h : a.Same b) :
    rule.equalsAnswer question a = rule.equalsAnswer question b := by
  unfold equalsAnswer
  cases h with
  | text s => rfl
  | selections h =>
    rw [Bool.eq_iff_iff]
    split
    · simp only [List.contains_iff_mem]
      exact h.mem_iff
    · simp

/-- A condition holds of both of two same answers or of neither. -/
theorem holdsOf_congr (rule : Rule) (question : Question) {a b : Answer} (h : a.Same b) :
    rule.holdsOf question a = rule.holdsOf question b := by
  unfold holdsOf containsAnswer startsAnswer
  rw [equalsAnswer_congr rule question h, h.joined_eq]

/-- A value equals what the answer equals that is written as it. -/
theorem equalsValue_of_writtenAs (rule : Rule) (question : Question) {a : Answer} {w : Value}
    (h : a.WrittenAs w) : rule.equalsValue question w = .ok (rule.equalsAnswer question a) := by
  unfold equalsAnswer
  cases h with
  | text s =>
    have hbeq : (Answer.text s == Answer.text rule.value) = (s == rule.value) := by
      rw [Bool.eq_iff_iff, beq_iff_eq, beq_iff_eq, Answer.text.injEq]
    rw [hbeq]
    split_ifs <;> rfl
  | @selections frozen xs ys h =>
    have hmembers : (ys.map Value.text).any (·.same (.text rule.value)) = xs.contains rule.value := by
      rw [List.any_map, Bool.eq_iff_iff, List.contains_iff_mem, h.mem_iff]
      simp [Value.same]
    unfold equalsValue
    dsimp only
    split_ifs
    · rw [← hmembers]
      rfl
    · rfl

/-- What is null is no answer; of any other value a condition holds by its operator. -/
theorem holdsOfValue_of_ne_null (rule : Rule) (question : Question) {v : Value} (hv : v ≠ .null) :
    rule.holdsOfValue question v =
      match rule.operator with
      | .equals => rule.equalsValue question v
      | .notEquals => (rule.equalsValue question v).map (!·)
      | .contains => (Answer.ofValue v).map rule.containsAnswer
      | .startsWith => (Answer.ofValue v).map rule.startsAnswer := by
  unfold holdsOfValue
  cases v with
  | null => exact absurd rfl hv
  | _ => cases rule.operator <;> rfl

/-- A condition holds of a value exactly when it holds of the answer that is written as it. -/
theorem holdsOfValue_of_writtenAs (rule : Rule) (question : Question) {a : Answer} {w : Value}
    (h : a.WrittenAs w) : rule.holdsOfValue question w = .ok (rule.holds question (some a)) := by
  have hnull : w ≠ .null := by
    rintro rfl
    cases h
  obtain ⟨b, hb, hsame⟩ := h.ofValue
  rw [holdsOfValue_of_ne_null rule question hnull, holds, holdsOf_congr rule question hsame,
    equalsValue_of_writtenAs rule question h, equalsAnswer_congr rule question hsame, hb]
  unfold holdsOf
  cases rule.operator <;> rfl

end Rule

/-! ## Sets of answers -/

namespace AnswerSet

/-- Two sets answer the same questions in the same order, with answers that are the same. -/
def Same (A B : AnswerSet Answer) : Prop :=
  List.Forall₂ (fun e f => e.1 = f.1 ∧ e.2.Same f.2) A.entries B.entries

/-- Looking a question up finds same answers, or none in either set. -/
theorem Same.get? {A B : AnswerSet Answer} (h : A.Same B) (id : String) :
    Option.Rel Answer.Same (A.get? id) (B.get? id) := by
  unfold Same at h
  unfold AnswerSet.get?
  generalize A.entries = es, B.entries = fs at h ⊢
  induction h with
  | nil => exact .none
  | @cons e f _ _ hef _ ih =>
    rw [List.find?_cons, List.find?_cons, hef.1]
    cases f.1 == id with
    | true => exact .some hef.2
    | false => exact ih

/-- Recording same answers keeps two lists of entries the same. -/
theorem forall₂_putInto (id : String) {a b : Answer} (hab : a.Same b)
    {es fs : List (String × Answer)}
    (h : List.Forall₂ (fun e f => e.1 = f.1 ∧ e.2.Same f.2) es fs) :
    List.Forall₂ (fun e f => e.1 = f.1 ∧ e.2.Same f.2) (putInto id a es) (putInto id b fs) := by
  induction h with
  | nil => exact .cons ⟨rfl, hab⟩ .nil
  | cons hef hrest ih =>
    rw [putInto, putInto, hef.1]
    split
    · exact .cons ⟨rfl, hab⟩ hrest
    · exact .cons hef ih

/-- Sets made of same entries are the same. -/
theorem same_ofList {es fs : List (String × Answer)}
    (h : List.Forall₂ (fun e f => e.1 = f.1 ∧ e.2.Same f.2) es fs) :
    (ofList es).Same (ofList fs) := by
  -- The induction needs it for any two sets to begin with.
  have hfold : ∀ A B : AnswerSet Answer, A.Same B →
      (es.foldl (fun answers e => answers.insert e.1 e.2) A).Same
        (fs.foldl (fun answers e => answers.insert e.1 e.2) B) := by
    induction h with
    | nil => exact fun _ _ hAB => hAB
    | cons hef _ ih =>
      intro A B hAB
      rw [List.foldl_cons, List.foldl_cons, hef.1]
      exact ih _ _ (forall₂_putInto _ hef.2 hAB)
  exact hfold _ _ .nil

end AnswerSet

/-! ## Evaluation -/

theorem Rule.isSatisfied_congr (rule : Rule) (questions : List Question) {A B : AnswerSet Answer}
    (h : A.Same B) : rule.isSatisfied questions A = rule.isSatisfied questions B := by
  unfold isSatisfied
  cases Question.withId? questions rule.questionId with
  | none => rfl
  | some question =>
    have hrel := h.get? rule.questionId
    dsimp only
    generalize A.get? rule.questionId = a, B.get? rule.questionId = b at hrel ⊢
    cases hrel with
    | none => rfl
    | some hab => exact holdsOf_congr rule question hab

/-- Evaluation decides alike on sets of answers that are the same. -/
theorem Decision.evaluate_congr {A B : AnswerSet Answer} (h : A.Same B) (rules : List Rule)
    (questions : List Question) :
    Decision.evaluate A rules questions = Decision.evaluate B rules questions := by
  have hsatisfied : (fun rule : Rule => rule.isSatisfied questions A) =
      fun rule => rule.isSatisfied questions B :=
    funext fun rule => rule.isSatisfied_congr questions h
  unfold Decision.evaluate Rule.select
  rw [hsatisfied]

end FormRouting
