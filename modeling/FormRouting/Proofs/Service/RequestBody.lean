import FormRouting.Proofs.Json.Values
import FormRouting.Proofs.Reading
import FormRouting.SubmissionRequest

/-!
# What a body has to be

A body is taken as a submission exactly if it is an object whose answers are an object, each of them
null, a text, a number, a truth value or a flat list of such values without null, and whose address
and name are left out, null or a text (`IsBody`, `exists_ofValue_iff`). Then its submission holds what
the body holds (`Sent`), and nothing else does (`ofValue_eq_ok_iff`).
-/

namespace FormRouting.SubmissionRequest

/-! ## Answers -/

/-- A value that stands by itself: a text, a number or a truth value. -/
inductive IsScalar : Value → Prop where
  | text (s : String) : IsScalar (.text s)
  | int (n : Int) : IsScalar (.int n)
  | real (x : Binary64) : IsScalar (.real x)
  | bool (b : Bool) : IsScalar (.bool b)

/-- A value that can be an answer. -/
inductive IsAnswer : Value → Prop where
  | null : IsAnswer .null
  | scalar {v : Value} (h : IsScalar v) : IsAnswer v
  | list {items : List Value} (h : ∀ v ∈ items, IsScalar v) : IsAnswer (.list items)

variable {v : Value}

theorem isScalar_eq_true_iff : isScalar v = true ↔ IsScalar v := by
  constructor
  · intro h
    cases v <;> first | exact absurd h Bool.false_ne_true | constructor
  · rintro (_ | _ | _ | _) <;> rfl

theorem all_isScalar_iff {items : List Value} :
    items.all isScalar = true ↔ ∀ v ∈ items, IsScalar v := by
  simp only [List.all_eq_true, isScalar_eq_true_iff]

theorem isAnswer_eq_true_iff : isAnswer v = true ↔ IsAnswer v := by
  constructor
  · intro h
    cases v with
    | null => exact .null
    | list items => exact .list (all_isScalar_iff.mp h)
    | _ => exact .scalar (isScalar_eq_true_iff.mp h)
  · intro h
    cases h with
    | null => rfl
    | list h => exact all_isScalar_iff.mpr h
    | scalar h => cases h <;> rfl

/-- The answers are refused in nothing exactly if they are an object of values that can be answers. -/
theorem refusedAnswers_eq_nil_iff {found : Option Value} :
    refusedAnswers found = [] ↔
      ∃ answers, found = some (.map answers) ∧ ∀ e ∈ answers, IsAnswer e.2 := by
  unfold refusedAnswers
  split
  · rename_i answers
    simp only [List.map_eq_nil_iff, List.filter_eq_nil_iff, Bool.not_eq_true, Bool.not_eq_false',
      isAnswer_eq_true_iff]
    exact ⟨fun h => ⟨answers, rfl, h⟩, fun ⟨_, heq, h⟩ => by cases heq; exact h⟩
  · rename_i hother
    refine iff_of_false (List.cons_ne_nil _ _) ?_
    rintro ⟨answers, rfl, -⟩
    exact hother answers rfl

/-! ## The address and the name -/

/-- What a field says that may be left out, null or a text. -/
inductive TellsText (fields : List (Value × Value)) (name : String) : Option String → Prop where
  | absent (h : Value.lookup name fields = none) : TellsText fields name none
  | null (h : Value.lookup name fields = some .null) : TellsText fields name none
  | text {s : String} (h : Value.lookup name fields = some (.text s)) :
      TellsText fields name (some s)

variable {fields : List (Value × Value)} {name : String}

theorem textField_eq_some_iff {said : Option String} :
    textField fields name = some said ↔ TellsText fields name said := by
  unfold textField Value.field Value.fieldOr
  constructor
  · intro h
    cases hfield : Value.lookup name fields with
    | none =>
      rw [hfield] at h
      obtain rfl := Option.some.inj h
      exact .absent hfield
    | some v =>
      rw [hfield, Option.getD_some] at h
      split at h
      · obtain rfl := Option.some.inj h
        exact .null hfield
      · obtain rfl := Option.some.inj h
        exact .text hfield
      · cases h
  · intro h
    cases h with
    | absent h | null h | text h => rw [h]; rfl

/-! ## Bodies -/

/-- What the fields of a body say, as a submission. The answers are those of the body, under the same
keys, in the same order and with the same values. -/
structure Sent (fields : List (Value × Value)) (request : SubmissionRequest) : Prop where
  answers : Value.lookup "answers" fields = some (.map request.answers)
  email : TellsText fields "email" request.email
  name : TellsText fields "name" request.name

/-- A body that is a submission. Other fields than these three may hold anything. -/
inductive IsBody : Value → Prop where
  | object {fields answers : List (Value × Value)}
      (hanswers : Value.lookup "answers" fields = some (.map answers))
      (heach : ∀ e ∈ answers, IsAnswer e.2) (hemail : ∃ said, TellsText fields "email" said)
      (hname : ∃ said, TellsText fields "name" said) : IsBody (.map fields)

variable {request : SubmissionRequest}

/-- A submission is read off a body exactly if it holds what the body says, and its answers can be
answers. -/
theorem ofValue_eq_ok_iff :
    ofValue v = .ok request ↔
      ∃ fields, v = .map fields ∧ Sent fields request ∧ ∀ e ∈ request.answers, IsAnswer e.2 := by
  constructor
  · intro h
    unfold ofValue at h
    split at h
    · rename_i fields
      dsimp only at h
      split at h
      · rename_i answers email name hpaths hanswers hemail hname
        obtain rfl := Except.ok.inj h
        -- That nothing is refused says more of the answers than that they are an object.
        have hnone : refusedAnswers (Value.lookup "answers" fields) = [] :=
          (List.append_eq_nil_iff.mp (List.append_eq_nil_iff.mp hpaths).1).1
        obtain ⟨answers', hanswers', heach⟩ := refusedAnswers_eq_nil_iff.mp hnone
        obtain rfl : answers = answers' := by
          rw [hanswers] at hanswers'
          exact Value.map.inj (Option.some.inj hanswers')
        exact ⟨fields, rfl,
          ⟨hanswers, textField_eq_some_iff.mp hemail, textField_eq_some_iff.mp hname⟩, heach⟩
      · cases h
    · cases h
  · rintro ⟨fields, rfl, ⟨hanswers, hemail, hname⟩, heach⟩
    have hnone := refusedAnswers_eq_nil_iff.mpr ⟨request.answers, hanswers, heach⟩
    rw [← textField_eq_some_iff] at hemail hname
    rw [hanswers] at hnone
    unfold ofValue
    simp only [hanswers, hnone, hemail, hname, Option.isNone_some, Bool.false_eq_true, if_false,
      List.append_nil]

/-- A body is taken exactly if it is a submission. -/
theorem exists_ofValue_iff : (∃ request, ofValue v = .ok request) ↔ IsBody v := by
  simp only [ofValue_eq_ok_iff]
  constructor
  · rintro ⟨request, fields, rfl, hsent, heach⟩
    exact .object hsent.answers heach ⟨_, hsent.email⟩ ⟨_, hsent.name⟩
  · rintro ⟨hanswers, heach, ⟨email, hemail⟩, ⟨name, hname⟩⟩
    exact ⟨⟨_, email, name⟩, _, rfl, ⟨hanswers, hemail, hname⟩, heach⟩

/-! ## Texts -/

/-- A text that is taken as a submission is JSON for the body that it is read off. -/
theorem read_of_ofText {text : String} (h : ofText text = .ok request) :
    ∃ v, Json.read (dropMark text) = .ok v ∧ ofValue v = .ok request := by
  unfold ofText at h
  split at h
  · rename_i v hread
    exact ⟨v, hread, h⟩
  · cases h
  · cases h

/-- A body that is taken is a text that is. -/
theorem ofText_of_ofBody {isJson : Bool} {text : String} (h : ofBody isJson text = .ok request) :
    ofText text = .ok request := by
  unfold ofBody at h
  split_ifs at h
  exact h

theorem ofText_of_read {text : String} (h : Json.read (dropMark text) = .ok v) :
    ofText text = ofValue v := by
  rw [ofText, h]

/-- What is sent as JSON, and is not empty, is read as the submission that its value stands for. -/
theorem ofBody_of_read {isJson : Bool} {text : String} (hjson : isJson = true)
    (hsent : text.isEmpty = false) (h : Json.read (dropMark text) = .ok v) :
    ofBody isJson text = ofValue v := by
  rw [ofBody, hjson, hsent]
  exact ofText_of_read h

/-- The answers of a submission that is read off a text are JSON values. -/
theorem isJson_answers {text : String} (h : ofText text = .ok request) :
    (Value.map request.answers).IsJson := by
  obtain ⟨v, hread, hvalue⟩ := read_of_ofText h
  obtain ⟨fields, rfl, hsent, -⟩ := ofValue_eq_ok_iff.mp hvalue
  cases Json.isJson_of_read hread with
  | map _ hvalues =>
    obtain ⟨e, hmem, heq⟩ := Value.exists_mem_of_lookup hsent.answers
    exact heq ▸ hvalues e hmem

/-- The answers of a submission that is read off a text can be written. -/
theorem isWritable_answers {text : String} (h : ofText text = .ok request) :
    (Value.map request.answers).isWritable = true := by
  obtain ⟨v, hread, hvalue⟩ := read_of_ofText h
  obtain ⟨fields, rfl, hsent, -⟩ := ofValue_eq_ok_iff.mp hvalue
  have hfields := Json.isWritable_of_read hread
  rw [Value.isWritable, Value.areWritableEntries_iff] at hfields
  obtain ⟨e, hmem, heq⟩ := Value.exists_mem_of_lookup hsent.answers
  exact heq ▸ (hfields e hmem).2

end FormRouting.SubmissionRequest
