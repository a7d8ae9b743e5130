import FormRouting.Form.Public
import FormRouting.Proofs.Form.Definition
import FormRouting.Proofs.Form.DisplayOrder

/-!
# Forms that can be shown

A definition may fill the title, the description, the owner and the labels of a form with anything,
and building the form keeps what they hold. Showing it is stricter: a text is asked for in each of
these places. `PublicForm.Shows` says what a form is shown as, and `PublicForm.ofForm_eq_ok_iff` that it
is shown as this and nothing else. So a form that was built can be shown exactly when its definition
holds texts in these places (`exists_ofForm_iff`).
-/

namespace FormRouting

/-! ## Texts -/

namespace Value

/-- What a value holds where a text is asked for: the text itself, or its bytes in UTF-8. -/
inductive HoldsText : Value → String → Prop where
  | text (s : String) : HoldsText (.text s) s
  | bytes (s : String) : HoldsText (.bytes s.toUTF8.data.toList) s

/-- A value that holds a text. -/
def IsText (v : Value) : Prop :=
  ∃ s, v.HoldsText s

end Value

theorem Schema.text?_eq_some_iff {v : Value} {s : String} : text? v = some s ↔ v.HoldsText s := by
  constructor
  · intro h
    cases v with
    | text t =>
      obtain rfl := Option.some.inj h
      exact .text t
    | bytes bs =>
      unfold text? String.fromUTF8? at h
      dsimp only at h
      split_ifs at h with hvalid
      obtain rfl := Option.some.inj h
      exact .bytes (String.fromUTF8 ⟨bs.toArray⟩ hvalid)
    | _ => cases h
  · rintro (_ | _)
    · rfl
    · show String.fromUTF8? s.toUTF8 = some s
      rw [String.fromUTF8?, String.toUTF8_eq_toByteArray, dif_pos s.isValidUTF8]
      rfl

/-- A field that may be null holds nothing or a text. -/
inductive Value.HoldsOptionalText : Value → Option String → Prop where
  | null : HoldsOptionalText .null none
  | some {v : Value} {s : String} (h : v.HoldsText s) : HoldsOptionalText v (some s)

theorem Schema.optionalText?_eq_some_iff {v : Value} {s : Option String} :
    optionalText? v = some s ↔ v.HoldsOptionalText s := by
  constructor
  · intro h
    by_cases hnull : v = .null
    · subst hnull
      obtain rfl := Option.some.inj h
      exact .null
    · have htext : (text? v).map some = some s := by
        cases v with
        | null => exact absurd rfl hnull
        | _ => exact h
      obtain ⟨t, ht, rfl⟩ := Option.map_eq_some_iff.mp htext
      exact .some (text?_eq_some_iff.mp ht)
  · rintro (_ | h)
    · rfl
    · have htext := text?_eq_some_iff.mpr h
      cases h with
      | text => rfl
      | bytes =>
        unfold optionalText?
        dsimp only
        rw [htext]
        rfl

/-! ## Questions -/

/-- A question is shown with all that it has, its label as the text that this holds. -/
structure PublicQuestion.Shows (q : Question) (shown : PublicQuestion) : Prop where
  id : shown.id = q.id
  label : q.label.HoldsText shown.label
  type : shown.type = q.type
  options : shown.options = q.options
  isRequired : shown.isRequired = q.required
  orderIndex : shown.orderIndex = q.orderIndex

theorem PublicQuestion.ofQuestion_eq_ok_iff {q : Question} {shown : PublicQuestion} :
    ofQuestion q = .ok shown ↔ Shows q shown := by
  unfold ofQuestion
  constructor
  · intro h
    split at h
    · rename_i label hlabel
      obtain rfl := Except.ok.inj h
      exact ⟨rfl, Schema.text?_eq_some_iff.mp hlabel, rfl, rfl, rfl, rfl⟩
    · cases h
  · intro h
    obtain ⟨id, label, type, options, isRequired, orderIndex⟩ := shown
    rw [Schema.text?_eq_some_iff.mpr h.label]
    obtain ⟨rfl, -, rfl, rfl, rfl, rfl⟩ := h
    rfl

theorem PublicQuestion.exists_shows_iff {q : Question} :
    (∃ shown, Shows q shown) ↔ q.label.IsText := by
  constructor
  · rintro ⟨shown, h⟩
    exact ⟨_, h.label⟩
  · rintro ⟨label, h⟩
    exact ⟨⟨q.id, label, q.type, q.options, q.required, q.orderIndex⟩, rfl, h, rfl, rfl, rfl, rfl⟩

/-! ## Forms -/

namespace PublicForm

/-- A form is shown with the texts that its fields hold, the owner with a name in place of none, and
with its questions one by one in the order in which they are put. -/
structure Shows (form : Form) (shown : PublicForm) : Prop where
  id : Schema.integer? form.id = some shown.id
  title : form.title.HoldsText shown.title
  description : form.description.HoldsOptionalText shown.description
  owner : (form.ownerName.orElse (.text unknownOwner)).HoldsText shown.ownerName
  questions : List.Forall₂ PublicQuestion.Shows form.orderedQuestions shown.questions

/-- What a form is shown as. -/
theorem ofForm_eq_ok_iff {form : Form} {shown : PublicForm} :
    ofForm form = .ok shown ↔ Shows form shown := by
  have hquestions (questions : List PublicQuestion) :
      form.orderedQuestions.mapM PublicQuestion.ofQuestion = .ok questions ↔
        List.Forall₂ PublicQuestion.Shows form.orderedQuestions questions := by
    simp only [mapM_eq_ok_iff, PublicQuestion.ofQuestion_eq_ok_iff]
  unfold ofForm
  constructor
  · intro h
    obtain ⟨questions, hread, h⟩ := bind_eq_ok_iff.mp h
    dsimp only at h
    split at h
    · rename_i id title description owner hid htitle hdescription howner
      obtain rfl := Except.ok.inj h
      exact ⟨hid, Schema.text?_eq_some_iff.mp htitle,
        Schema.optionalText?_eq_some_iff.mp hdescription, Schema.text?_eq_some_iff.mp howner,
        (hquestions questions).mp hread⟩
    · cases h
  · intro h
    refine bind_eq_ok_iff.mpr ⟨shown.questions, (hquestions _).mpr h.questions, ?_⟩
    dsimp only
    rw [h.id, Schema.text?_eq_some_iff.mpr h.title,
      Schema.optionalText?_eq_some_iff.mpr h.description, Schema.text?_eq_some_iff.mpr h.owner]
    rfl

/-- A form with an integer for its id can be shown exactly when there are texts where they are asked
for. -/
theorem exists_shows_iff {form : Form} {id : ℤ} (hid : Schema.integer? form.id = some id) :
    (∃ shown, Shows form shown) ↔
      form.title.IsText ∧ (∃ description, form.description.HoldsOptionalText description) ∧
        (form.ownerName.orElse (.text unknownOwner)).IsText ∧
        ∀ q ∈ form.questions, q.label.IsText := by
  have hquestions : (∃ questions, List.Forall₂ PublicQuestion.Shows form.orderedQuestions questions) ↔
      ∀ q ∈ form.questions, q.label.IsText := by
    have hall : (∃ shown, form.orderedQuestions.mapM PublicQuestion.ofQuestion = .ok shown) ↔
        ∀ q ∈ form.orderedQuestions, ∃ shown, PublicQuestion.ofQuestion q = .ok shown :=
      exists_mapM_eq_ok_iff
    have hordered (q : Question) : q ∈ form.orderedQuestions ↔ q ∈ form.questions :=
      Question.mem_inOrder
    simpa only [mapM_eq_ok_iff, PublicQuestion.ofQuestion_eq_ok_iff,
      PublicQuestion.exists_shows_iff, hordered] using hall
  rw [← hquestions]
  constructor
  · rintro ⟨shown, h⟩
    exact ⟨⟨_, h.title⟩, ⟨_, h.description⟩, ⟨_, h.owner⟩, _, h.questions⟩
  · rintro ⟨⟨title, htitle⟩, ⟨description, hdescription⟩, ⟨owner, howner⟩, questions, hshown⟩
    exact ⟨⟨id, title, description, questions, owner⟩, hid, htitle, hdescription, howner, hshown⟩

end PublicForm

/-- The numbers that a form is shown with can be written: its id, and the order indexes of its
questions. -/
structure Form.Printable (form : Form) : Prop where
  id : form.id.isWritable = true
  orderIndexes : ∀ q ∈ form.questions, IntegerText.isWritable q.orderIndex = true

/-- Questions are shown with their order indexes. -/
theorem PublicQuestion.forall_orderIndex_iff {questions : List Question}
    {shown : List PublicQuestion} (h : List.Forall₂ Shows questions shown) {P : ℤ → Prop} :
    (∀ q ∈ shown, P q.orderIndex) ↔ ∀ q ∈ questions, P q.orderIndex := by
  induction h with
  | nil => simp
  | cons hq _ ih => rw [List.forall_mem_cons, List.forall_mem_cons, ih, hq.orderIndex]

/-! ## Definitions -/

/-- A definition holds texts where they are asked for: in the title and, unless they are left blank,
in the description, the owner and the labels of the questions. -/
structure Form.Presentable (entries : List (Value × Value)) : Prop where
  title : (Value.fieldOr entries "title" (.text "")).IsText
  description : Value.field entries "description" ≠ .null → (Value.field entries "description").IsText
  owner : (Value.field entries "owner_name").truthy → (Value.field entries "owner_name").IsText
  labels : ∀ records, listed entries "questions" = .ok records →
    ∀ question, .map question ∈ records → (Value.fieldOr question "label" (.text "")).IsText

theorem Value.exists_holdsOptionalText_iff {v : Value} :
    (∃ s, v.HoldsOptionalText s) ↔ (v ≠ .null → v.IsText) := by
  constructor
  · rintro ⟨s, _ | h⟩ hne
    · exact absurd rfl hne
    · exact ⟨_, h⟩
  · intro h
    by_cases hnull : v = .null
    · exact ⟨none, hnull ▸ .null⟩
    · obtain ⟨s, hs⟩ := h hnull
      exact ⟨some s, .some hs⟩

theorem Value.isText_orElse_iff {v : Value} {s : String} :
    (v.orElse (.text s)).IsText ↔ (v.truthy → v.IsText) := by
  unfold orElse
  split_ifs with h
  · exact ⟨fun htext _ => htext, fun htext => htext h⟩
  · exact iff_of_true ⟨s, .text s⟩ fun htruthy => absurd htruthy h

namespace Form

variable {entries : List (Value × Value)} {form : Form}

/-- The labels of questions are those of the records that they are read from. -/
theorem forall_label_iff {records : List Value} {questions : List Question}
    (h : List.Forall₂ (fun record q => Question.ofRecord record = .ok q) records questions)
    {P : Value → Prop} :
    (∀ q ∈ questions, P q.label) ↔
      ∀ question, .map question ∈ records → P (Value.fieldOr question "label" (.text "")) := by
  induction h with
  | nil => simp
  | @cons record q records questions hrecord _ ih =>
    obtain ⟨question, rfl, hread⟩ := Question.readFrom_of_ofRecord hrecord
    simp only [List.mem_cons, forall_eq_or_imp, Value.map.injEq, ih, hread.label]

/-- A form that was built has an integer for its id, which is what it is shown with. -/
theorem MadeOf.id_eq_of_integer? (h : form.MadeOf entries) {n : ℤ}
    (hid : Schema.integer? form.id = some n) : form.id = .int n := by
  obtain ⟨id, m, slug, -, -, -, -, hform⟩ := assemble_eq_ok_iff.mp h.assembled
  have hm : form.id = .int m := congrArg Form.id hform
  rw [hm] at hid ⊢
  exact congrArg Value.int (Option.some.inj hid)

/-- A form that was built can be shown exactly when its definition holds texts where they are asked
for. -/
theorem MadeOf.exists_ofForm_iff (h : form.MadeOf entries) :
    (∃ shown, PublicForm.ofForm form = .ok shown) ↔ Presentable entries := by
  obtain ⟨records, hlisted, hread⟩ := h.questions
  obtain ⟨id, n, slug, -, -, -, -, hform⟩ := assemble_eq_ok_iff.mp h.assembled
  have hid : Schema.integer? form.id = some n := by
    rw [hform]
    rfl
  have htitle : form.title = Value.fieldOr entries "title" (.text "") := congrArg Form.title hform
  have hdescription : form.description = Value.field entries "description" :=
    congrArg Form.description hform
  have howner : form.ownerName = Value.field entries "owner_name" := congrArg Form.ownerName hform
  simp only [PublicForm.ofForm_eq_ok_iff]
  rw [PublicForm.exists_shows_iff hid, Value.exists_holdsOptionalText_iff, Value.isText_orElse_iff,
    forall_label_iff hread, htitle, hdescription, howner]
  constructor
  · rintro ⟨htitle, hdescription, howner, hlabels⟩
    refine ⟨htitle, hdescription, howner, fun records' hlisted' => ?_⟩
    obtain rfl := Except.ok.inj (hlisted.symm.trans hlisted')
    exact hlabels
  · exact fun h => ⟨h.title, h.description, h.owner, h.labels records hlisted⟩

end Form

end FormRouting
