import FormRouting.Proofs.Form.Presentable
import FormRouting.Proofs.Json.Values
import FormRouting.Proofs.Service.Recording

/-!
# Showing forms

A visitor asks for a form by its slug (`Service.AsksForm`). A form that can be shown, with numbers
that can be written, is the reply; for any other, the request fails in a way that nothing expects,
although the form is there and was built without a fault (`serve_of_asksForm`). Whether that happens is
up to the texts of the definition and to the numbers of the form (`loaded_form_is_shown_iff`).
-/

namespace FormRouting.Service

variable {s : Service} {r : Request} {slug : String} {form : Form}

/-- A request asks for a form: it reaches the place where the form under the slug is shown, the store
has this form, published, and the call of the store works. -/
structure AsksForm (s : Service) (r : Request) (slug : String) (form : Form) : Prop where
  route : Routing.ofRequest s.config.isLocal r.verb (Target.path r.target) = .found (.form slug)
  loads : s.faults.lookup .getForm = none
  stored : s.store.get? slug = some form
  published : form.isPublished = true

/-- What a form is shown as can be written exactly when its numbers can be. -/
theorem isStrict_shown {shown : PublicForm} (h : shown.Shows form) (hid : form.id = .int shown.id) :
    Json.isStrict shown.toValue = true ↔ form.Printable := by
  -- Texts can be shown whatever they are, so that only the numbers are left.
  have htexts : ∀ texts : List String, Json.areStrict (texts.map Value.text) = true := fun texts => by
    rw [Json.areStrict_iff, List.forall_mem_map]
    exact fun _ _ => rfl
  have hquestion : ∀ q : PublicQuestion,
      Json.isStrict q.toValue = IntegerText.isWritable q.orderIndex := fun q => by
    simp [PublicQuestion.toValue, Value.record, Json.isStrict, Json.areStrictEntries,
      Json.keyText?, htexts]
  have hparts : Json.isStrict shown.toValue = true ↔ IntegerText.isWritable shown.id = true ∧
      Json.areStrict (shown.questions.map (·.toValue)) = true := by
    unfold PublicForm.toValue
    cases shown.description <;>
      simp [Value.record, Json.isStrict, Json.areStrictEntries, Json.keyText?]
  rw [hparts, Json.areStrict_iff, List.forall_mem_map]
  simp only [hquestion]
  rw [PublicQuestion.forall_orderIndex_iff h.questions
    (P := fun index => IntegerText.isWritable index = true), Form.orderedQuestions]
  simp only [Question.mem_inOrder]
  constructor
  · rintro ⟨hwritable, hindexes⟩
    exact ⟨by rw [hid]; exact hwritable, hindexes⟩
  · intro hform
    have hwritable := hform.id
    rw [hid] at hwritable
    exact ⟨hwritable, hform.orderIndexes⟩

/-- A request for a form is answered with what the form is shown as, and fails if it cannot be shown,
or this cannot be written. -/
theorem serve_of_asksForm (h : s.AsksForm r slug form) :
    (∀ shown, PublicForm.ofForm form = .ok shown → Json.isStrict shown.toValue = true →
      (s.serve r).2.2.status = 200 ∧ (s.serve r).2.2.content = .json shown.toValue) ∧
    ((¬∃ shown, PublicForm.ofForm form = .ok shown ∧ Json.isStrict shown.toValue = true) →
      (s.serve r).2.2.status = 500 ∧ (s.serve r).2.2.content = internalError) := by
  have hload := s.loadForm_eq_iff.mpr ⟨h.loads, h.stored, h.published⟩
  obtain ⟨hstatus, hcontent⟩ := serve_of_showForm h.route rfl rfl hload
  rw [hstatus, hcontent]
  unfold publicForm
  constructor
  · intro shown hshown hstrict
    rw [hshown]
    dsimp only
    rw [Service.shown, if_pos hstrict]
    exact ⟨rfl, rfl⟩
  · intro hnone
    cases hshown : PublicForm.ofForm form with
    | ok shown =>
      have hstrict : ¬Json.isStrict shown.toValue = true := fun h => hnone ⟨shown, hshown, h⟩
      dsimp only
      rw [Service.shown, if_neg hstrict]
      exact ⟨rfl, rfl⟩
    | error e => exact ⟨rfl, rfl⟩

/-- A form that was built from a definition, whatever values this has, can be shown exactly when the
definition holds texts where they are asked for. It is shown with every question once, in the order in
which they are put, and with all that the questions have. A request for the form, published, is
answered with what it is shown as if it can be shown and its numbers can be written, and else fails in
a way that nothing expects. -/
theorem loaded_form_is_shown_iff {definition : Value} {reports : List LogEntry} {form : Form}
    (h : Form.ofDefinition definition = (reports, .ok form)) :
    ∃ entries, definition = .map entries ∧
      ((∃ shown, PublicForm.ofForm form = .ok shown) ↔ Form.Presentable entries) ∧
      (∀ shown, PublicForm.ofForm form = .ok shown → ∃ listed : List Question,
        listed.Perm form.questions ∧ listed.Pairwise (fun p q => p.le q) ∧
          List.Forall₂ PublicQuestion.Shows listed shown.questions) ∧
      ∀ (s : Service) (r : Request) (slug : String), s.AsksForm r slug form →
        (Form.Presentable entries ∧ form.Printable →
          ∃ shown, PublicForm.ofForm form = .ok shown ∧
            (s.serve r).2.2.status = 200 ∧ (s.serve r).2.2.content = .json shown.toValue) ∧
        (¬(Form.Presentable entries ∧ form.Printable) →
          (s.serve r).2.2.status = 500 ∧ (s.serve r).2.2.content = internalError) := by
  obtain ⟨entries, rfl, hmade⟩ := Form.madeOf_of_ofDefinition h
  have hiff := hmade.exists_ofForm_iff
  have hstrict : ∀ shown, PublicForm.ofForm form = .ok shown →
      (Json.isStrict shown.toValue = true ↔ form.Printable) := by
    intro shown hshown
    have hshows := PublicForm.ofForm_eq_ok_iff.mp hshown
    exact isStrict_shown hshows (hmade.id_eq_of_integer? hshows.id)
  refine ⟨entries, rfl, hiff, fun shown hshown => ?_, fun s r slug hasks => ⟨?_, ?_⟩⟩
  · exact ⟨form.orderedQuestions, Question.perm_inOrder _, Question.pairwise_le_inOrder _,
      (PublicForm.ofForm_eq_ok_iff.mp hshown).questions⟩
  · rintro ⟨hpresentable, hprintable⟩
    obtain ⟨shown, hshown⟩ := hiff.mpr hpresentable
    exact ⟨shown, hshown,
      (serve_of_asksForm hasks).1 shown hshown ((hstrict shown hshown).mpr hprintable)⟩
  · intro hnot
    refine (serve_of_asksForm hasks).2 ?_
    rintro ⟨shown, hshown, hwritten⟩
    exact hnot ⟨hiff.mp ⟨shown, hshown⟩, (hstrict shown hshown).mp hwritten⟩

/-- A definition whose title is given as bytes, and whose owner is zero. Of its questions, the one that
comes second is put first. -/
def shelfDefinition : Value :=
  Value.record [
    ("id", .text "3"), ("slug", .text "shelf"), ("title", .bytes "Shelf".toUTF8.data.toList),
    ("owner_name", .int 0),
    ("questions", .list [
      Value.record [("id", .int 2), ("type", .text "text"), ("order_index", .text "1")],
      Value.record [("id", .int 1), ("type", .text "radio"), ("label", .text "Size"),
        ("options", .list [.int 1, .int 2]), ("is_required", .bool false)]])]

/-- The form of this definition. -/
def shelf : Form :=
  ⟨.int 3, .text "shelf", .bytes "Shelf".toUTF8.data.toList, .null, .bool true, .int 0,
    [⟨"2", .text "", .text, [], true, 1⟩, ⟨"1", .text "Size", .radio, ["1", "2"], false, 0⟩], []⟩

/-- A service with the given form. -/
def showroom (form : Form) : Service :=
  start ⟨"test", "INFO", "memory", "", none, 10, "Thank you", "routing", 8013, "0.0.0.0"⟩
    (.ofForms [form] none)

/-- The form is shown, with a title that is a text and with a name for the owner. -/
theorem loaded_form_is_shown_iff_shelf :
    let visit : Request := ⟨"GET", "/forms/shelf", [], "", "1"⟩
    Form.ofDefinition shelfDefinition = ([], .ok shelf) ∧
      (showroom shelf).AsksForm visit "shelf" shelf ∧
      ((showroom shelf).serve visit).2.2.status = 200 ∧
      ∃ shown, PublicForm.ofForm shelf = .ok shown ∧ shown.title = "Shelf" ∧
        shown.ownerName = "Unknown" ∧ shown.questions.map (·.id) = ["1", "2"] := by
  intro visit
  have hbuilt : Form.ofDefinition shelfDefinition = ([], .ok shelf) := by cbv
  have hasks : (showroom shelf).AsksForm visit "shelf" shelf :=
    ⟨by decide +kernel, rfl, List.lookup_cons_self, rfl⟩
  obtain ⟨entries, hentries, hiff, hshows, hserve⟩ := loaded_form_is_shown_iff hbuilt
  obtain rfl := Value.map.inj hentries
  have hshown : PublicForm.ofForm shelf = .ok ⟨3, "Shelf", none,
      [⟨"1", "Size", .radio, ["1", "2"], false, 0⟩, ⟨"2", "", .text, [], true, 1⟩], "Unknown"⟩ := by
    cbv
  have hprintable : shelf.Printable :=
    ⟨IntegerText.isWritable_of_lt_ten (by decide), fun q hq =>
      IntegerText.isWritable_of_lt_ten (by revert q; decide)⟩
  obtain ⟨shown, -, hstatus, -⟩ :=
    (hserve _ visit "shelf" hasks).1 ⟨hiff.mp ⟨_, hshown⟩, hprintable⟩
  exact ⟨hbuilt, hasks, hstatus, _, hshown, rfl, rfl, rfl⟩

/-- A form with a number for its title. -/
def numbered : Form :=
  ⟨.int 1, .text "a", .int 5, .null, .bool true, .null, [], []⟩

/-- A form with a number for its title is built without a fault and published, but it is not shown. -/
theorem number_for_title_is_not_shown :
    let definition := Value.record [("id", .int 1), ("slug", .text "a"), ("title", .int 5)]
    Form.ofDefinition definition = ([], .ok numbered) ∧ numbered.isPublished = true ∧
      (showroom numbered).store.get? "a" = some numbered ∧
      PublicForm.ofForm numbered = .error ⟨[["title"]]⟩ ∧
      ((showroom numbered).serve ⟨"GET", "/forms/a", [], "", "1"⟩).2.2.status = 500 := by
  intro definition
  have hrefused : PublicForm.ofForm numbered = .error ⟨[["title"]]⟩ := by cbv
  have hasks : (showroom numbered).AsksForm ⟨"GET", "/forms/a", [], "", "1"⟩ "a" numbered :=
    ⟨by decide +kernel, rfl, List.lookup_cons_self, rfl⟩
  have hunshown : ¬∃ shown, PublicForm.ofForm numbered = .ok shown ∧
      Json.isStrict shown.toValue = true := by
    rintro ⟨shown, hshown, -⟩
    cases hrefused.symm.trans hshown
  exact ⟨by cbv, rfl, List.lookup_cons_self, hrefused, ((serve_of_asksForm hasks).2 hunshown).1⟩

end FormRouting.Service
