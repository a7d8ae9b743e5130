import FormRouting.Proofs.Form.Presentable
import FormRouting.Proofs.Routing.RepeatedQuestions
import FormRouting.Proofs.Store.Calls
import FormRouting.Proofs.Value.DecimalOrder
import FormRouting.Proofs.Value.Mapping

/-!
# The order of rows and the order of questions

A database returns the rows of a form's questions by index and then by id, where an id is an integer
(`InQueryOrder`). The form keeps the rows in this order, but its questions are put by index and then
by id as a text. So with one index, questions keep the order of their rows exactly when the texts of
their ids ascend with the integers (`questions_follow_rows_iff`). They do for ids with equally many
digits, while 10 is put before 2.
-/

namespace FormRouting

namespace Postgres

/-! ## Rows -/

/-- What the rows of questions are ordered by. -/
structure RowKey where
  id : ℤ
  index : ℤ

/-- The row of a question with an integer id and an integer index, and anything in its other
columns. -/
structure QuestionRow (row : List (Value × Value)) (key : RowKey) : Prop where
  id : Value.lookup "id" row = some (.int key.id)
  index : Value.lookup "order_index" row = some (.int key.index)

/-- Rows come as the query returns them: by index and then by id, which no two of them share. -/
structure InQueryOrder (keys : List RowKey) : Prop where
  distinct : (keys.map (·.id)).Nodup
  ordered : keys.Pairwise fun a b => a.index < b.index ∨ a.index = b.index ∧ a.id ≤ b.id

/-- The question of a row has the id and the index of the row. -/
theorem QuestionRow.read {row : List (Value × Value)} {key : RowKey} {q : Question}
    (hrow : QuestionRow row key) (h : questionOfRow (.map row) = .ok q) :
    q.id = toString key.id ∧ q.orderIndex = key.index := by
  obtain ⟨record, hrecord, hquestion⟩ := bind_eq_ok_iff.mp h
  -- Only the options of a row may differ from those of the record that is read.
  obtain ⟨entries, rfl, hentries⟩ : ∃ entries, record = .map entries ∧
      ∀ name, "options" ≠ name → Value.lookup name entries = Value.lookup name row := by
    obtain ⟨columns, hcolumns, hrecord⟩ := bind_eq_ok_iff.mp hrecord
    obtain rfl := Except.ok.inj hcolumns
    split at hrecord
    · obtain ⟨options, -, hrecord⟩ := bind_eq_ok_iff.mp hrecord
      exact ⟨_, (Except.ok.inj hrecord).symm,
        fun name hname => Value.lookup_putEntry_of_ne hname options row⟩
    · exact ⟨row, (Except.ok.inj hrecord).symm, fun _ _ => rfl⟩
  have hread := Question.ofRecord_eq_ok_iff.mp (mapError_eq_ok_iff.mp hquestion)
  have hidColumn := (hentries "id" (by decide)).trans hrow.id
  have hindexColumn := (hentries "order_index" (by decide)).trans hrow.index
  obtain ⟨id, hid, hq⟩ := hread.id
  obtain rfl := Option.some.inj (hidColumn.symm.trans hid)
  have hindex := hread.orderIndex
  rw [Value.fieldOr_of_lookup hindexColumn, Value.orElse_int_zero] at hindex
  exact ⟨(Value.readText_eq_ok_iff.mp hq).2.symm, (Except.ok.inj hindex).symm⟩

/-- The questions of a form are read from the rows of its questions, each in its place. -/
theorem questions_of_formOfRows {row : List (Value × Value)} {questions rules : List Value}
    {form : Form} (h : (formOfRows row questions rules).2 = .ok form) :
    List.Forall₂ (fun row q => questionOfRow row = .ok q) questions form.questions := by
  unfold formOfRows at h
  split at h
  · cases h
  · rename_i read hread
    split at h
    · cases h
    · obtain ⟨kept, -, hassemble⟩ := bind_eq_ok_iff.mp (mapError_eq_ok_iff.mp h)
      obtain ⟨id, -, hassemble⟩ := bind_eq_ok_iff.mp hassemble
      obtain ⟨slug, -, hassemble⟩ := bind_eq_ok_iff.mp hassemble
      obtain ⟨title, -, hassemble⟩ := bind_eq_ok_iff.mp hassemble
      obtain ⟨description, -, hassemble⟩ := bind_eq_ok_iff.mp hassemble
      obtain ⟨isActive, -, hassemble⟩ := bind_eq_ok_iff.mp hassemble
      obtain ⟨ownerName, -, hassemble⟩ := bind_eq_ok_iff.mp hassemble
      obtain rfl := Except.ok.inj hassemble
      exact mapM_eq_ok_iff.mp hread

/-- The form that a loading returns is made of the rows that the database returned. -/
theorem questions_of_getForm {connected : Bool} {db : Database} {slug : Value} {form : Form}
    (h : (getForm connected db slug).result = .ok (some form)) :
    List.Forall₂ (fun row q => questionOfRow row = .ok q) db.questions form.questions := by
  cases connected with
  | false => cases h
  | true =>
    rw [getForm_eq] at h
    have hloaded := Outcome.result_of_ending h
    unfold loaded at hloaded
    split at hloaded
    · cases hloaded
    · cases hloaded
    · rename_i row id _ _
      dsimp only at hloaded
      obtain ⟨built, hbuilt, hform⟩ := map_eq_ok_iff.mp (mapError_eq_ok_iff.mp hloaded)
      obtain rfl := Option.some.inj hform
      exact questions_of_formOfRows hbuilt

/-! ## Questions -/

/-- Questions that are read from rows have the ids and the indices of these, in their order. -/
theorem map_key_of_rows {rows : List (List (Value × Value))} {keys : List RowKey}
    {questions : List Question} (hkeys : List.Forall₂ QuestionRow rows keys)
    (hread : List.Forall₂ (fun row q => questionOfRow row = .ok q) (rows.map .map) questions) :
    questions.map (fun q => (q.orderIndex, q.id)) =
      keys.map fun key => (key.index, toString key.id) := by
  rw [List.forall₂_map_left_iff] at hread
  induction hkeys generalizing questions with
  | nil =>
    rw [List.forall₂_nil_left_iff.mp hread]
    rfl
  | cons hrow _ ih =>
    obtain ⟨q, rest, hq, hrest, rfl⟩ := List.forall₂_cons_left_iff.mp hread
    obtain ⟨hid, hindex⟩ := hrow.read hq
    rw [List.map_cons, List.map_cons, ih hrest, hid, hindex]

/-- Rows in the order of the query are in the order by index and then by the text of the id exactly
when the texts ascend where the index is the same. -/
theorem InQueryOrder.pairwise_iff {keys : List RowKey} (h : InQueryOrder keys) :
    (keys.Pairwise fun a b =>
        a.index < b.index ∨ a.index = b.index ∧ toString a.id ≤ toString b.id) ↔
      keys.Pairwise fun a b => a.index = b.index → TextAscends a.id b.id := by
  have hne : keys.Pairwise fun a b => a.id ≠ b.id := List.pairwise_map.mp h.distinct
  have hbefore := h.ordered.and hne
  -- For two rows in the order of the query, one relation is the other.
  have hpair {a b : RowKey}
      (hab : (a.index < b.index ∨ a.index = b.index ∧ a.id ≤ b.id) ∧ a.id ≠ b.id) :
      (a.index < b.index ∨ a.index = b.index ∧ toString a.id ≤ toString b.id) ↔
        (a.index = b.index → TextAscends a.id b.id) := by
    obtain ⟨hindex | ⟨hindex, hid⟩, hne⟩ := hab
    · exact iff_of_true (.inl hindex) fun hsame => absurd hsame hindex.ne
    · have htext : toString a.id ≠ toString b.id := fun htext => hne (Int.repr_inj.mp htext)
      rw [← toString_lt_toString_int_iff (lt_of_le_of_ne hid hne), htext.le_iff_lt]
      simp [hindex]
  constructor
  · exact fun h => (hbefore.and h).imp fun hab => (hpair hab.1).mp hab.2
  · exact fun h => (hbefore.and h).imp fun hab => (hpair hab.1).mpr hab.2

end Postgres

/-- A form puts its questions in the given order: they are listed in it, shown in it, and the problems
with the answers are told in it. -/
structure Form.Puts (form : Form) (questions : List Question) : Prop where
  listed : form.orderedQuestions = questions
  shown : ∀ shown, PublicForm.ofForm form = .ok shown →
    List.Forall₂ PublicQuestion.Shows questions shown.questions
  told : ∀ raw errors, Question.validate form.orderedQuestions raw = .error errors →
    errors = questions.flatMap fun q => (q.check (Value.field raw q.id)).errors

theorem Form.puts_iff {form : Form} {questions : List Question} :
    form.Puts questions ↔ form.orderedQuestions = questions := by
  refine ⟨Puts.listed, ?_⟩
  rintro rfl
  refine ⟨rfl, fun shown hshown => (PublicForm.ofForm_eq_ok_iff.mp hshown).questions, ?_⟩
  intro raw errors h
  rw [Question.validate_eq, orderedQuestions, Question.inOrder_inOrder] at h
  split_ifs at h
  exact (Except.error.inj h).symm

namespace Postgres

/-- A form of the database has the questions of the rows, in their order. They are put by index in this
order too, and are put in this very order exactly when, where rows have the same index, the texts of
their ids ascend. -/
theorem questions_follow_rows_iff {connected : Bool} {db : Database} {slug : Value} {form : Form}
    {rows : List (List (Value × Value))} {keys : List RowKey}
    (hform : (getForm connected db slug).result = .ok (some form))
    (hrows : db.questions = rows.map .map) (hkeys : List.Forall₂ QuestionRow rows keys)
    (hquery : InQueryOrder keys) :
    form.questions.map (fun q => (q.orderIndex, q.id)) =
        keys.map (fun key => (key.index, toString key.id)) ∧
      form.orderedQuestions.map (·.orderIndex) = keys.map (·.index) ∧
      (form.Puts form.questions ↔
        keys.Pairwise fun a b => a.index = b.index → TextAscends a.id b.id) := by
  have hquestions := map_key_of_rows hkeys (hrows ▸ questions_of_getForm hform)
  have hindices : form.questions.map (·.orderIndex) = keys.map (·.index) := by
    have hfst := congrArg (List.map Prod.fst) hquestions
    rw [List.map_map, List.map_map] at hfst
    exact hfst
  have hsorted : (form.questions.map (·.orderIndex)).Pairwise (· ≤ ·) := by
    rw [hindices, List.pairwise_map]
    exact hquery.ordered.imp fun hab => hab.elim (fun hless => hless.le) fun hsame => hsame.1.le
  refine ⟨hquestions, ?_, ?_⟩
  · rw [← hindices]
    exact Question.map_orderIndex_inOrder hsorted
  · rw [Form.puts_iff, Form.orderedQuestions, Question.inOrder_eq_self_iff, hquestions,
      List.pairwise_map, ← hquery.pairwise_iff]

/-- The row of a question with the given id and index, and with no options. -/
def numberRow (id index : ℤ) : List (Value × Value) :=
  [(.text "id", .int id), (.text "label", .text "Number"), (.text "type", .text "text"),
    (.text "options", .text "[]"), (.text "is_required", .bool true), (.text "order_index", .int index)]

/-- A database with one form, which has questions with the given ids and indices. -/
def numberBase (keys : List RowKey) : Database where
  failing _ := none
  form := .map [(.text "id", .int 1), (.text "slug", .text "numbers"), (.text "title", .text "Numbers"),
    (.text "description", .null), (.text "is_active", .bool true), (.text "owner_name", .null)]
  questions := (keys.map fun key => numberRow key.id key.index).map .map
  rules := []

/-- The question of such a row. -/
def numberQuestion (id : String) (index : ℤ) : Question :=
  ⟨id, .text "Number", .text, [], true, index⟩

/-- The form of such a database. -/
def numberForm (questions : List Question) : Form :=
  ⟨.int 1, .text "numbers", .text "Numbers", .null, .bool true, .null, questions, []⟩

theorem forall₂_numberRow (keys : List RowKey) :
    List.Forall₂ QuestionRow (keys.map fun key => numberRow key.id key.index) keys := by
  rw [List.forall₂_map_left_iff, List.forall₂_same]
  exact fun key _ => ⟨rfl, rfl⟩

/-- The ids 1, 10 and 12 ascend as texts too, and 2 has a higher index, so the questions are put in the
order of the rows. -/
theorem questions_follow_rows_iff_ascending :
    let keys : List RowKey := [⟨1, 0⟩, ⟨10, 0⟩, ⟨12, 0⟩, ⟨2, 5⟩]
    let form := numberForm [numberQuestion "1" 0, numberQuestion "10" 0, numberQuestion "12" 0,
      numberQuestion "2" 5]
    (getForm true (numberBase keys) (.text "numbers")).result = .ok (some form) ∧
      InQueryOrder keys ∧ form.Puts form.questions := by
  intro keys form
  have hform : (getForm true (numberBase keys) (.text "numbers")).result = .ok (some form) := by cbv
  have hquery : InQueryOrder keys := ⟨by decide, by decide⟩
  obtain ⟨-, -, hputs⟩ := questions_follow_rows_iff hform rfl (forall₂_numberRow keys) hquery
  exact ⟨hform, hquery, hputs.mpr (by decide)⟩

/-- A database returns the row with the id 2 before the one with the id 10, but of the questions 10 is
put before 2. -/
theorem ten_is_put_before_two :
    let keys : List RowKey := [⟨2, 0⟩, ⟨10, 0⟩]
    let form := numberForm [numberQuestion "2" 0, numberQuestion "10" 0]
    InQueryOrder keys ∧ List.Forall₂ QuestionRow [numberRow 2 0, numberRow 10 0] keys ∧
      (numberBase keys).questions = [numberRow 2 0, numberRow 10 0].map .map ∧
      (getForm true (numberBase keys) (.text "numbers")).result = .ok (some form) ∧
      form.orderedQuestions.map (·.id) = ["10", "2"] := by
  intro keys form
  exact ⟨⟨by decide, by decide⟩, forall₂_numberRow keys, rfl, by cbv, by cbv⟩

end Postgres

end FormRouting
