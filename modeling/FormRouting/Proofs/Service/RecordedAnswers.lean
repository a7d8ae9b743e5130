import FormRouting.Proofs.Json.Written
import FormRouting.Proofs.Service.Recording
import FormRouting.Proofs.Store.Calls

/-!
# Which answers are recorded as JSON

The answers of a submission come in JSON and are kept as JSON, in a column of that type. But a body is
read that holds numbers which are not finite, by their names or as a number that is out of range, and
such a number is an answer like any other. So the text of a submission that is accepted is JSON
exactly if no answer holds one (`accepted_answers_are_json_iff`).
-/

namespace FormRouting

open SubmissionRequest (ofText)

/-- A form accepts a text: it is read as a submission whose answers are valid. -/
structure Form.AcceptsText (form : Form) (text : String) (request : SubmissionRequest)
    (given : AnswerSet Answer) : Prop where
  decoded : ofText text = .ok request
  valid : Question.validate form.orderedQuestions request.answers = .ok given

namespace Service

open Postgres (insertion)

variable {form : Form} {text : String} {request : SubmissionRequest} {given : AnswerSet Answer}

/-- The record of a submission that is accepted is written with one insertion. The text of its
answers is JSON exactly if none of them holds a number that is not finite. -/
theorem accepted_answers_are_json_iff (h : form.AcceptsText text request given) :
    ∃ answers, (∀ db, (Postgres.record true db (recordOf request form given)).calls =
        [insertion (recordOf request form given) answers]) ∧
      (Json.IsText answers ↔ ∀ e ∈ request.answers, ¬e.2.HoldsNonfinite) := by
  have hjson := SubmissionRequest.isJson_answers h.decoded
  have hwritable := SubmissionRequest.isWritable_answers h.decoded
  obtain ⟨answers, hwrite⟩ := hjson.exists_write hwritable
  have hrecord : Json.write? (recordOf request form given).answers = some answers := hwrite
  refine ⟨answers, fun db => ?_, ?_⟩
  · rw [Postgres.record_eq hrecord, Postgres.Outcome.calls_ending, Postgres.Database.attempt_singleton]
  · rw [Json.isText_write_iff hwrite, hjson.isStrict_iff hwritable, Value.holdsNonfinite_map_iff]
    simp only [not_exists, not_and]

/-- A form with one question, to which any text is an answer. -/
def suggestions : Form :=
  ⟨.int 5, .text "suggestions", .text "Suggestions", .null, .bool true, .null,
    [⟨"q", .text "What do you suggest?", .text, [], false, 0⟩], []⟩

/-- The text of an answer may be the name of such a number. -/
theorem accepted_answers_are_json_iff_name :
    let request : SubmissionRequest := ⟨[(.text "q", .text "NaN")], none, none⟩
    let given : AnswerSet Answer := ⟨[("q", .text "NaN")]⟩
    suggestions.AcceptsText "\x7b\"answers\": \x7b\"q\": \"NaN\"\x7d\x7d" request given ∧
      ∃ answers, (∀ db, (Postgres.record true db (recordOf request suggestions given)).calls =
          [insertion (recordOf request suggestions given) answers]) ∧ Json.IsText answers := by
  intro request given
  have haccepts : suggestions.AcceptsText "\x7b\"answers\": \x7b\"q\": \"NaN\"\x7d\x7d" request given :=
    ⟨by cbv, by cbv⟩
  obtain ⟨answers, hcalls, hiff⟩ := accepted_answers_are_json_iff haccepts
  refine ⟨haccepts, answers, hcalls, hiff.mpr ?_⟩
  rw [List.forall_mem_singleton]
  rintro ⟨⟩

/-- The number itself is accepted as an answer too, and recorded by its name, which is no JSON. -/
theorem nan_is_recorded_by_name :
    let request : SubmissionRequest := ⟨[(.text "q", .real .nan)], none, none⟩
    let given : AnswerSet Answer := ⟨[("q", .text "nan")]⟩
    suggestions.AcceptsText "\x7b\"answers\": \x7b\"q\": NaN\x7d\x7d" request given ∧
      (∀ db, (Postgres.record true db (recordOf request suggestions given)).calls =
        [insertion (recordOf request suggestions given) "\x7b\"q\": NaN\x7d"]) ∧
      ¬Json.IsText "\x7b\"q\": NaN\x7d" := by
  intro request given
  have hwrite : Json.write? (recordOf request suggestions given).answers = some "\x7b\"q\": NaN\x7d" := by
    cbv
  refine ⟨⟨by cbv, by cbv⟩, fun db => ?_, ?_⟩
  · rw [Postgres.record_eq hwrite, Postgres.Outcome.calls_ending, Postgres.Database.attempt_singleton]
  · rw [Json.isText_write_iff hwrite]
    exact Bool.false_ne_true

end Service

end FormRouting
