import FormRouting.Proofs.Json.RoundTrip
import FormRouting.Proofs.Store.Calls
import FormRouting.Proofs.Store.Rows

/-!
# Answers that come back

The answers of a submission are kept as JSON text. Where the text of a column is decoded, answers that
JSON keeps come back as they were given: the same questions in the same order, with the same values of
the same kinds (`answers_are_read_back`).
-/

namespace FormRouting.Postgres

/-- Answers under distinct names, each of them nothing, a truth value, an integer of no more digits
than are ever converted, a text, or a list or mapping of such values, are written as ASCII text, which
is read as the same answers. So is the text where a row has it in a column that is decoded. -/
theorem answers_are_read_back {s : Submission} {answers : List (String × Value)}
    (hanswers : s.answers = Value.record answers) (hdistinct : (answers.map Prod.fst).Nodup)
    (hkept : ∀ a ∈ answers, a.2.Lossless) :
    ∃ text, (∀ db, (record true db s).calls = [insertion s text]) ∧
      (∀ c ∈ text.toList, c.toNat < 0x80) ∧ Json.read text = .ok s.answers ∧
      ∀ row, Value.field row "options" = .text text →
        questionRecord (.map row) = .ok (.map (Value.putEntry row (.text "options") s.answers)) := by
  have hlossless : s.answers.Lossless := hanswers ▸ .record hdistinct hkept
  obtain ⟨text, hwrite, hascii, hread⟩ := hlossless.exists_write
  refine ⟨text, fun db => ?_, hascii, hread, fun row hrow => (Holds.json hrow hread).questionRecord_eq⟩
  rw [record_eq hwrite, Outcome.calls_ending, Database.attempt_singleton]

/-- Answers to a contact form: texts with a quote, a line break and characters beyond ASCII and beyond
the first plane, a number and its text, and truth values next to numbers. -/
def contactAnswers : List (String × Value) :=
  [("name", .text "Zoë \"Z\" 🐈"), ("age", .int (-41)), ("code", .text "-41"), ("größe", .null),
    ("urgent", .bool true), ("topics", .list [.bool false, .int 0, .text "0", .text "a\\\n\x7f"])]

/-- The text in which these answers are kept. -/
def contactText : String :=
  "\x7b\"name\": \"Zo\\u00eb \\\"Z\\\" \\ud83d\\udc08\", \"age\": -41, \"code\": \"-41\", " ++
    "\"gr\\u00f6\\u00dfe\": null, \"urgent\": true, " ++
    "\"topics\": [false, 0, \"0\", \"a\\\\\\n\\u007f\"]\x7d"

/-- They are kept in this text and read back from it. -/
theorem answers_are_read_back_contact :
    let s : Submission :=
      ⟨.int 7, Value.record contactAnswers, .text "none", .null, .null, .null, .null⟩
    (∀ db, (record true db s).calls = [insertion s contactText]) ∧
      Json.read contactText = .ok s.answers := by
  intro s
  have hkept : ∀ a ∈ contactAnswers, a.2.Lossless := by
    simp only [contactAnswers, List.forall_mem_cons, List.not_mem_nil, false_implies, implies_true,
      and_true]
    refine ⟨.text _, .int (by decide), .text _, .null, .bool _, .list ?_⟩
    simp only [List.forall_mem_cons, List.not_mem_nil, false_implies, implies_true, and_true]
    exact ⟨.bool _, .int (by decide), .text _, .text _⟩
  have hdistinct : (contactAnswers.map Prod.fst).Nodup := by decide
  obtain ⟨text, hcalls, -, hread, -⟩ := answers_are_read_back (s := s) rfl hdistinct hkept
  have hwritten : Json.write? s.answers = some contactText := by cbv
  have hsame : text = contactText := by
    have hcall := hcalls ⟨fun _ => none, .null, [], []⟩
    rw [record_eq hwritten, Outcome.calls_ending, Database.attempt_singleton] at hcall
    simpa [insertion] using hcall.symm
  exact hsame ▸ ⟨hcalls, hread⟩

end FormRouting.Postgres
