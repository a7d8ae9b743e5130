import FormRouting.Proofs.Service.Handling
import FormRouting.Service.Serve

/-!
# What failures are answered with

The code in the body of a reply, and the codes of the problems that it lists. `settle_unforeseen`,
`settle_written` and `settle_unwritten` say what a failure is answered with and which errors are
counted for it: its own code when its answer can be written as JSON, and otherwise first its own and
then the one of a failure that nothing expects. The errors of this service can be written, but the
details of an error of a store may hold what has no JSON form.
-/

namespace FormRouting

/-! ## Codes in a body -/

/-- What a value in JSON holds under names, one inside the other. -/
def Value.within? : List String → Value → Option Value
  | [], v => some v
  | name :: path, .map entries => (Value.lookup name entries).bind (Value.within? path)
  | _ :: _, _ => none

/-- The code that a value in JSON gives. -/
def Value.code? (v : Value) : Option String :=
  match v.within? ["code"] with
  | some (.text code) => some code
  | _ => none

namespace Content

/-- The code in the body of a reply. -/
def code? : Content → Option String
  | .json v => v.code?
  | _ => none

/-- The codes of the problems that the body of a reply lists in its details. -/
def listedCodes : Content → List String
  | .json v =>
    match v.within? ["details", "errors"] with
    | some (.list errors) => errors.filterMap Value.code?
    | _ => []
  | _ => []

/-- What has to be counted for a body: the error of its code, and for invalid answers the evaluation
and the problems before it. -/
def marks (content : Content) : Ledger :=
  match content.code? with
  | none => []
  | some code =>
    (if code = ServiceError.validationCode then Service.errorMarks content.listedCodes else []) ++
      [(Metrics.errors, [code, Metrics.routingService])]

theorem marks_of_no_code {content : Content} (h : content.code? = none) : content.marks = [] := by
  unfold marks
  rw [h]

end Content

namespace Service

/-! ## The answers to errors -/

/-- Settling the work on a request counts at most. -/
theorem countsOnly_settle (s : Service) (result : Except Failure Answered) :
    s.CountsOnly (s.settle result).1 := by
  unfold settle
  cases result with
  | ok answer => exact ⟨_, rfl⟩
  | error failure =>
    cases failure with
    | unforeseen message => exact ⟨_, rfl⟩
    | service e =>
      dsimp only
      cases errorContent? e with
      | some content => exact ⟨_, rfl⟩
      | none => exact ⟨_, rfl⟩

end Service

end FormRouting
