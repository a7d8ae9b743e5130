import FormRouting.Definitions
import FormRouting.Routing.Evaluation

/-!
# Checking definitions

The problems of the forms in a definitions file: what the service would refuse or leave out, and
what is likely a mistake. They are reported by the slugs of the forms.
-/

namespace FormRouting

namespace Check

/-- A problem of a form. -/
inductive Problem where
  | missingField (name : String)
  | question (id : Value) (error : ReadError)
  | duplicateQuestion (id : String)
  | noOptions (id : String) (type : QuestionType)
  | rule (ruleId : Value) (defect : RuleDefect)
  | duplicateRule (id : Int)
  | danglingRule (reference : DanglingRule)
  | duplicateSlug
  /-- The file cannot be read. -/
  | unreadable
  | notAList

def Problem.message : Problem → String
  | .missingField name => "Missing required field: " ++ name
  | .question id e => "Invalid question " ++ id.literal ++ ": " ++ e.message
  | .duplicateQuestion id => "Duplicate question id: " ++ id
  | .noOptions id type => "Question " ++ id ++ " (" ++ type.name ++ ") has no options"
  | .rule ruleId defect => "Invalid rule: " ++ RuleError.refusal ruleId defect
  | .duplicateRule id => "Duplicate rule id: " ++ toString id
  | .danglingRule d =>
    "Rule " ++ toString d.ruleId ++ " references missing question " ++ d.questionId
  | .duplicateSlug => "Duplicate slug"
  | .unreadable => "Error reading file"
  | .notAList => "Expected a list of forms"

/-- Whether a problem can be told: whether what its message shows can be written. -/
def Problem.isWritable : Problem → Bool
  | .question id _ => id.isWritable
  | .duplicateRule id => IntegerText.isWritable id
  | .danglingRule d => IntegerText.isWritable d.ruleId
  | _ => true

/-- Tells of problems, as long as each of them can be told. -/
def tell (problems : List Problem) : Except ReadError (List Problem) :=
  if problems.all (·.isWritable) then .ok problems else .error .unwritable

/-- The fields that every definition has to have. -/
def neededFields : List String := ["id", "slug", "title"]

/-- The problems of one question that was read, after those of the given ids. -/
def questionProblems (seen : List String) (q : Question) : List Problem :=
  (if seen.contains q.id then [.duplicateQuestion q.id] else []) ++
    (if q.type.hasOptions && q.options.isEmpty then [.noOptions q.id q.type] else [])

/-- Reads the questions of a definition, with their problems. One that cannot be read is a problem,
unless that is not foreseen or the problem cannot be told. -/
def questions (seen : List String) : List Value → Except ReadError (List Problem × List Question)
  | [] => .ok ([], [])
  | record :: rest =>
    match Question.ofRecord record with
    | .ok q => do
      let (problems, qs) ← questions (q.id :: seen) rest
      return (questionProblems seen q ++ problems, q :: qs)
    | .error e =>
      if e.isDefinitionFault then do
        let told ← tell [.question (Value.field (← record.fields) "id") e]
        let (problems, qs) ← questions seen rest
        return (told ++ problems, qs)
      else .error e

/-- Reads the rules of a definition, with their problems. -/
def rules (seen : List Int) : List Value → Except ReadError (List Problem × List Rule)
  | [] => .ok ([], [])
  | record :: rest =>
    match Rule.ofRecord record with
    | .ok r => do
      let told ← tell (if seen.contains r.id then [.duplicateRule r.id] else [])
      let (problems, rs) ← rules (r.id :: seen) rest
      return (told ++ problems, r :: rs)
    | .error (.refused ruleId defect) => do
      let (problems, rs) ← rules seen rest
      return (.rule ruleId defect :: problems, rs)
    | .error (.unreadable e) => .error e

/-- The problems of a definition. -/
def definition (d : Value) : Except ReadError (List Problem) := do
  let entries ← d.fields
  let missing := neededFields.filter fun name => (Value.lookup name entries).isNone
  let (questionProblems, qs) ← questions [] (← Form.listed entries "questions")
  let (ruleProblems, rs) ← rules [] (← Form.listed entries "rules")
  let dangling ← tell ((Rule.dangling rs qs).map .danglingRule)
  return missing.map .missingField ++ questionProblems ++ ruleProblems ++ dangling

/-- Problems by the names of forms. A name occurs once. -/
abbrev Report := List (String × List Problem)

/-- Adds the problems of a form. A name that was there before is a problem itself. -/
def Report.add (name : String) (problems : List Problem) : Report → Report
  | [] => [(name, problems)]
  | e :: rest =>
    if e.1 = name then (name, e.2 ++ problems ++ [.duplicateSlug]) :: rest
    else e :: add name problems rest

/-- The name of a definition in a report: its slug, or its place in the list. -/
def nameOf (index : Nat) (d : Value) : Except ReadError String := do
  (Value.fieldOr (← d.fields) "slug" (.text ("#" ++ toString index))).readText

/-- The problems of definitions, of which the first has the given place in the list. -/
def definitionsFrom (index : Nat) (report : Report) : List Value → Except ReadError Report
  | [] => .ok report
  | d :: rest => do
    let name ← nameOf index d
    let problems ← definition d
    definitionsFrom (index + 1) (report.add name problems) rest

/-- The problems of the forms in a document, which are those of the file when it has no list. -/
def document (path : String) (document : Value) : Except ReadError Report :=
  match Definitions.ofDocument? document with
  | none => .ok [(path, [.notAList])]
  | some definitions => definitionsFrom 0 [] definitions

/-- The problems of the forms in a file. -/
def file (path : String) (contents : Option ByteArray) : Except DefinitionsError Report :=
  match Definitions.document contents with
  | .error .unreadable => .ok [(path, [.unreadable])]
  | .error e => .error e
  | .ok d => (document path d).mapError .unforeseen

/-- The number of problems in a report. -/
def Report.size (report : Report) : Nat :=
  (report.map (·.2.length)).foldr (· + ·) 0

/-- The lines about one form. -/
def formLines (name : String) (problems : List Problem) : List String :=
  if problems.isEmpty then ["✅ " ++ name ++ ": form is valid"]
  else ("❌ " ++ name ++ ": " ++ toString problems.length ++ " validation errors") ::
    problems.map ("   - " ++ ·.message)

/-- The text of a report, which ends in a line feed. -/
def Report.text (path : String) (report : Report) : String :=
  let lines := ["Validating routing forms in " ++ path ++ "..."] ++
    report.flatMap (fun e => formLines e.1 e.2) ++
    ["", "Validation complete: " ++ toString report.size ++ " total errors"]
  String.join (lines.map (· ++ "\n"))

/-- The exit status of a check: zero when there is no problem. -/
def Report.exitStatus (report : Report) : Nat :=
  if report.size = 0 then 0 else 1

end Check

end FormRouting
