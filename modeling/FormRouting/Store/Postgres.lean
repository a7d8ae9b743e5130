import FormRouting.Form
import FormRouting.Json.Reader
import FormRouting.Json.Writer
import FormRouting.ServiceError
import FormRouting.Submission

/-!
# The database store

Forms that are read from a PostgreSQL database, and submissions that are written to it. The database
is what it answers during one operation, where any call may fail; an operation yields the calls that
it made, in order, what it reported and its result.
-/

namespace FormRouting

namespace Postgres

/-! ## The database -/

/-- The kinds of failures of a database. -/
inductive FailureKind where
  /-- The connection is lost. -/
  | system
  /-- The database refuses. -/
  | database
deriving DecidableEq, Repr

/-- A failure of a database. -/
structure Failure where
  kind : FailureKind
  message : String
deriving DecidableEq, Repr

/-- A call of a database. -/
inductive Call where
  | connect (dsn : String)
  /-- The start of a transaction that sees one state of the database and changes nothing. -/
  | transaction
  /-- A statement, up to its parameters, with their values. -/
  | execute (statement : String) (arguments : List Value)
  /-- A query of one value. -/
  | fetchValue (statement : String)
  /-- A query of one row of a table. -/
  | fetchRow (table : String) (arguments : List Value)
  /-- A query of rows of a table. -/
  | fetch (table : String) (arguments : List Value)
  | close

/-- What a database answers while an operation runs. -/
structure Database where
  /-- The failure that a call meets, if it does. -/
  failing : Call → Option Failure
  /-- The row of the form that is asked for; null for none. -/
  form : Value
  questions : List Value
  rules : List Value

/-- Makes calls one after the other, up to the first one that fails: the calls that were made, and
the failure. -/
def Database.attempt (db : Database) : List Call → List Call × Option Failure
  | [] => ([], none)
  | call :: rest =>
    match db.failing call with
    | some f => ([call], some f)
    | none =>
      let (made, failure) := db.attempt rest
      (call :: made, failure)

/-- The options of a connection. -/
def connectOptions : List (String × Value) :=
  [("min_size", .int 2), ("max_size", .int 10), ("command_timeout", .int 30)]

/-- The options of the transaction in which a form is read. -/
def transactionOptions : List (String × Value) :=
  [("isolation", .text "repeatable_read"), ("readonly", .bool true)]

/-- The options that a call is made with. -/
def Call.options : Call → List (String × Value)
  | .connect _ => connectOptions
  | .transaction => transactionOptions
  | _ => []

def formsTable : String := "routing_forms"

def questionsTable : String := "routing_form_questions"

def rulesTable : String := "routing_form_rules"

def submissionsTable : String := "routing_form_submissions"

/-- The statements that create the tables and indices, up to their columns. -/
def schemaStatements : List String :=
  [formsTable, questionsTable, rulesTable, submissionsTable].map
      ("CREATE TABLE IF NOT EXISTS " ++ ·) ++
    ["CREATE INDEX IF NOT EXISTS idx_rules_form ON " ++ rulesTable,
      "CREATE INDEX IF NOT EXISTS idx_questions_form ON " ++ questionsTable]

/-- The calls that create the tables and indices that are missing. -/
def schemaCalls : List Call :=
  schemaStatements.map (Call.execute · [])

/-! ## Forms from rows -/

/-- Why rows make no form. -/
inductive RowError where
  | read (error : ReadError)
  /-- The options of a question are no JSON text. -/
  | options (error : Json.Error)

/-- A row as a record. -/
def recordOfRow (row : Value) : Except RowError (List (Value × Value)) :=
  match row with
  | .map entries => .ok entries
  | row => .error (.read (.notIterable row.kindName))

/-- The record of a question's row. Options that are a text are read as JSON. -/
def questionRecord (row : Value) : Except RowError Value := do
  let entries ← recordOfRow row
  match Value.field entries "options" with
  | .text s => do
    let options ← (Json.read s).mapError .options
    return .map (Value.putEntry entries (.text "options") options)
  | _ => return .map entries

/-- The question of a row. -/
def questionOfRow (row : Value) : Except RowError Question := do
  (Question.ofRecord (← questionRecord row)).mapError .read

/-- Reports a rule that is left out. -/
def skippedRow (form : List (Value × Value)) (ruleId : Value) (defect : RuleDefect) :
    Except ReadError LogEntry := do
  let slug ← Value.need form "slug"
  LogEntry.write ⟨.warning, "Skipping invalid rule row", [
    ("slug", slug),
    ("rule_id", ruleId),
    ("error", .text (RuleError.refusal ruleId defect))]⟩

/-- The form of a row with its questions and rules. The fields of the row are kept as they are. -/
def assemble (form : List (Value × Value)) (questions : List Question) (rules : List Rule) :
    Except ReadError Form := do
  return {
    id := ← Value.need form "id"
    slug := ← Value.need form "slug"
    title := ← Value.need form "title"
    description := ← Value.need form "description"
    isActive := ← Value.need form "is_active"
    ownerName := ← Value.need form "owner_name"
    questions
    rules }

/-- The form of a row and the rows of its questions and rules, with what was reported. -/
def formOfRows (form : List (Value × Value)) (questions rules : List Value) :
    List LogEntry × Except RowError Form :=
  match questions.mapM questionOfRow with
  | .error e => ([], .error e)
  | .ok qs =>
    match rules.mapM recordOfRow with
    | .error e => ([], .error e)
    | .ok records =>
      let (reports, result) := Form.readRules (skippedRow form) (records.map .map)
      (reports, (result.bind (assemble form qs)).mapError .read)

/-! ## Operations -/

/-- Why an operation failed. -/
inductive Error where
  | service (error : ServiceError)
  /-- A failure that the store does not turn into an error of the service. -/
  | failure (failure : Failure)
  | notConnected
  | row (error : RowError)
  /-- The answers have no JSON form. -/
  | answers
  /-- The report of a failure cannot be written. -/
  | report

/-- What came of an operation. -/
structure Outcome (α : Type) where
  calls : List Call
  reports : List LogEntry
  /-- Whether the store is connected afterwards. -/
  connected : Bool
  result : Except Error α

/-- An error of this store as one of the service. -/
def failed (message : String) : Error :=
  .service (.store "postgres" message .null)

namespace Outcome

variable {α : Type}

/-- An operation that leaves the connection as it was, without reports. -/
def quiet (connected : Bool) (calls : List Call) (result : Except Error α) : Outcome α :=
  ⟨calls, [], connected, result⟩

/-- A reading or a writing that a failure ended. What the database refuses is reported, and becomes
an error of the service if the report can be written. -/
def interrupted (calls : List Call) (f : Failure) (report : LogEntry) (message : String) :
    Outcome α :=
  match f.kind with
  | .database =>
    ⟨calls, [report], true, .error (if report.isWritable then failed message else .report)⟩
  | .system => quiet true calls (.error (.failure f))

end Outcome

/-- Connects, and creates the tables that are missing. -/
def start (dsn : String) (connected : Bool) (db : Database) : Outcome Unit :=
  let failing (f : Failure) (calls : List Call) (connected : Bool) : Outcome Unit :=
    ⟨calls, [⟨.error, "Failed to start PostgreSQL form store", [("error", .text f.message)]⟩],
      connected, .error (failed f.message)⟩
  match db.failing (.connect dsn) with
  | some f => failing f [.connect dsn] connected
  | none =>
    match db.attempt schemaCalls with
    | (made, some f) => failing f (.connect dsn :: made) true
    | (made, none) =>
      ⟨.connect dsn :: made, [⟨.info, "PostgreSQL form store started", []⟩], true, .ok ()⟩

/-- Releases the connection, if there is one. -/
def stop (connected : Bool) (db : Database) : Outcome Unit :=
  if !connected then .quiet false [] (.ok ())
  else
    match db.failing .close with
    | some f => .quiet true [.close] (.error (.failure f))
    | none => ⟨[.close], [⟨.info, "PostgreSQL form store stopped", []⟩], false, .ok ()⟩

/-- The query that tells whether a database answers. -/
def probe : Call :=
  .fetchValue "SELECT 1"

/-- Whether the database answers. -/
def health (connected : Bool) (db : Database) : Outcome Bool :=
  if connected then .quiet true [probe] (.ok (db.failing probe).isNone)
  else .quiet false [] (.ok false)

/-- Loads a form with its questions and rules, if there is one under the slug. -/
def getForm (connected : Bool) (db : Database) (slug : Value) : Outcome (Option Form) :=
  let interrupted (calls : List Call) (f : Failure) : Outcome (Option Form) :=
    .interrupted calls f
      ⟨.error, "Error loading routing form", [("slug", slug), ("error", .text f.message)]⟩
      ("cannot load form '" ++ slug.toText ++ "'")
  if !connected then .quiet false [] (.error .notConnected)
  else
    match db.attempt [.transaction, .fetchRow formsTable [slug]] with
    | (asked, some f) => interrupted asked f
    | (asked, none) =>
      if !db.form.truthy then .quiet true asked (.ok none)
      else
        match (recordOfRow db.form).bind fun form =>
            ((Value.need form "id").mapError .read).map (form, ·) with
        | .error e => .quiet true asked (.error (.row e))
        | .ok (form, id) =>
          match db.attempt [.fetch questionsTable [id], .fetch rulesTable [id]] with
          | (fetched, some f) => interrupted (asked ++ fetched) f
          | (fetched, none) =>
            let (reports, result) := formOfRows form db.questions db.rules
            ⟨asked ++ fetched, reports, true, (result.map some).mapError .row⟩

/-- The statement that writes a submission, whose answers are given as a text. -/
def insertion (s : Submission) (answers : String) : Call :=
  .execute ("INSERT INTO " ++ submissionsTable)
    [s.formId, .text answers, s.routedTo, s.bookingLinkId, s.ruleId, s.email, s.name]

/-- Writes a submission, whose answers are kept as JSON text. -/
def record (connected : Bool) (db : Database) (s : Submission) : Outcome Unit :=
  if !connected then .quiet false [] (.error .notConnected)
  else
    match Json.write? s.answers with
    | none => .quiet true [] (.error .answers)
    | some answers =>
      match db.attempt [insertion s answers] with
      | (made, none) => .quiet true made (.ok ())
      | (made, some f) =>
        .interrupted made f
          ⟨.error, "Error recording submission",
            [("routing_form_id", s.formId), ("error", .text f.message)]⟩
          "cannot record submission"

end Postgres

end FormRouting
