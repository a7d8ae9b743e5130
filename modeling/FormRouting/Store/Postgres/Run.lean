import FormRouting.Store.Postgres

/-!
# Runs of the database store

The steps that can be taken on a database store from outside, each with what the database answers
while it is taken, and runs of them. Between two steps the store keeps only its connection.
-/

namespace FormRouting

namespace Postgres

/-- A step on a database store. -/
inductive Step where
  | start (db : Database)
  | stop (db : Database)
  | health (db : Database)
  | getForm (db : Database) (slug : Value)
  | record (db : Database) (s : Submission)

/-- What the database answers while a step is taken. -/
def Step.database : Step → Database
  | .start db | .stop db | .health db | .getForm db _ | .record db _ => db

/-- The result of a step. -/
inductive StepResult where
  | done
  | flag (b : Bool)
  | form (found : Option Form)

/-- What came of an operation, with a function of its result. -/
def Outcome.map {α β : Type} (f : α → β) (o : Outcome α) : Outcome β :=
  { o with result := o.result.map f }

/-- Takes a step. -/
def take (dsn : String) (connected : Bool) : Step → Outcome StepResult
  | .start db => (start dsn connected db).map fun _ => .done
  | .stop db => (stop connected db).map fun _ => .done
  | .health db => (health connected db).map .flag
  | .getForm db slug => (getForm connected db slug).map .form
  | .record db s => (record connected db s).map fun _ => .done

/-- Takes steps one after the other. -/
def run (dsn : String) (connected : Bool) : List Step → List (Outcome StepResult)
  | [] => []
  | step :: rest =>
    let outcome := take dsn connected step
    outcome :: run dsn outcome.connected rest

end Postgres

end FormRouting
