import FormRouting.Config.Dotenv
import FormRouting.Log
import FormRouting.Schema

/-!
# Configuration

The settings of a service. A setting is taken from the overrides that are given, else from the
environment, else from a file of settings, else it has a default. In the environment and in files
its name has a prefix, and case does not count.
-/

namespace FormRouting

/-- The settings of a service. -/
structure Config where
  env : String
  logLevel : String
  formStore : String
  postgresDsn : String
  formsFile : Option String
  submissionsLimit : Int
  defaultMessage : String
  serviceName : String
  port : Int
  host : String
deriving DecidableEq, Repr

/-- Why there is no configuration. -/
inductive ConfigError where
  /-- A setting is given twice. -/
  | repeated (name : String)
  /-- A setting is not of its type. -/
  | schema (error : SchemaError)
deriving DecidableEq, Repr

/-- Where settings come from. -/
structure ConfigSources where
  /-- The settings that are given, by their own names. -/
  overrides : List (Value × Value)
  /-- The environment, by the prefixed names. -/
  environment : List (String × String)
  /-- The text of a file of settings. -/
  dotenv : String

namespace Config

/-- The prefix of the names of settings. -/
def stem : String := "routing_"

/-- What the last setting with a name has, in which case does not count. -/
def valueNamed? {α : Type} (name : String) (settings : List (String × α)) : Option α :=
  (settings.reverse.find? fun v => v.1.toLower == stem ++ name).map (·.2)

/-- The value of a setting by where it comes from. A setting of a file may have none. -/
def setting? (sources : ConfigSources) (dotenv : Dotenv.Values) (name : String) : Option Value :=
  match Value.lookup name sources.overrides with
  | some v => some v
  | none =>
    match valueNamed? name sources.environment with
    | some s => some (.text s)
    | none => (valueNamed? name dotenv).join.map .text

/-- The settings of the file. -/
def dotenvSettings (sources : ConfigSources) : Dotenv.Values :=
  Dotenv.read (sources.environment.map fun v => (v.1, some v.2)) sources.dotenv

/-- The settings that are not overridden but given in their own place. -/
def reservedNames : List String := ["service_name", "port"]

/-- The configuration of a service with the given port, which has to fit its schema. -/
def ofSources (serviceName : String) (port : Value) (sources : ConfigSources) :
    Except ConfigError Config :=
  match reservedNames.find? fun name => (Value.lookup name sources.overrides).isSome with
  | some name => .error (.repeated name)
  | none =>
    let dotenv := dotenvSettings sources
    let text (name fallback : String) : Option String :=
      Schema.text? ((setting? sources dotenv name).getD (.text fallback))
    let env := text "env" "local"
    let logLevel := text "log_level" "info"
    let formStore := text "form_store" "memory"
    let postgresDsn := text "postgres_dsn" "postgres://localhost:5432/scheduler"
    let formsFile := Schema.optionalText? ((setting? sources dotenv "forms_file").getD .null)
    let limit := Schema.integer?
      ((setting? sources dotenv "memory_submissions_limit").getD (.int 1000))
    let defaultMessage := text "default_no_match_message" "Thank you for your submission."
    let number := Schema.integer? port
    let host := text "host" "0.0.0.0"
    match env, logLevel, formStore, postgresDsn, formsFile, limit, defaultMessage, number, host with
    | some env, some logLevel, some formStore, some postgresDsn, some formsFile, some limit,
        some defaultMessage, some number, some host =>
      .ok ⟨env, logLevel, formStore, postgresDsn, formsFile, limit, defaultMessage, serviceName,
        number, host⟩
    | _, _, _, _, _, _, _, _, _ =>
      .error (.schema ⟨Schema.refused "env" env ++ Schema.refused "log_level" logLevel ++
        Schema.refused "form_store" formStore ++ Schema.refused "postgres_dsn" postgresDsn ++
        Schema.refused "forms_file" formsFile ++
        Schema.refused "memory_submissions_limit" limit ++
        Schema.refused "default_no_match_message" defaultMessage ++
        Schema.refused "port" number ++ Schema.refused "host" host⟩)

/-- The configuration as a value. -/
def toValue (c : Config) : Value :=
  Value.record [
    ("env", .text c.env),
    ("log_level", .text c.logLevel),
    ("form_store", .text c.formStore),
    ("postgres_dsn", .text c.postgresDsn),
    ("forms_file", (c.formsFile.map Value.text).getD .null),
    ("memory_submissions_limit", .int c.submissionsLimit),
    ("default_no_match_message", .text c.defaultMessage),
    ("service_name", .text c.serviceName),
    ("port", .int c.port),
    ("host", .text c.host)]

/-- Whether the service runs for its developers. -/
def isLocal (c : Config) : Bool :=
  c.env == "local"

/-- The rank of the level of a name, or that of information if there is no level of the name. -/
def levelRank (name : String) : Nat :=
  match name.toUpper with
  | "CRITICAL" | "FATAL" => 50
  | "ERROR" => LogLevel.error.rank
  | "WARNING" | "WARN" => LogLevel.warning.rank
  | "DEBUG" => 10
  | "NOTSET" => 0
  | _ => LogLevel.info.rank

/-- Whether entries of a level are written. -/
def writes (c : Config) (level : LogLevel) : Bool :=
  levelRank c.logLevel ≤ level.rank

end Config

end FormRouting
