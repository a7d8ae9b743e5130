import FormRouting.Config
import FormRouting.Store.Memory

/-!
# The configured store

The store of forms that a configuration names: a database, or memory, which may be seeded from a
definitions file.
-/

namespace FormRouting

/-- The store that a configuration names. -/
inductive ConfiguredStore where
  | postgres (dsn : String)
  | memory (store : MemoryStore)

/-- Why the store cannot be built. -/
inductive ConfiguredStoreError where
  /-- The definitions file at a path is at fault. -/
  | definitions (path : String) (error : DefinitionsError)
  | limit (error : LimitError)

namespace ConfiguredStore

/-- The files that can be read, by their paths. -/
abbrev Files := String → Option ByteArray

/-- The memory store of a configuration, seeded from the file at a path, with what was reported. -/
def ofFile (files : Files) (path : String) (limit : Int) :
    List LogEntry × Except ConfiguredStoreError MemoryStore :=
  match Definitions.loadFile (files path) with
  | (reports, .error e) => (reports, .error (.definitions path e))
  | (reports, .ok forms) =>
    (reports ++ [MemoryStore.loaded path forms.length],
      match MemoryStore.limitOfInt limit with
      | .ok n => .ok (.ofForms forms (some n))
      | .error e => .error (.limit e))

/-- The store of a configuration, with what was reported. -/
def ofConfig (files : Files) (c : Config) :
    List LogEntry × Except ConfiguredStoreError ConfiguredStore :=
  if c.formStore = "postgres" then ([], .ok (.postgres c.postgresDsn))
  else
    match c.formsFile.filter (!·.isEmpty) with
    | some path =>
      let (reports, result) := ofFile files path c.submissionsLimit
      (reports, result.map .memory)
    | none =>
      ([], match MemoryStore.limitOfInt c.submissionsLimit with
        | .ok n => .ok (.memory (.empty (some n)))
        | .error e => .error (.limit e))

end ConfiguredStore

end FormRouting
