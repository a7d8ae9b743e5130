import FormRouting.Check

/-!
# The command line

Checks the definitions file at a path, prints the problems of its forms, and ends with status zero
when there are none.
-/

namespace FormRouting

namespace Main

/-- What is printed when the command line is not understood. -/
def usage : String := "usage: check-forms PATH"

/-- The content of the file at a path, if it can be read. -/
def contents (path : String) : IO (Option ByteArray) := do
  try
    return some (← IO.FS.readBinFile path)
  catch _ =>
    return none

/-- The message of a file that no report can be made of. -/
def failureText : DefinitionsError → String
  | .scalar e => e.message
  | .definition e | .unforeseen e => e.message
  | .encoding => "the file is no text in UTF-8"
  | .unreadable => "the file cannot be read"
  | .notAList => "the file holds no list of forms"

/-- Checks the file at a path and prints the report. -/
def check (path : String) : IO UInt32 := do
  match Check.file path (← contents path) with
  | .ok report =>
    IO.print (report.text path)
    return UInt32.ofNat report.exitStatus
  | .error e =>
    IO.eprintln (failureText e)
    return 1

end Main

end FormRouting

def main (args : List String) : IO UInt32 := do
  match args with
  | [path] => FormRouting.Main.check path
  | _ =>
    IO.eprintln FormRouting.Main.usage
    return 2
