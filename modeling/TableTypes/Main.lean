import TableTypes.CommandLine.Run

/-!
# The program

The command line over the files, the variables and the output of the machine that it runs on.
-/

namespace TableTypes

/-- A fault of the machine as a fault of storage. -/
def faultOf : IO.Error → StorageFault
  | .noFileOrDirectory .. => .notFound
  | .inappropriateType .. => .notDirectory
  | _ => .other

/-- The outcome of an action of the machine. -/
def attempt {α : Type} (action : IO α) : IO (Except StorageFault α) := do
  match ← action.toBaseIO with
  | .ok a => return .ok a
  | .error e => return .error (faultOf e)

/-- The pieces of a text between characters of number zero. -/
def splitVariables (text : String) : List (String × String) :=
  (Text.splitOn '\x00' text.toList).filterMap fun cs =>
    (Text.cut? '=' cs).map fun (name, value) => (String.ofList name, String.ofList value)

instance : Host IO where
  readText path := do
    match ← attempt (IO.FS.readBinFile path) with
    | .error fault => return .error fault
    | .ok bytes =>
      match String.fromUTF8? bytes with
      | some text => return .ok text
      | none => return .error .notText
  hasEntry path := do
    match ← attempt (IO.FS.realPath path) with
    | .ok _ => return true
    | .error _ => return false
  isFile path := do
    match ← attempt (IO.FS.readBinFile path) with
    | .ok _ => return true
    | .error _ => return false
  makeDirectories path := attempt (IO.FS.createDirAll path)
  writeText path text := attempt (IO.FS.writeFile path text)
  print text := IO.print text
  environment := do
    match ← attempt (IO.FS.readFile "/proc/self/environ") with
    | .ok text => return splitVariables text
    | .error _ => return []

end TableTypes

/-- Runs the program and tells its error. -/
def main (arguments : List String) : IO UInt32 := do
  let outcome ← TableTypes.CommandLine.run arguments
  match outcome.error with
  | some text => IO.eprintln ("Error: " ++ text)
  | none => pure ()
  return outcome.code
