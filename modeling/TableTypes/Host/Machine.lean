import TableTypes.Host.Basic
import TableTypes.Host.FileSystem

/-!
# A host that is a value

A machine with a file system, variables, and the text printed so far. What a program does on it is a
function of the machine.
-/

namespace TableTypes

/-- A machine that a program can run on. -/
structure Machine where
  files : FileSystem := .empty []
  environment : List (String × String) := []
  printed : String := ""

namespace Machine

instance : Host (StateM Machine) where
  readText path := do return (← get).files.readText path
  hasEntry path := do return (← get).files.hasEntry path
  isFile path := do return (← get).files.isFile path
  makeDirectories path := modifyGet fun machine =>
    let (files, outcome) := machine.files.makeDirectories path
    (outcome, { machine with files })
  writeText path s := modifyGet fun machine =>
    match machine.files.write path (.text s) with
    | .ok files => (.ok (), { machine with files })
    | .error fault => (.error fault, machine)
  print s := modify fun machine => { machine with printed := machine.printed ++ s }
  environment := do return (← get).environment

end Machine

end TableTypes
