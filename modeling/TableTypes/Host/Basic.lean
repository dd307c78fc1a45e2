import TableTypes.Failure

/-!
# What the program needs of its host

Files, standard output and variables. The program is written over any host, so that it can run on a
real one and be followed on a host that is a value.
-/

namespace TableTypes

/-- A monad in which files can be read and written, text printed and variables read. -/
class Host (m : Type → Type) where
  /-- Reads a file that holds a text. -/
  readText : String → m (Except StorageFault String)
  /-- Whether there is a file or a directory at a path. -/
  hasEntry : String → m Bool
  /-- Whether there is a file at a path. -/
  isFile : String → m Bool
  /-- Makes the directories of a path as far as they are missing. -/
  makeDirectories : String → m (Except StorageFault Unit)
  /-- Writes a file in place of the one that is there. -/
  writeText : String → String → m (Except StorageFault Unit)
  print : String → m Unit
  /-- The names and texts of all variables. -/
  environment : m (List (String × String))

/-- A host stays one for programs that can fail. -/
instance {ε : Type} {m : Type → Type} [Monad m] [Host m] : Host (ExceptT ε m) where
  readText path := ExceptT.lift (Host.readText path)
  hasEntry path := ExceptT.lift (Host.hasEntry path)
  isFile path := ExceptT.lift (Host.isFile path)
  makeDirectories path := ExceptT.lift (Host.makeDirectories path)
  writeText path s := ExceptT.lift (Host.writeText path s)
  print s := ExceptT.lift (Host.print s)
  environment := ExceptT.lift Host.environment

end TableTypes
