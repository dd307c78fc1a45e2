import TableTypes.Text.Lines

/-!
# Paths

Names with slashes between them. A single dot stands for the directory itself and two dots for the
one above it.
-/

namespace TableTypes.Path

/-- Whether a path starts from the root and not from the working directory. -/
def isAbsolute (path : String) : Bool :=
  path.toList.head? = some '/'

/-- The names of a path, without empty ones and without single dots but for one at the beginning of a
path that starts from the working directory. -/
def parts (path : String) : List String :=
  let names := ((Text.splitOn '/' path.toList).map String.ofList).filter fun name => name ≠ ""
  match names with
  | [] => []
  | first :: rest =>
    (if isAbsolute path && first = "." then [] else [first]) ++ rest.filter fun name => name ≠ "."

/-- The directory that a path lies in; the root and a path of a single name lie in none. -/
def parent? (path : String) : Option String :=
  match parts path with
  | [] => none
  | [_] => if isAbsolute path then some "/" else none
  | names =>
    some ((if isAbsolute path then "/" else "") ++ "/".intercalate names.dropLast)

/-- A path that starts from a directory. -/
def join (directory path : String) : String :=
  if isAbsolute path || directory = "" then path
  else if directory.toList.getLast? = some '/' then directory ++ path
  else directory ++ "/" ++ path

/-- The end of a name behind its last dot, unless it has no other dot than one at its beginning. -/
def extension? (path : String) : Option String :=
  match (parts path).getLast? with
  | none => none
  | some ".." => none
  | some name =>
    match Text.cutLast? '.' name.toList with
    | none => none
    | some ([], _) => none
    | some (_, ending) => some (String.ofList ending)

end TableTypes.Path
