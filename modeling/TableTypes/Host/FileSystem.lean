import TableTypes.Failure
import TableTypes.Host.Path

/-!
# A file system

Directories and files by their places. A place is the list of the names on the way from the root,
which has the empty one. Paths with a slash at the beginning start from the root and all others from
the working directory.
-/

namespace TableTypes

/-- What a file holds. -/
inductive Content where
  | text (s : String)
  /-- Bytes that are no text. -/
  | bytes
  deriving DecidableEq, Repr

/-- What is at a place of a file system. -/
inductive Entry where
  | directory
  | file (content : Content)
  deriving DecidableEq, Repr

/-- A place of a file system. -/
abbrev Place := List String

/-- A file system: what is at each place, and the directory that a program works in. -/
structure FileSystem where
  entry? : Place → Option Entry
  workingDirectory : Place

namespace FileSystem

/-- A file system that holds nothing but its working directory and the directories on the way
there. -/
def empty (workingDirectory : Place) : FileSystem where
  entry? place := if place.isPrefixOf workingDirectory then some .directory else none
  workingDirectory

/-- Puts an entry at a place. -/
def put (fs : FileSystem) (place : Place) (e : Entry) : FileSystem :=
  { fs with entry? := fun other => if other = place then some e else fs.entry? other }

/-- Follows names from a place. Each of them must be looked up in a directory; the last one need
not be there. The directory above the root is the root itself. -/
def follow (fs : FileSystem) : Place → List String → Except StorageFault Place
  | place, [] => .ok place
  | place, name :: rest =>
    match fs.entry? place with
    | none => .error .notFound
    | some (.file _) => .error .notDirectory
    | some .directory =>
      if name = "" || name = "." then fs.follow place rest
      else if name = ".." then fs.follow place.dropLast rest
      else fs.follow (place ++ [name]) rest

/-- The place that a path starts from and the names on it, or why there can be nothing at the
path. -/
def start (fs : FileSystem) (path : String) : Except StorageFault (Place × List String) :=
  if path = "" then .error .notFound
  else if path.toList.contains '\x00' then .error .other
  else
    let place := if Path.isAbsolute path then [] else fs.workingDirectory
    .ok (place, (Text.splitOn '/' path.toList).map String.ofList)

/-- The place of a path. -/
def locate (fs : FileSystem) (path : String) : Except StorageFault Place :=
  (fs.start path).bind fun (place, names) => fs.follow place names

/-- What is at a path. -/
def look (fs : FileSystem) (path : String) : Except StorageFault Entry :=
  (fs.locate path).bind fun place =>
    match fs.entry? place with
    | some e => .ok e
    | none => .error .notFound

/-- The text of the file at a path. -/
def readText (fs : FileSystem) (path : String) : Except StorageFault String :=
  (fs.look path).bind fun e =>
    match e with
    | .file (.text s) => .ok s
    | .file .bytes => .error .notText
    | .directory => .error .isDirectory

/-- Whether there is something at a path. -/
def hasEntry (fs : FileSystem) (path : String) : Bool :=
  match fs.look path with
  | .ok _ => true
  | .error _ => false

/-- Whether there is a file at a path. -/
def isFile (fs : FileSystem) (path : String) : Bool :=
  match fs.look path with
  | .ok (.file _) => true
  | _ => false

/-- A file system with a file at a path. -/
def write (fs : FileSystem) (path : String) (content : Content) : Except StorageFault FileSystem :=
  (fs.locate path).bind fun place =>
    match fs.entry? place with
    | some .directory => .error .isDirectory
    | _ => .ok (fs.put place (.file content))

/-- Makes the directories on the way from a place as far as they are missing. A file in the way
stops this; the directories made so far stay. -/
def makeFrom (fs : FileSystem) : Place → List String → FileSystem × Except StorageFault Unit
  | _, [] => (fs, .ok ())
  | place, name :: rest =>
    if name = "" || name = "." then fs.makeFrom place rest
    else if name = ".." then fs.makeFrom place.dropLast rest
    else
      let next := place ++ [name]
      match fs.entry? next with
      | some .directory => fs.makeFrom next rest
      | some (.file _) => (fs, .error .notDirectory)
      | none => (fs.put next .directory).makeFrom next rest

/-- Makes the directories of a path as far as they are missing. -/
def makeDirectories (fs : FileSystem) (path : String) : FileSystem × Except StorageFault Unit :=
  match fs.start path with
  | .error fault => (fs, if path = "" then .ok () else .error fault)
  | .ok (place, names) =>
    if fs.entry? place = some .directory then fs.makeFrom place names else (fs, .error .notFound)

end FileSystem

end TableTypes
