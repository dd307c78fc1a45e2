import TableTypes.Number.Binary64

/-!
# Values of settings

What can stand for a setting in a file or a variable, and values put in place below a key, so that
one source of settings goes over another.
-/

namespace TableTypes

/-- A value in a source of settings. -/
inductive Value where
  | null
  | boolean (value : Bool)
  | integer (value : Int)
  | float (value : Binary64)
  | text (value : String)
  /-- A date, a time of day, or both, in its canonical notation. -/
  | moment (text : String)
  | array (items : List Value)
  | table (entries : List (String × Value))
  deriving Repr, Inhabited

namespace Value

/-- The entries of a table; other values have none. -/
def entries : Value → List (String × Value)
  | table entries => entries
  | _ => []

/-- The value under a key. -/
def get? (v : Value) (key : String) : Option Value :=
  v.entries.lookup key

/-- Changes the value under a key, which is null if there is none. -/
def changeEntry (f : Value → Value) (key : String) :
    List (String × Value) → List (String × Value)
  | [] => [(key, f null)]
  | (k, v) :: rest => if k = key then (k, f v) :: rest else (k, v) :: changeEntry f key rest

mutual

/-- A value with another one over it: the entries of a table go over those that are there, and any
other value takes the place of what is there. -/
def overlay (old : Value) : Value → Value
  | table entries => entriesOver (match old with | null => table [] | old => old) entries
  | new => new

/-- A value with some entries over its own. -/
def entriesOver (old : Value) : List (String × Value) → Value
  | [] => old
  | (key, value) :: rest =>
    entriesOver (table (changeEntry (fun v => overlay v value) key old.entries)) rest

end

/-- A step from a value to one inside it. -/
inductive Step where
  | key (k : String)
  /-- A place in an array; one below zero counts from the end. -/
  | place (n : Int)
  deriving DecidableEq, Repr

/-- Changes the item at a place. An array that is too short is filled up with null, at its beginning
if the place counts from the end. -/
def changeItem (f : Value → Value) (n : Int) (items : List Value) : List Value :=
  let n := if n < 0 then n + items.length else n
  if n < 0 then f null :: (List.replicate ((-n).toNat - 1) null ++ items)
  else (items ++ List.replicate (n.toNat + 1 - items.length) null).modify n.toNat f

/-- Changes the value at the end of some steps. What stands in the way gives place to tables and
arrays. -/
def change (f : Value → Value) : List Step → Value → Value
  | [], v => f v
  | .key k :: rest, v => table (changeEntry (change f rest) k v.entries)
  | .place n :: rest, v =>
    array (changeItem (change f rest) n (match v with | array items => items | _ => []))

/-- Puts a value over the one at the end of some steps. -/
def put (v : Value) (steps : List Step) (value : Value) : Value :=
  change (fun old => old.overlay value) steps v

end Value

end TableTypes
