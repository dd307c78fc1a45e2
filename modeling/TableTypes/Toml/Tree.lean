import TableTypes.Settings.Value

/-!
# Tables under construction

A document gives a table its entries line by line. Whether a table may still get entries depends on
what has made it: a header of its own, the header of a table inside it, or a key with dots.
-/

namespace TableTypes.Toml

/-- What has made a table. -/
inductive Origin where
  /-- A header of its own. -/
  | header
  /-- The header of a table inside it. -/
  | outer
  /-- A key with dots. -/
  | dotted
  deriving DecidableEq, Repr

/-- A part of a document. -/
inductive Node where
  | value (v : Value)
  | table (origin : Origin) (entries : List (String × Node))
  /-- The tables of an array, which has one header for each. -/
  | tables (items : List (List (String × Node)))

/-- The entries of a table under construction. -/
abbrev Entries := List (String × Node)

mutual

/-- The value of a part of a document. -/
def Node.toValue : Node → Value
  | .value v => v
  | .table _ entries => .table (entryValues entries)
  | .tables items => .array (tableValues items)

/-- The values of some entries. -/
def entryValues : List (String × Node) → List (String × Value)
  | [] => []
  | (key, node) :: rest => (key, node.toValue) :: entryValues rest

/-- The values of some tables. -/
def tableValues : List (List (String × Node)) → List Value
  | [] => []
  | entries :: rest => .table (entryValues entries) :: tableValues rest

end

/-- Puts a part of a document in place of the one under a key, or behind the others. -/
def putNode (key : String) (node : Node) : Entries → Entries
  | [] => [(key, node)]
  | (k, n) :: rest => if k = key then (key, node) :: rest else (k, n) :: putNode key node rest

/-- Changes the entries of the table at the end of some keys, with those on the way made as far as
they are missing. A key with dots does not reach into a table that has a header. -/
def within (dots : Bool) (f : Origin → Entries → Option Entries) :
    List String → Origin → Entries → Option Entries
  | [], origin, entries => f origin entries
  | key :: rest, _, entries =>
    match entries.lookup key with
    | none =>
      let origin := if dots then .dotted else .outer
      (within dots f rest origin []).map fun inner => putNode key (.table origin inner) entries
    | some (.value _) => none
    | some (.table origin inner) =>
      if dots && origin = .header then none
      else (within dots f rest origin inner).map fun inner =>
        putNode key (.table origin inner) entries
    | some (.tables items) =>
      (within dots f rest .header (items.getLast?.getD [])).map fun last =>
        putNode key (.tables (items.dropLast ++ [last])) entries

/-- Adds a value under a key that may have dots to the entries of a table. -/
def addValue (keys : List String) (v : Value) : Origin → Entries → Option Entries :=
  let key := keys.getLast?.getD ""
  within true
    (fun origin entries =>
      if (origin == .dotted) == keys.dropLast.isEmpty || (entries.lookup key).isSome then none
      else some (putNode key (.value v) entries))
    keys.dropLast

/-- Adds the table of a header. -/
def addTable (keys : List String) (entries : Entries) : Option Entries :=
  let key := keys.getLast?.getD ""
  within false
    (fun _ entries =>
      match entries.lookup key with
      | none => some (putNode key (.table .header []) entries)
      | some (.table .outer inner) => some (putNode key (.table .header inner) entries)
      | some _ => none)
    keys.dropLast .header entries

/-- Adds a table to the array of a header. -/
def addItem (keys : List String) (entries : Entries) : Option Entries :=
  let key := keys.getLast?.getD ""
  within false
    (fun _ entries =>
      match entries.lookup key with
      | none => some (putNode key (.tables [[]]) entries)
      | some (.tables items) => some (putNode key (.tables (items ++ [[]])) entries)
      | some _ => none)
    keys.dropLast .header entries

end TableTypes.Toml
