/-!
# Dictionaries

Values under text keys, kept in ascending order of the keys. A dictionary holds each key at most
once when it is built by `put`.
-/

namespace TableTypes

/-- Pairs of a key and a value in ascending order of the keys. -/
abbrev Dictionary (α : Type) := List (String × α)

namespace Dictionary

variable {α : Type}

/-- The value under a key. -/
def get? (d : Dictionary α) (key : String) : Option α :=
  d.lookup key

/-- Whether a key has a value. -/
def has (d : Dictionary α) (key : String) : Bool :=
  (d.get? key).isSome

/-- Puts a value under a key in place of the one that is there. -/
def put (key : String) (value : α) : Dictionary α → Dictionary α
  | [] => [(key, value)]
  | (k, v) :: rest =>
    if key = k then (key, value) :: rest
    else if key < k then (key, value) :: (k, v) :: rest
    else (k, v) :: put key value rest

/-- The dictionary of some pairs; of several with one key the last one counts. -/
def ofPairs (pairs : List (String × α)) : Dictionary α :=
  pairs.foldl (fun d (k, v) => d.put k v) []

/-- The entries of two dictionaries, those of the second one winning. -/
def override (d e : Dictionary α) : Dictionary α :=
  e.foldl (fun d (k, v) => d.put k v) d

/-- The keys in order. -/
def keys (d : Dictionary α) : List String :=
  d.map (·.1)

end Dictionary

end TableTypes
