import TableTypes.Naming.Style

/-!
# Symbol tables

A symbol table gives each registered id a display name of its own: the id (or a given source text)
in the style of the table, with a number behind it if that name is taken. The first registration of
an id decides; a later one changes nothing. The entries are kept in ascending order of their ids, and
beside them the names that are taken, which are looked up by themselves.
-/

namespace TableTypes

open Naming

namespace SymbolTable

/-- A registered symbol under its id, with its display name. -/
structure Entry (α : Type) where
  id : String
  name : String
  symbol : α
  deriving Repr

/-- A source text with an underscore in place of each character that is no letter, number,
underscore or dollar sign. -/
def sanitize (source : List Char) : List Char :=
  source.map fun c => if Unicode.isAlphanumeric c || c = '_' || c = '$' then c else '_'

/-- The name that a source text asks for: its sanitized form in the given style, or an underscore if
nothing is left of it. -/
def baseName (style : IdentifierStyle) (source : String) : String :=
  match style.convert (sanitize source.toList) with
  | [] => "_"
  | cs => String.ofList cs

/-- The first of the names `base2`, `base3`, … that is not taken. -/
def numbered (taken : List String) (base : String) : String :=
  let candidates := (List.range (taken.length + 1)).map fun k => base ++ toString (k + 2)
  (candidates.find? fun name => !taken.contains name).getD base

/-- The base name itself if it is free, and otherwise the first free numbered one. -/
def freeName (taken : List String) (base : String) : String :=
  if taken.contains base then numbered taken base else base

/-- A name with an underscore before a leading digit. -/
def guardDigit (name : String) : String :=
  match name.toList with
  | c :: _ => if c.isDigit then "_" ++ name else name
  | [] => name

/-- The display name for a source text where the given names are taken. -/
def displayName (style : IdentifierStyle) (taken : List String) (source : String) : String :=
  guardDigit (freeName taken (baseName style source))

/-- Puts an entry before the first one with a greater id. -/
def insertEntry {α : Type} (e : Entry α) : List (Entry α) → List (Entry α)
  | [] => [e]
  | f :: fs => if e.id < f.id then e :: f :: fs else f :: insertEntry e fs

end SymbolTable

/-- Symbols by id, in ascending order of the ids, with the style of their display names and the
display names that are taken. -/
structure SymbolTable (α : Type) where
  style : IdentifierStyle
  entries : List (SymbolTable.Entry α)
  /-- The display names that are taken. -/
  names : List String
  deriving Repr

namespace SymbolTable

variable {α : Type}

/-- The table without symbols. -/
def empty (style : IdentifierStyle) : SymbolTable α :=
  { style, entries := [], names := [] }

/-- The entry of an id. -/
def find? (t : SymbolTable α) (id : String) : Option (Entry α) :=
  t.entries.find? (·.id = id)

/-- Whether an id is registered. -/
def contains (t : SymbolTable α) (id : String) : Bool :=
  (t.find? id).isSome

/-- The symbol of an id. -/
def get? (t : SymbolTable α) (id : String) : Option α :=
  (t.find? id).map (·.symbol)

/-- The display name of an id. -/
def name? (t : SymbolTable α) (id : String) : Option String :=
  (t.find? id).map (·.name)

/-- How many ids are registered. -/
def size (t : SymbolTable α) : Nat :=
  t.entries.length

/-- Registers a symbol under an id unless the id is known, with a display name made from `source`,
and gives the name of the id. -/
def registerAs (t : SymbolTable α) (id source : String) (symbol : α) : String × SymbolTable α :=
  match t.find? id with
  | some e => (e.name, t)
  | none =>
    let name := displayName t.style t.names source
    (name, { t with
      entries := insertEntry { id, name, symbol } t.entries
      names := t.names.insert name })

/-- Registers a symbol under an id unless the id is known, with a display name made from the id. -/
def register (t : SymbolTable α) (id : String) (symbol : α) : String × SymbolTable α :=
  t.registerAs id id symbol

/-- An id is unknown exactly when it has no entry. -/
theorem contains_eq_false_iff {t : SymbolTable α} {id : String} :
    t.contains id = false ↔ t.find? id = none := by
  simp [contains]

/-- The empty table has no entries. -/
@[simp] theorem find?_empty (style : IdentifierStyle) (id : String) :
    (empty style : SymbolTable α).find? id = none := rfl

/-- Inserting an entry under a new id changes what is found under that id only. -/
theorem find?_insertEntry {e : Entry α} {es : List (Entry α)}
    (hnew : es.find? (·.id = e.id) = none) (id : String) :
    (insertEntry e es).find? (·.id = id) = if e.id = id then some e else es.find? (·.id = id) := by
  induction es with
  | nil => simp [insertEntry, List.find?_cons]; split <;> simp_all
  | cons f fs ih =>
    have hne : f.id ≠ e.id := by
      intro h
      simp [h] at hnew
    have hrest : fs.find? (·.id = e.id) = none := by simpa [List.find?_cons, hne] using hnew
    unfold insertEntry
    split
    · simp only [List.find?_cons]
      split <;> simp_all
    · simp only [List.find?_cons, ih hrest]
      by_cases hid : f.id = id
      · have hother : e.id ≠ id := by
          intro h
          exact hne (hid.trans h.symm)
        simp [hid, hother]
      · simp [hid]

/-- A known id keeps its entry, and the table stays as it is. -/
theorem registerAs_of_find? {t : SymbolTable α} {id : String} {e : Entry α}
    (hfound : t.find? id = some e) (source : String) (symbol : α) :
    t.registerAs id source symbol = (e.name, t) := by
  simp [registerAs, hfound]

/-- A new id gets an entry with a display name made from the source. -/
theorem registerAs_of_find?_none {t : SymbolTable α} {id : String} (hnew : t.find? id = none)
    (source : String) (symbol : α) :
    t.registerAs id source symbol = (displayName t.style t.names source,
      { t with
        entries := insertEntry { id, name := displayName t.style t.names source, symbol }
          t.entries
        names := t.names.insert (displayName t.style t.names source) }) := by
  simp [registerAs, hnew]

/-- After a registration the id has the entry it had before, or a new one if it had none; all other
ids are found as before. -/
theorem find?_registerAs (t : SymbolTable α) (id source other : String) (symbol : α) :
    (t.registerAs id source symbol).2.find? other =
      if t.find? id = none ∧ id = other then
        some { id, name := displayName t.style t.names source, symbol }
      else t.find? other := by
  cases hfound : t.find? id with
  | some e => simp [registerAs_of_find? hfound]
  | none =>
    rw [registerAs_of_find?_none hfound]
    let e : Entry α := { id, name := displayName t.style t.names source, symbol }
    have hnew : t.entries.find? (·.id = e.id) = none := by simpa [find?] using hfound
    simpa [find?] using find?_insertEntry hnew other

/-- Ids stay known when another symbol is registered. -/
theorem contains_registerAs (t : SymbolTable α) (id source other : String) (symbol : α) :
    (t.registerAs id source symbol).2.contains other =
      (decide (id = other) || t.contains other) := by
  by_cases hid : id = other
  · subst hid
    cases hfound : t.find? id <;> simp [contains, find?_registerAs, hfound]
  · simp [contains, find?_registerAs, hid]

end SymbolTable

end TableTypes
