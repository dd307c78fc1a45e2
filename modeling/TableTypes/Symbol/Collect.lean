import TableTypes.Dialect.Profile
import TableTypes.Symbol.Basic

/-!
# Collecting what a type needs

The definitions and imports of a library that a type expression reaches are registered as symbols: a
definition that is met for the first time brings what its body refers to. Only new symbols are
followed, so the walk ends also where definitions refer to each other in circles.
-/

namespace TableTypes

open TypeScript

namespace Library

/-- The symbol that the library has for a name: a definition, or an import where there is none. -/
def symbol? (lib : Library) (name : String) : Option Symbol :=
  match lib.definitions.get? name with
  | some d => some (.definition d)
  | none => (lib.imports.get? name).map .imported

/-- Registers a name that the library knows and that is not registered yet, and gives the names that
must be registered next. -/
def visit (lib : Library) (name : String) (symbols : Symbols) : Symbols × List String :=
  match lib.symbol? name with
  | none => (symbols, [])
  | some symbol =>
    if symbols.contains name then (symbols, [])
    else ((symbols.register name symbol).2, symbol.references)

/-- The names of the library that are not registered. -/
def unregistered (lib : Library) (symbols : Symbols) : List String :=
  (lib.definitions.keys ++ lib.imports.keys).filter fun name => !symbols.contains name

/-- A name with a symbol is among the keys of the library. -/
theorem mem_keys_of_symbol? {lib : Library} {name : String} {symbol : Symbol}
    (hknown : lib.symbol? name = some symbol) :
    name ∈ lib.definitions.keys ++ lib.imports.keys := by
  have hkey {β : Type} {d : Dictionary β} {v : β} (h : d.get? name = some v) : name ∈ d.keys := by
    obtain ⟨before, after, hd, -⟩ := List.lookup_eq_some_iff.mp h
    simp [Dictionary.keys, hd]
  unfold symbol? at hknown
  split at hknown
  next d hd => exact List.mem_append_left _ (hkey hd)
  next =>
    obtain ⟨reference, hreference, -⟩ := Option.map_eq_some_iff.mp hknown
    exact List.mem_append_right _ (hkey hreference)

/-- A visit either changes nothing and asks for nothing, because the name is unknown to the library
or already registered, or it registers a new name and asks for what its symbol refers to. -/
theorem visit_cases (lib : Library) (name : String) (symbols : Symbols) :
    (lib.visit name symbols = (symbols, []) ∧
      (lib.symbol? name = none ∨ symbols.contains name = true)) ∨
    (∃ symbol, lib.symbol? name = some symbol ∧ symbols.contains name = false ∧
      lib.visit name symbols = ((symbols.register name symbol).2, symbol.references)) := by
  cases hknown : lib.symbol? name with
  | none => exact .inl ⟨by simp [visit, hknown], .inl rfl⟩
  | some symbol =>
    cases hcontains : symbols.contains name with
    | true => exact .inl ⟨by simp [visit, hknown, hcontains], .inr rfl⟩
    | false => exact .inr ⟨symbol, rfl, rfl, by simp [visit, hknown, hcontains]⟩

/-- Registering a new name of the library leaves fewer names unregistered. -/
theorem length_unregistered_register_lt {lib : Library} {name : String} {symbols : Symbols}
    {known symbol : Symbol} (hknown : lib.symbol? name = some known)
    (hnew : symbols.contains name = false) :
    (lib.unregistered (symbols.register name symbol).2).length <
      (lib.unregistered symbols).length := by
  have hsplit : lib.unregistered (symbols.register name symbol).2 =
      (lib.unregistered symbols).filter fun other =>
        !(symbols.register name symbol).2.contains other := by
    simp only [unregistered, List.filter_filter]
    apply List.filter_congr
    intro other _
    simp only [SymbolTable.register, SymbolTable.contains_registerAs]
    cases symbols.contains other <;> simp
  rw [hsplit, List.length_filter_lt_length_iff_exists]
  refine ⟨name, List.mem_filter.mpr ⟨mem_keys_of_symbol? hknown, by simp [hnew]⟩, ?_⟩
  simp [SymbolTable.register, SymbolTable.contains_registerAs]

/-- Registers some names and all that they reach; what a new symbol refers to comes before the names
after it. -/
def collectNames (lib : Library) (symbols : Symbols) : List String → Symbols
  | [] => symbols
  | name :: names =>
    collectNames lib (lib.visit name symbols).1 ((lib.visit name symbols).2 ++ names)
termination_by names => ((lib.unregistered symbols).length, names.length)
decreasing_by
  obtain ⟨hvisit, -⟩ | ⟨symbol, hknown, hnew, hvisit⟩ := lib.visit_cases name symbols
  · rw [hvisit]
    exact Prod.Lex.right _ (by simp)
  · rw [hvisit]
    exact Prod.Lex.left _ _ (length_unregistered_register_lt hknown hnew)

/-- Registers what a type expression reaches. -/
def collect (lib : Library) (symbols : Symbols) (e : TypeExpr) : Symbols :=
  lib.collectNames symbols e.references

/-- Registers what a definition reaches. -/
def collectDefinition (lib : Library) (symbols : Symbols) (d : Definition) : Symbols :=
  lib.collectNames symbols d.references

end Library

end TableTypes
