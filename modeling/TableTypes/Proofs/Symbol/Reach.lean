import TableTypes.Proofs.TypeScript.References
import TableTypes.Symbol.Collect

/-!
# What collecting registers

Collecting what a type expression needs registers exactly the names that can be reached from it
through the definitions of the library, whatever circles these form. The walk keeps a list of names
that are still to be visited; its invariant is that the table is closed up to this list.
-/

namespace TableTypes

open TypeScript

namespace Library

/-- The library has a definition or an import under a name. -/
def Knows (lib : Library) (name : String) : Prop :=
  lib.definitions.has name = true ∨ lib.imports.has name = true

/-- A library knows a name exactly when it has a symbol for it. -/
theorem knows_iff {lib : Library} {name : String} :
    lib.Knows name ↔ ∃ symbol, lib.symbol? name = some symbol := by
  unfold Knows symbol? Dictionary.has
  cases lib.definitions.get? name <;> cases lib.imports.get? name <;> simp

/-- The names reached from some roots: the known names among them, and the known names that the
definition of a reached name mentions. -/
inductive Reaches (lib : Library) (roots : String → Prop) : String → Prop where
  | root {name : String} : roots name → lib.Knows name → Reaches lib roots name
  | step {name other : String} {d : Definition} : Reaches lib roots name →
      lib.definitions.get? name = some d → Mentions d.body other → lib.Knows other →
      Reaches lib roots other

/-- Only names of the library are reached. -/
theorem Reaches.knows {lib : Library} {roots : String → Prop} {name : String}
    (hreach : lib.Reaches roots name) : lib.Knows name := by
  cases hreach with
  | root _ hknows => exact hknows
  | step _ _ _ hknows => exact hknows

/-- A table is closed up to some pending names: a registered name that the library defines has its
definition as symbol, and each known name that the definition mentions is registered or pending. -/
def ClosedUpTo (lib : Library) (symbols : Symbols) (pending : List String) : Prop :=
  ∀ name d, lib.definitions.get? name = some d → symbols.contains name = true →
    symbols.get? name = some (.definition d) ∧
      ∀ other, Mentions d.body other → lib.Knows other →
        symbols.contains other = true ∨ other ∈ pending

/-- A table holds all that its own definitions mention. -/
def Closed (lib : Library) (symbols : Symbols) : Prop :=
  ∀ name d, lib.definitions.get? name = some d → symbols.contains name = true →
    symbols.get? name = some (.definition d) ∧
      ∀ other, Mentions d.body other → lib.Knows other → symbols.contains other = true

/-- A table is closed exactly when it is so up to no pending name. -/
theorem closed_iff_closedUpTo_nil {lib : Library} {symbols : Symbols} :
    lib.Closed symbols ↔ lib.ClosedUpTo symbols [] := by
  simp [Closed, ClosedUpTo]

/-- The known symbol of a defined name is its definition. -/
theorem symbol?_of_definition {lib : Library} {name : String} {d : Definition}
    (hd : lib.definitions.get? name = some d) : lib.symbol? name = some (.definition d) := by
  simp [symbol?, hd]

/-- A name whose known symbol is a definition is defined so. -/
theorem definition_of_symbol? {lib : Library} {name : String} {d : Definition}
    (hknown : lib.symbol? name = some (.definition d)) : lib.definitions.get? name = some d := by
  unfold symbol? at hknown
  split at hknown
  · next hd => simpa [hd] using hknown
  · simp at hknown

/-- The symbols of a library are declared under their names. -/
theorem isRenamed_of_symbol? {lib : Library} {name : String} {symbol : Symbol}
    (hknown : lib.symbol? name = some symbol) : symbol.isRenamed = true := by
  unfold symbol? at hknown
  split at hknown
  · exact Option.some.inj hknown ▸ rfl
  · obtain ⟨reference, -, rfl⟩ := Option.map_eq_some_iff.mp hknown
    rfl

/-- Of the symbols that a library knows, only definitions refer to names. -/
theorem mem_references_of_symbol? {lib : Library} {name other : String} {symbol : Symbol}
    (hknown : lib.symbol? name = some symbol) :
    other ∈ symbol.references ↔
      ∃ d, lib.definitions.get? name = some d ∧ Mentions d.body other := by
  unfold symbol? at hknown
  cases hd : lib.definitions.get? name with
  | some d =>
    simp only [hd, Option.some.injEq] at hknown
    subst hknown
    simp [Symbol.references, Definition.references, mem_references_iff]
  | none =>
    simp only [hd] at hknown
    obtain ⟨reference, -, rfl⟩ := Option.map_eq_some_iff.mp hknown
    simp [Symbol.references]

/-- A visit keeps the entry of every registered name. -/
theorem find?_visit {lib : Library} {symbols : Symbols} {id : String}
    {e : SymbolTable.Entry Symbol} (name : String) (hfound : symbols.find? id = some e) :
    (lib.visit name symbols).1.find? id = some e := by
  obtain ⟨hvisit, -⟩ | ⟨symbol, -, hnew, hvisit⟩ := lib.visit_cases name symbols
  · simpa [hvisit] using hfound
  · have hne : name ≠ id := by
      rintro rfl
      simp [SymbolTable.contains, hfound] at hnew
    simpa [hvisit, SymbolTable.register, SymbolTable.find?_registerAs, hne] using hfound

/-- A visit registers the visited name if the library knows it, and nothing else. -/
theorem contains_visit {lib : Library} {symbols : Symbols} {name id : String} :
    (lib.visit name symbols).1.contains id = true ↔
      symbols.contains id = true ∨ id = name ∧ lib.Knows name := by
  obtain ⟨hvisit, hidle⟩ | ⟨symbol, hknown, hnew, hvisit⟩ := lib.visit_cases name symbols
  · rw [hvisit]
    refine ⟨.inl, ?_⟩
    rintro (h | ⟨rfl, hknows⟩)
    · exact h
    · obtain ⟨symbol, hsymbol⟩ := knows_iff.mp hknows
      exact hidle.resolve_left (by simp [hsymbol])
  · have hknows : lib.Knows name := knows_iff.mpr ⟨symbol, hknown⟩
    simp only [hvisit, SymbolTable.register, SymbolTable.contains_registerAs, Bool.or_eq_true,
      decide_eq_true_eq, hknows, and_true, @eq_comm _ id name]
    exact Or.comm

/-- A name that a visit registers gets the symbol that the library has for it. -/
theorem get?_visit {lib : Library} {symbols : Symbols} {name id : String}
    (hnew : symbols.contains id = false)
    (hvisited : (lib.visit name symbols).1.contains id = true) :
    (lib.visit name symbols).1.get? id = lib.symbol? id := by
  obtain ⟨rfl, -⟩ : id = name ∧ lib.Knows name := by simpa [hnew] using contains_visit.mp hvisited
  obtain ⟨hvisit, -⟩ | ⟨symbol, hknown, -, hvisit⟩ := lib.visit_cases id symbols
  · simp [hvisit, hnew] at hvisited
  · simp [hvisit, hknown, SymbolTable.get?, SymbolTable.register, SymbolTable.find?_registerAs,
      SymbolTable.contains_eq_false_iff.mp hnew]

/-- A visit passes the invariant on: what the new symbol refers to takes the place of the visited
name among the pending ones. -/
theorem ClosedUpTo.visit {lib : Library} {symbols : Symbols} {name : String} {names : List String}
    (hclosed : lib.ClosedUpTo symbols (name :: names)) :
    lib.ClosedUpTo (lib.visit name symbols).1 ((lib.visit name symbols).2 ++ names) := by
  intro id d hd hcontains
  cases hbefore : symbols.contains id with
  | true =>
    obtain ⟨hget, hmentions⟩ := hclosed id d hd hbefore
    obtain ⟨e, hfound, hsymbol⟩ := Option.map_eq_some_iff.mp hget
    refine ⟨by simp [SymbolTable.get?, find?_visit name hfound, hsymbol], ?_⟩
    intro other hother hknows
    rcases hmentions other hother hknows with h | h
    · exact .inl (contains_visit.mpr (.inl h))
    · rcases List.mem_cons.mp h with rfl | h
      · exact .inl (contains_visit.mpr (.inr ⟨rfl, hknows⟩))
      · exact .inr (List.mem_append_right _ h)
  | false =>
    refine ⟨by rw [get?_visit hbefore hcontains, symbol?_of_definition hd], ?_⟩
    intro other hother hknows
    obtain ⟨rfl, -⟩ : id = name ∧ lib.Knows name := by
      simpa [hbefore] using contains_visit.mp hcontains
    obtain ⟨hvisit, -⟩ | ⟨symbol, hknown, -, hvisit⟩ := lib.visit_cases id symbols
    · simp [hvisit, hbefore] at hcontains
    · rw [hvisit]
      exact .inr (List.mem_append_left _ ((mem_references_of_symbol? hknown).mpr ⟨d, hd, hother⟩))

/-- What is reached from the names pending after a visit was reached from those pending before. -/
theorem Reaches.of_visit {lib : Library} {symbols : Symbols} {name id : String}
    {names : List String}
    (hreach : lib.Reaches (· ∈ (lib.visit name symbols).2 ++ names) id) :
    lib.Reaches (· ∈ name :: names) id := by
  induction hreach with
  | step _ hd hmentions hknows ih => exact .step ih hd hmentions hknows
  | @root id hroot hknows =>
    rcases List.mem_append.mp hroot with hnext | hrest
    · obtain ⟨hvisit, -⟩ | ⟨symbol, hknown, -, hvisit⟩ := lib.visit_cases name symbols
      · simp [hvisit] at hnext
      · rw [hvisit] at hnext
        obtain ⟨d, hd, hmentions⟩ := (mem_references_of_symbol? hknown).mp hnext
        have hname : lib.Knows name := knows_iff.mpr ⟨symbol, hknown⟩
        exact .step (.root (by simp) hname) hd hmentions hknows
    · exact .root (List.mem_cons_of_mem _ hrest) hknows

/-- Collecting keeps the entry of every registered name. -/
theorem find?_collectNames {lib : Library} {symbols : Symbols} {names : List String} {id : String}
    {e : SymbolTable.Entry Symbol} (hfound : symbols.find? id = some e) :
    (lib.collectNames symbols names).find? id = some e := by
  induction symbols, names using collectNames.induct lib with
  | case1 symbols => simpa [collectNames] using hfound
  | case2 symbols name names ih =>
    rw [collectNames]
    exact ih (find?_visit name hfound)

/-- Registered names stay registered. -/
theorem contains_collectNames_of_contains {lib : Library} {symbols : Symbols} {names : List String}
    {id : String} (hcontains : symbols.contains id = true) :
    (lib.collectNames symbols names).contains id = true := by
  obtain ⟨e, hfound⟩ := Option.isSome_iff_exists.mp hcontains
  simp [SymbolTable.contains, find?_collectNames hfound]

/-- Once no names are pending the table is closed. -/
theorem closed_collectNames {lib : Library} {symbols : Symbols} {names : List String}
    (hclosed : lib.ClosedUpTo symbols names) : lib.Closed (lib.collectNames symbols names) := by
  induction symbols, names using collectNames.induct lib with
  | case1 symbols => simpa [collectNames, closed_iff_closedUpTo_nil] using hclosed
  | case2 symbols name names ih =>
    rw [collectNames]
    exact ih hclosed.visit

/-- Every pending name that the library knows is registered in the end. -/
theorem contains_collectNames_of_mem {lib : Library} {symbols : Symbols} {names : List String}
    {id : String} (hmem : id ∈ names) (hknows : lib.Knows id) :
    (lib.collectNames symbols names).contains id = true := by
  induction symbols, names using collectNames.induct lib with
  | case1 symbols => simp at hmem
  | case2 symbols name names ih =>
    rw [collectNames]
    rcases List.mem_cons.mp hmem with rfl | hmem
    · exact contains_collectNames_of_contains (contains_visit.mpr (.inr ⟨rfl, hknows⟩))
    · exact ih (List.mem_append_right _ hmem)

/-- Nothing is registered that is not reached from the pending names. -/
theorem reaches_of_contains_collectNames {lib : Library} {symbols : Symbols} {names : List String}
    {id : String} (hcontains : (lib.collectNames symbols names).contains id = true) :
    symbols.contains id = true ∨ lib.Reaches (· ∈ names) id := by
  induction symbols, names using collectNames.induct lib with
  | case1 symbols => exact .inl (by simpa [collectNames] using hcontains)
  | case2 symbols name names ih =>
    rw [collectNames] at hcontains
    rcases ih hcontains with h | h
    · rcases contains_visit.mp h with h | ⟨rfl, hknows⟩
      · exact .inl h
      · exact .inr (.root (by simp) hknows)
    · exact .inr h.of_visit

/-- A newly registered name has the symbol that the library has for it. -/
theorem get?_collectNames {lib : Library} {symbols : Symbols} {names : List String} {id : String}
    (hnew : symbols.contains id = false)
    (hcontains : (lib.collectNames symbols names).contains id = true) :
    (lib.collectNames symbols names).get? id = lib.symbol? id := by
  induction symbols, names using collectNames.induct lib with
  | case1 symbols => simp [collectNames, hnew] at hcontains
  | case2 symbols name names ih =>
    rw [collectNames] at hcontains ⊢
    cases hvisited : (lib.visit name symbols).1.contains id with
    | false => exact ih hvisited hcontains
    | true =>
      obtain ⟨e, hfound⟩ := Option.isSome_iff_exists.mp hvisited
      have hsymbol := get?_visit hnew hvisited
      simp only [SymbolTable.get?, hfound, Option.map_some] at hsymbol
      simp [SymbolTable.get?, find?_collectNames hfound, hsymbol]

/-- A closed table that holds the known roots holds all that is reached from them. -/
theorem Closed.contains_of_reaches {lib : Library} {symbols : Symbols} {roots : String → Prop}
    (hclosed : lib.Closed symbols)
    (hroots : ∀ name, roots name → lib.Knows name → symbols.contains name = true) {id : String}
    (hreach : lib.Reaches roots id) : symbols.contains id = true := by
  induction hreach with
  | root hroot hknows => exact hroots _ hroot hknows
  | step _ hd hmentions hknows ih => exact (hclosed _ _ hd ih).2 _ hmentions hknows

/-- Collecting ends on every library, and on a closed table it registers exactly the names reached
from the type expression: the table stays closed, registered names keep their display names and
symbols, and each new name is a definition if the library has one for it and an import otherwise. -/
theorem collect_registers_reached {lib : Library} {symbols : Symbols}
    (hclosed : lib.Closed symbols) (e : TypeExpr) :
    (∀ id, (lib.collect symbols e).contains id = true ↔
      symbols.contains id = true ∨ lib.Reaches (Mentions e) id) ∧
    lib.Closed (lib.collect symbols e) ∧
    (∀ id entry, symbols.find? id = some entry →
      (lib.collect symbols e).find? id = some entry) ∧
    (∀ id, symbols.contains id = false → lib.Reaches (Mentions e) id →
      (∀ d, lib.definitions.get? id = some d →
        (lib.collect symbols e).get? id = some (.definition d)) ∧
      (lib.definitions.get? id = none → ∃ reference, lib.imports.get? id = some reference ∧
        (lib.collect symbols e).get? id = some (.imported reference))) := by
  have hpending : lib.ClosedUpTo symbols e.references := by
    intro name d hd hcontains
    obtain ⟨hget, hmentions⟩ := hclosed name d hd hcontains
    exact ⟨hget, fun other hother hknows => .inl (hmentions other hother hknows)⟩
  have hresult : lib.Closed (lib.collect symbols e) := closed_collectNames hpending
  have hroots : (· ∈ e.references) = Mentions e := by
    funext name
    exact propext mem_references_iff
  have hreached : ∀ {id}, lib.Reaches (Mentions e) id →
      (lib.collect symbols e).contains id = true := by
    intro id hreach
    refine hresult.contains_of_reaches (fun name hname hknows => ?_) hreach
    exact contains_collectNames_of_mem (mem_references_iff.mpr hname) hknows
  refine ⟨fun id => ⟨fun hcontains => ?_, fun h => ?_⟩, hresult, ?_, ?_⟩
  · rw [← hroots]
    exact reaches_of_contains_collectNames hcontains
  · exact h.elim contains_collectNames_of_contains hreached
  · intro id entry hfound
    exact find?_collectNames hfound
  · intro id hnew hreach
    have hget : (lib.collect symbols e).get? id = lib.symbol? id :=
      get?_collectNames hnew (hreached hreach)
    refine ⟨fun d hd => by rw [hget, symbol?_of_definition hd], fun hd => ?_⟩
    obtain ⟨symbol, hsymbol⟩ := knows_iff.mp hreach.knows
    have hreference : (lib.imports.get? id).map .imported = some symbol := by
      simpa [symbol?, hd] using hsymbol
    obtain ⟨reference, himport, rfl⟩ := Option.map_eq_some_iff.mp hreference
    exact ⟨reference, himport, by rw [hget, hsymbol]⟩

/-- A library of two definitions that mention each other, one of which also needs an import. -/
def circularPair : Library where
  definitions := [("List", .plain (.array (.named "Node"))),
    ("Node", .template ["T"] (.generic "Pair" [.named "T", .named "List"]))]
  imports := [("Pair", ⟨"pairs", none⟩)]

/-- From one of two definitions that mention each other, in a table that already holds an
interface, the other one and its import are registered. -/
theorem collect_circularPair :
    circularPair.Closed ((SymbolTable.empty .pascal).register "users" .table).2 ∧
    (circularPair.collect ((SymbolTable.empty .pascal).register "users" .table).2
      (.named "List")).get? "Pair" = some (.imported ⟨"pairs", none⟩) := by
  have hclosed : circularPair.Closed ((SymbolTable.empty .pascal).register "users" .table).2 := by
    intro name d hd hcontains
    rw [SymbolTable.register, SymbolTable.contains_registerAs] at hcontains
    obtain rfl : "users" = name := by simpa [SymbolTable.contains] using hcontains
    have hnone : circularPair.definitions.get? "users" = none := rfl
    rw [hnone] at hd
    cases hd
  refine ⟨hclosed, ?_⟩
  obtain ⟨-, -, -, hsymbols⟩ := collect_registers_reached hclosed (.named "List")
  have hlist : circularPair.Reaches (Mentions (.named "List")) "List" :=
    .root (.name _ _) (.inl rfl)
  have hnode : circularPair.Reaches (Mentions (.named "List")) "Node" :=
    .step hlist rfl (.element (.name _ _)) (.inl rfl)
  have hpair : circularPair.Reaches (Mentions (.named "List")) "Pair" :=
    .step hnode rfl (.head _ _) (.inr rfl)
  obtain ⟨reference, himport, hget⟩ := (hsymbols "Pair" rfl hpair).2 rfl
  have hreference : reference = ⟨"pairs", none⟩ := by
    simpa [circularPair, Dictionary.get?] using himport.symm
  rw [hget, hreference]

end Library

end TableTypes
