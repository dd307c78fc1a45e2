import Mathlib.Data.List.TakeWhile
import TableTypes.Proofs.Interfaces.CustomImports
import TableTypes.Proofs.Validation

/-!
# Import specs as checked and as read

An import spec is checked at its first number sign and read at its last one. Both agree exactly on
specs with one number sign at most. From checked settings no file imports from a blank module, and a
file imports a blank export only for a spec with more number signs.
-/

namespace TableTypes

open TypeScript SymbolTable

/-! ## The parts of a spec -/

/-- A text is blank if nothing is left of it once it is trimmed. -/
theorem isBlankText_iff {s : String} : isBlankText s.toList = true ↔ Unicode.trimText s = "" := by
  rw [← String.toList_inj, Unicode.trimText, String.toList_ofList, Unicode.trim, Unicode.trimEnd,
    isBlankText, List.all_eq_true]
  constructor
  · intro hall
    rw [List.dropWhile_eq_nil_iff.mpr hall]
    rfl
  · intro h
    have hrest : (s.toList.dropWhile Unicode.isBlank).reverse.dropWhile Unicode.isBlank = [] := by
      simpa using h
    have hblank := List.dropWhile_eq_nil_iff.mp hrest
    intro c hc
    rw [← List.takeWhile_append_dropWhile (p := Unicode.isBlank) (l := s.toList)] at hc
    rcases List.mem_append.mp hc with hc | hc
    · exact List.mem_takeWhile_imp hc
    · exact hblank c (by simpa using hc)

/-- The parts of an import spec that are checked: what stands before and after its first number sign,
or the spec itself and the local name. -/
def checkedParts (name spec : String) : String × String :=
  match Text.cut? '#' spec.toList with
  | some (path, exported) => (String.ofList path, String.ofList exported)
  | none => (spec, name)

/-- The module and the export that a file imports for an import spec. -/
def readParts (name spec : String) : String × String :=
  ((parseImportSpec name spec).path, (parseImportSpec name spec).exported.getD name)

section

variable {name spec : String}

/-- A spec is read at its last number sign. -/
theorem readParts_eq (name spec : String) :
    readParts name spec =
      match Text.cutLast? '#' spec.toList with
      | some (path, exported) => (String.ofList path, String.ofList exported)
      | none => (spec, name) := by
  unfold readParts parseImportSpec
  cases Text.cutLast? '#' spec.toList with
  | none => rfl
  | some parts =>
    obtain ⟨path, exported⟩ := parts
    by_cases h : String.ofList exported = name <;> simp [h]

/-- A spec is read as it is checked exactly when it has one `#` at most. -/
theorem readParts_eq_checkedParts_iff (name spec : String) :
    readParts name spec = checkedParts name spec ↔ spec.toList.count '#' ≤ 1 := by
  rw [← Text.cutLast?_eq_cut?_iff, readParts_eq, checkedParts]
  obtain ⟨hcut, hlast⟩ | ⟨first, last, hcut, hlast⟩ := Text.cut?_cases '#' spec.toList
  · simp [hcut, hlast]
  · simp [hcut, hlast, Prod.ext_iff, String.ofList_inj]

/-- A spec lacks nothing exactly when neither the local name nor a part that is checked is blank. -/
theorem importFault?_eq_none_iff :
    importFault? name spec = none ↔
      isBlankText name.toList = false ∧ isBlankText (checkedParts name spec).1.toList = false ∧
        isBlankText (checkedParts name spec).2.toList = false := by
  unfold importFault? checkedParts
  cases hname : isBlankText name.toList with
  | true => simp
  | false =>
    cases Text.cut? '#' spec.toList with
    | none => cases isBlankText spec.toList <;> simp [hname]
    | some parts =>
      obtain ⟨path, exported⟩ := parts
      cases hpath : isBlankText path <;> cases hexported : isBlankText exported <;>
        simp [hpath, hexported]

/-- A spec passes the check exactly when it lacks nothing. -/
theorem checkImport_eq_ok_iff : checkImport name spec = .ok () ↔ importFault? name spec = none := by
  unfold checkImport
  cases importFault? name spec <;> simp

/-- The module of a checked spec is not blank as it is read: it begins with the one that is
checked. -/
theorem path_readParts (h : importFault? name spec = none) :
    isBlankText (readParts name spec).1.toList = false := by
  obtain ⟨-, hpath, -⟩ := importFault?_eq_none_iff.mp h
  rw [readParts_eq]
  unfold checkedParts at hpath
  obtain ⟨hcut, hlast⟩ | ⟨first, last, hcut, hlast⟩ := Text.cut?_cases '#' spec.toList
  · rw [hcut] at hpath
    rwa [hlast]
  · obtain ⟨before, after⟩ := first
    obtain ⟨longer, rest⟩ := last
    obtain ⟨more, rfl⟩ := Text.prefix_of_cut?_of_cutLast? hcut hlast
    rw [hcut] at hpath
    simp only [hlast, isBlankText, String.toList_ofList, List.all_append] at hpath ⊢
    rw [hpath, Bool.false_and]

/-- An import spec is read as it is checked: the same module and export, and neither is blank. -/
structure ReadsAsChecked (name spec : String) : Prop where
  path : Unicode.trimText (readParts name spec).1 ≠ ""
  exported : Unicode.trimText (readParts name spec).2 ≠ ""
  parts : readParts name spec = checkedParts name spec

/-- A spec that passes the check is read with the parts that are checked exactly when it has one `#`
at most. -/
theorem readsAsChecked_iff_count (hchecked : checkImport name spec = .ok ()) :
    ReadsAsChecked name spec ↔ spec.toList.count '#' ≤ 1 := by
  have hsound := checkImport_eq_ok_iff.mp hchecked
  rw [← readParts_eq_checkedParts_iff name]
  refine ⟨fun h => h.parts, fun hparts => ⟨?_, ?_, hparts⟩⟩
  · rw [Ne, ← isBlankText_iff, path_readParts hsound]
    exact Bool.false_ne_true
  · rw [Ne, ← isBlankText_iff, hparts, (importFault?_eq_none_iff.mp hsound).2.2]
    exact Bool.false_ne_true

end

/-! ## The imports of a file -/

section

variable {profile : Profile} {options : Options} {db : Database}

/-- Adding imports keeps the modules in order. -/
theorem ascending_foldl_addImport {clauses : Dictionary (List ImportClause)}
    (hclauses : clauses.Ascending) (entries : List (SymbolTable.Entry Symbol)) :
    (entries.foldl addImport clauses).Ascending := by
  induction entries generalizing clauses with
  | nil => exact hclauses
  | cons e entries ih =>
    refine ih ?_
    unfold addImport
    split
    · exact hclauses.put _ _
    · exact hclauses

/-- Each clause of an import statement is that of a registered import. -/
theorem exists_find?_of_imports_mem {path : String} {clauses : List ImportClause}
    (hmem : .imports path clauses ∈ moduleStatements profile options db) {clause : ImportClause}
    (hclause : clause ∈ clauses) :
    ∃ id e reference, (moduleSymbols profile options db).find? id = some e ∧
      e.symbol = .imported reference ∧ reference.path = path ∧
      clause.name = reference.exported.getD id := by
  have hstatement : (path, clauses) ∈ importClauses (moduleSymbols profile options db) := by
    rw [moduleStatements_eq, importStatements] at hmem
    rcases List.mem_append.mp hmem with hmem | hmem
    · obtain ⟨⟨path', clauses'⟩, hentry, heq⟩ := List.mem_map.mp hmem
      cases heq
      exact hentry
    · simp at hmem
  rw [importClauses_eq] at hstatement
  have hget := (ascending_foldl_addImport .nil _).get?_eq_some_iff.mpr hstatement
  have hclauses := get?_foldl_addImport [] path (moduleSymbols profile options db).entries
  rw [hget] at hclauses
  obtain rfl : clauses = _ := hclauses
  obtain ⟨e, he, hfrom⟩ := List.mem_filterMap.mp hclause
  have hfound := (distinctIds_moduleSymbols profile options db).find?_eq_some_iff.mpr ⟨he, rfl⟩
  unfold importClauseFrom? at hfrom
  split at hfrom
  · next reference hsymbol =>
    split at hfrom
    · next hpath =>
      cases hfrom
      exact ⟨e.id, e, reference, hfound, hsymbol, hpath, rfl⟩
    · cases hfrom
  · cases hfrom

/-- A registered import is one of the user or one of the dialect. -/
theorem import_of_find? {id : String} {e : SymbolTable.Entry Symbol} {reference : ModuleExport}
    (hfound : (moduleSymbols profile options db).find? id = some e)
    (hsymbol : e.symbol = .imported reference) :
    (∃ spec, (id, spec) ∈ options.customImports ∧ parseImportSpec id spec = reference) ∨
      profile.library.imports.get? id = some reference := by
  -- Tables and enums are registered as such, so the library provides it.
  have hknown : (moduleContext profile options db).library.symbol? id =
      some (.imported reference) := by
    rcases (grows_moduleSymbols _ _ _).find?_inv hfound with h | ⟨-, r, hr, rfl, hr'⟩
    · simp at h
    · rw [hsymbol] at hr'
      cases hr with
      | table => cases hr'
      | enum =>
        simp only [Context.enumRegistration, Context.enumSymbol] at hr'
        split at hr' <;> cases hr'
      | provided hprovides => rw [← hr', hprovides.2]
  have himport : (moduleContext profile options db).library.imports.get? id = some reference := by
    unfold Library.symbol? at hknown
    split at hknown
    · cases hknown
    · obtain ⟨found, hget, heq⟩ := Option.map_eq_some_iff.mp hknown
      cases heq
      exact hget
  rcases Dictionary.mem_or_get?_of_override himport with hmem | hown
  · obtain ⟨⟨name, spec⟩, hspec, heq⟩ := List.mem_map.mp hmem
    cases heq
    exact .inl ⟨spec, hspec, rfl⟩
  · exact .inr hown

/-- No import of a dialect has a blank module or export. -/
theorem not_blank_of_dialect {dialect : Dialect} {id : String} {reference : ModuleExport}
    (h : (Profile.ofDialect dialect).library.imports.get? id = some reference) :
    isBlankText reference.path.toList = false ∧
      isBlankText (reference.exported.getD id).toList = false := by
  have hall : ∀ p ∈ (Profile.ofDialect dialect).library.imports,
      isBlankText p.2.path.toList = false ∧
        isBlankText (p.2.exported.getD p.1).toList = false := by
    cases dialect <;> decide
  exact hall _ (Dictionary.mem_of_get? h)

end

/-! ## Files from checked settings -/

/-- The imports that the user gives are passed on to the options. -/
theorem Settings.customImports_of_options {s : Settings} {o : Options} (h : s.options = .ok o) :
    o.customImports = s.customImports := by
  unfold options at h
  cases hrules : s.rules with
  | error cause =>
    rw [hrules] at h
    cases h
  | ok rules =>
    rw [hrules] at h
    cases h
    rfl

/-- The import specs of settings that pass the check have no fault. -/
theorem Settings.importFault?_of_validateOn_ok {s : Settings} {machine : Machine}
    (h : (s.validateOn machine).1 = .ok ()) {name spec : String}
    (hmem : (name, spec) ∈ s.customImports) : importFault? name spec = none := by
  cases hfault : importFault? name spec with
  | none => rfl
  | some fault => exact (not_flaw_of_validateOn_ok h _ (.badImport hmem hfault)).elim

/-- A checked import spec is read as it was checked exactly if it holds one number sign at most. In a
file from checked settings no import statement has a blank module, and one has a blank export only
for a spec with more number signs. -/
theorem checked_imports_read (s : Settings) (machine : Machine) (o : Options) (db : Database) :
    (∀ name spec, checkImport name spec = .ok () →
      (ReadsAsChecked name spec ↔ spec.toList.count '#' ≤ 1)) ∧
    ((s.validateOn machine).1 = .ok () → s.options = .ok o →
      ∀ path clauses, .imports path clauses ∈ moduleStatements (.ofDialect s.dialect) o db →
        ∀ clause ∈ clauses, Unicode.trimText path ≠ "" ∧ (Unicode.trimText clause.name = "" →
          ∃ name spec, (name, spec) ∈ s.customImports ∧ 1 < spec.toList.count '#' ∧
            readParts name spec = (path, clause.name))) := by
  refine ⟨fun name spec => readsAsChecked_iff_count, ?_⟩
  intro hvalid hoptions path clauses hmem clause hclause
  obtain ⟨id, e, reference, hfound, hsymbol, rfl, hname⟩ := exists_find?_of_imports_mem hmem hclause
  rw [hname, Ne, ← isBlankText_iff, ← isBlankText_iff]
  rcases import_of_find? hfound hsymbol with ⟨spec, hspec, rfl⟩ | hown
  · rw [Settings.customImports_of_options hoptions] at hspec
    have hsound := Settings.importFault?_of_validateOn_ok hvalid hspec
    have hpath : isBlankText (parseImportSpec id spec).path.toList = false := path_readParts hsound
    refine ⟨by simp [hpath], fun hblank => ⟨id, spec, hspec, ?_, rfl⟩⟩
    by_contra hle
    have hread := (readsAsChecked_iff_count (checkImport_eq_ok_iff.mpr hsound)).mpr (by omega)
    exact hread.exported (isBlankText_iff.mp hblank)
  · obtain ⟨hpath, hexport⟩ := not_blank_of_dialect hown
    simp [hpath, hexport]

/-- The file for a column typed by `Money` imports the checked module and export of this name. -/
theorem checked_imports_read_of_money :
    let t : Table :=
      { schema := none, name := "t", columns := [{ name := "price", dataType := "numeric" }] }
    let s : Settings :=
      { schemaFile := "s.sql"
        overrides := [("t.price", "Money")]
        customImports := [("Money", "./types#Amount")] }
    ReadsAsChecked "Money" "./types#Amount" ∧
    ∃ o path clauses clause, s.options = .ok o ∧
      .imports path clauses ∈ moduleStatements (.ofDialect s.dialect) o
        { tables := [t], enums := [] } ∧
      clause ∈ clauses ∧ Unicode.trimText path ≠ "" := by
  intro t s
  let machine : Machine := { files := (FileSystem.empty []).put ["s.sql"] (.file .bytes) }
  have hvalid : (s.validateOn machine).1 = .ok () := by
    have hok : (s.validateOn machine).1.isOk = true := by decide +kernel
    cases hcheck : (s.validateOn machine).1 with
    | ok => rfl
    | error =>
      rw [hcheck] at hok
      cases hok
  let o : Options :=
    { overrides := [("t.price", .text "Money")], customImports := [("Money", "./types#Amount")] }
  have hoptions : s.options = .ok o := rfl
  have hknown : (moduleContext .postgres o { tables := [t], enums := [] }).library.symbol? "Money" =
      some (.imported (parseImportSpec "Money" "./types#Amount")) := rfl
  obtain ⟨e, hfound, hsymbol⟩ := exists_find?_of_findOverride? (k := 0)
    (List.mem_singleton.mpr rfl) rfl rfl (List.mem_singleton.mpr rfl) (by decide) hknown
  obtain ⟨clauses, hmem, hclause⟩ := exists_importClause_mem hfound hsymbol
  obtain ⟨hspecs, hfile⟩ := checked_imports_read s machine o { tables := [t], enums := [] }
  exact ⟨(hspecs "Money" "./types#Amount" (by decide +kernel)).mpr (by decide), o, _, clauses, _,
    hoptions, hmem, hclause, (hfile hvalid hoptions _ _ hmem _ hclause).1⟩

/-- A spec with an empty text behind its second number sign passes the check, and its export is read
as empty. -/
theorem not_readsAsChecked_of_money :
    checkImport "Money" "./types#Money#" = .ok () ∧
      checkedParts "Money" "./types#Money#" = ("./types", "Money#") ∧
      readParts "Money" "./types#Money#" = ("./types#Money", "") ∧
      ¬ReadsAsChecked "Money" "./types#Money#" := by
  have hread : readParts "Money" "./types#Money#" = ("./types#Money", "") := by decide +kernel
  refine ⟨by decide +kernel, by decide +kernel, hread, fun h => h.exported ?_⟩
  rw [hread]
  decide +kernel

end TableTypes
