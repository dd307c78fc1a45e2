import TableTypes.Proofs.Interfaces.BoundNames
import TableTypes.Proofs.Symbol.Identifiers

/-!
# Names of a file as identifiers

All names that a file binds at its top level are display names, and so are the keys of its enums.
Main statement: where the names and labels that a file is made from are of ASCII, the names that it
binds and the keys of its enums are identifiers.
-/

namespace TableTypes

open TypeScript SymbolTable Naming Unicode

/-- The keys of the members that a declaration writes without quotes: those of an enum. -/
def TypeScript.Declaration.memberKeys : Declaration → List String
  | .enum _ members => members.map (·.key)
  | .typeAlias _ _ => []
  | .interface _ _ => []

/-- The member keys that a statement writes without quotes. -/
def TypeScript.Statement.memberKeys : Statement → List String
  | .imports _ _ => []
  | .exports declaration => declaration.memberKeys

/-- All names and labels that a file is made from are of ASCII: the names of the library and of the
user's imports, those of tables and data types with their schemas, the labels of enums, and what the
user's singular rules put in place of plurals. -/
structure AsciiNames (profile : Profile) (options : Options) (db : Database) : Prop where
  library : ∀ name, profile.library.Knows name → Ascii name.toList
  imports : ∀ name ∈ options.customImports.keys, Ascii name.toList
  rules : ∀ rules ∈ options.singularRules, ∀ r ∈ rules, Ascii r.replacement
  tables : ∀ t ∈ db.tables, Ascii t.name.toList ∧ ∀ schema ∈ t.schema, Ascii schema.toList
  types : ∀ t ∈ db.tables, ∀ c ∈ t.columns,
    Ascii c.dataType.toList ∧ ∀ schema ∈ c.dataTypeSchema, Ascii schema.toList
  labels : ∀ labels ∈ db.enums.map (·.2), ∀ label ∈ labels, Ascii label.toList

/-- The names of a dialect's library are of ASCII. -/
theorem ascii_of_library_ofDialect {dialect : Dialect} {name : String}
    (hname : (Profile.ofDialect dialect).library.Knows name) : Ascii name.toList := by
  have hkeys : ∀ key ∈ (Profile.ofDialect dialect).library.definitions.keys ++
      (Profile.ofDialect dialect).library.imports.keys,
      key.toList.all (·.toNat.ble 127) = true := by
    cases dialect <;> decide +kernel
  have hkey := hkeys name (List.mem_append.mpr
    (hname.imp Dictionary.mem_keys_iff.mpr Dictionary.mem_keys_iff.mpr))
  exact fun c hc => Nat.lt_succ_of_le (Nat.le_of_ble_eq_true (List.all_eq_true.mp hkey c hc))

namespace Context

variable {ctx : Context}

/-- An ASCII name in an ASCII schema has an ASCII identifier. -/
theorem ascii_qualify {schema : Option String} {name : String} (hname : Ascii name.toList)
    (hschema : ∀ s ∈ schema, Ascii s.toList) : Ascii (ctx.qualify schema name).toList := by
  unfold qualify
  split
  · next s =>
    split
    · exact hname
    · rw [String.toList_append, String.toList_append, ascii_append, ascii_append]
      exact ⟨⟨hschema s rfl, by simp⟩, hname⟩
  · exact hname

/-- An ASCII name in camel case is of ASCII. -/
theorem ascii_casedName {name : String} (hname : Ascii name.toList) :
    Ascii (ctx.casedName name).toList := by
  unfold casedName
  split
  · rw [String.toList_ofList]
    exact ascii_camelCase hname
  · exact hname

/-- An interface is called by an ASCII text if its table has an ASCII identifier and the rules put
in ASCII. -/
theorem ascii_interfaceSource
    (hrules : ∀ rules ∈ ctx.options.singularRules, ∀ r ∈ rules, Ascii r.replacement)
    {identifier : String} (hidentifier : Ascii identifier.toList) :
    Ascii (ctx.interfaceSource identifier).toList := by
  unfold interfaceSource
  split
  · next rules hsome =>
    rw [String.toList_ofList]
    exact ascii_singularize (hrules rules hsome) hidentifier
  · exact hidentifier

/-- The labels that a data type's enum is declared with are those of an enum of the database. -/
theorem exists_labels_of_findEnum? {c : Column} {dataType : String} {labels : List String}
    (hfound : ctx.findEnum? c dataType = some labels) :
    ∃ stored ∈ ctx.enums.map (·.2), labels = Enums.sorted stored := by
  have hstored {key : String} (hkey : ctx.enums.labels? key = some labels) :
      ∃ stored ∈ ctx.enums.map (·.2), labels = Enums.sorted stored := by
    obtain ⟨stored, hget, rfl⟩ := Option.map_eq_some_iff.mp hkey
    exact ⟨stored, List.mem_map.mpr ⟨_, Dictionary.mem_of_get? hget, rfl⟩, rfl⟩
  unfold findEnum? at hfound
  split at hfound
  · exact hstored hfound
  · rcases Option.or_eq_some_iff.mp hfound with hdefault | ⟨-, hplain⟩
    · obtain ⟨schema, -, hlabels⟩ := List.exists_of_findSome?_eq_some hdefault
      exact hstored hlabels
    · exact hstored hplain

end Context

section

variable {profile : Profile} {options : Options} {db : Database}

/-- A name that the library with the user's imports knows is of ASCII. -/
theorem AsciiNames.of_knows (hnames : AsciiNames profile options db) {name : String}
    (hknows : (moduleContext profile options db).library.Knows name) : Ascii name.toList := by
  rcases hknows with hdefinition | himport
  · exact hnames.library name (.inl hdefinition)
  · rcases (Dictionary.has_override _).mp himport with hbase | hcustom
    · exact hnames.library name (.inr hbase)
    · rw [Dictionary.has_map] at hcustom
      exact hnames.imports name (Dictionary.mem_keys_iff.mpr hcustom)

/-- All that a file registers has display names made from ASCII texts. -/
theorem AsciiNames.source (hnames : AsciiNames profile options db) {r : Registration Symbol}
    (hr : (moduleContext profile options db).Registers db.tables r) : Ascii r.source.toList := by
  cases hr with
  | @table t ht =>
    obtain ⟨hname, hschema⟩ := hnames.tables t ht
    exact Context.ascii_interfaceSource hnames.rules
      (Context.ascii_casedName (Context.ascii_qualify hname hschema))
  | @enum t c typeId labels ht hc henum =>
    obtain ⟨-, -, -, -, rfl⟩ := Context.declaringEnum?_eq_some_iff.mp henum
    obtain ⟨htype, hschema⟩ := hnames.types t ht c hc
    exact Context.ascii_qualify (ascii_lowercase htype) hschema
  | provided hprovides =>
    obtain ⟨hsource, hsymbol⟩ := hprovides
    rw [hsource]
    exact hnames.of_knows (Library.knows_iff.mpr ⟨_, hsymbol⟩)

/-- The names that a file binds are identifiers. -/
theorem AsciiNames.isIdentifier_of_mem_bound (hnames : AsciiNames profile options db)
    {statement : Statement} (hstatement : statement ∈ moduleStatements profile options db)
    {name : String} (hname : name ∈ statement.bound) : isIdentifier name.toList = true := by
  have hbound : name ∈ boundNames (moduleStatements profile options db) :=
    List.mem_flatMap.mpr ⟨statement, hstatement, hname⟩
  rcases mem_boundNames_iff.mp hbound with hdisplay | rfl
  · exact (grows_moduleSymbols profile options db).isIdentifier_of_mem_names
      (fun _ => hnames.source) hdisplay
  · decide

/-- An enum that is declared before the list of all tables is one of those that are registered. -/
theorem mem_enumDeclarations_of_enum {symbols : Symbols} {interfaces : List Interface}
    {name : String} {members : List EnumMember}
    (hmem : .enum name members ∈ sortedDeclarations symbols interfaces) :
    .enum name members ∈ enumDeclarations symbols := by
  simp only [sortedDeclarations, List.mem_append, (sortDeclarations_perm _).mem_iff] at hmem
  rcases hmem with (henum | halias) | hinterface
  · exact henum
  · obtain ⟨e, -, he⟩ := List.mem_filterMap.mp halias
    split at he <;> cases he
  · obtain ⟨i, -, hi⟩ := List.mem_map.mp hinterface
    cases hi

/-- An exported enum is a symbol of the file. -/
theorem exists_enum_of_exports_mem {name : String} {members : List EnumMember}
    (hmem : .exports (.enum name members) ∈ moduleStatements profile options db) :
    ∃ id e typeId, (moduleSymbols profile options db).find? id = some e ∧
      e.symbol = .enum typeId members := by
  have hsorted : Declaration.enum name members ∈
      sortedDeclarations (moduleSymbols profile options db)
        (moduleInterfaces profile options db) := by
    simpa [moduleStatements_eq, importStatements] using hmem
  obtain ⟨e, he, hdeclaration⟩ := List.mem_filterMap.mp (mem_enumDeclarations_of_enum hsorted)
  have hfound := (distinctIds_moduleSymbols profile options db).find?_eq_some_iff.mpr ⟨he, rfl⟩
  split at hdeclaration
  · next typeId _ hsymbol =>
    cases hdeclaration
    exact ⟨e.id, e, typeId, hfound, hsymbol⟩
  · cases hdeclaration

/-- A symbol that is an enum has the members for the labels of an enum of the database. -/
theorem exists_labels_of_enum {id typeId : String} {e : Entry Symbol} {members : List EnumMember}
    (hfound : (moduleSymbols profile options db).find? id = some e)
    (hsymbol : e.symbol = .enum typeId members) :
    ∃ style, ∃ stored ∈ db.enums.map (·.2), members = enumMembers style (Enums.sorted stored) := by
  rcases (grows_moduleSymbols profile options db).find?_inv hfound with h | ⟨-, r, hr, -, heq⟩
  · simp at h
  · rw [hsymbol] at heq
    cases hr with
    | table => cases heq
    | @enum t c declared labels _ _ henum =>
      obtain ⟨-, -, -, hlabels, -⟩ := Context.declaringEnum?_eq_some_iff.mp henum
      obtain ⟨stored, hstored, rfl⟩ := Context.exists_labels_of_findEnum? hlabels
      simp only [Context.enumRegistration, Context.enumSymbol] at heq
      split at heq
      · next style _ => exact ⟨style, stored, hstored, (Symbol.enum.inj heq).2.symm⟩
      · cases heq
    | provided hprovides =>
      obtain ⟨-, hknown⟩ := hprovides
      rw [heq, Library.symbol?] at hknown
      split at hknown
      · cases hknown
      · simp at hknown

/-- The keys of the enums of a file are identifiers. -/
theorem AsciiNames.isIdentifier_of_mem_memberKeys (hnames : AsciiNames profile options db)
    {statement : Statement} (hstatement : statement ∈ moduleStatements profile options db)
    {key : String} (hkey : key ∈ statement.memberKeys) : isIdentifier key.toList = true := by
  match statement, hstatement, hkey with
  | .exports (.enum name members), hstatement, hkey =>
    obtain ⟨id, e, typeId, hfound, hsymbol⟩ := exists_enum_of_exports_mem hstatement
    obtain ⟨style, stored, hstored, rfl⟩ := exists_labels_of_enum hfound hsymbol
    obtain ⟨m, hm, rfl⟩ := List.mem_map.mp hkey
    refine isIdentifier_enumKey (fun label hlabel => ?_) hm
    exact hnames.labels stored hstored label (List.mem_mergeSort.mp hlabel)

end

/-- Display names made from ASCII texts are identifiers, for both styles and after every history of
calls; so are the keys of an enum with ASCII labels, the names that a file made from ASCII names
binds, and the keys of the enums in it. -/
theorem names_are_identifiers {α : Type} (style : IdentifierStyle)
    {history : List (Registration α)} {labels : List String} {profile : Profile}
    {options : Options} {db : Database} (hsources : ∀ r ∈ history, Ascii r.source.toList)
    (hlabels : ∀ label ∈ labels, Ascii label.toList) (hnames : AsciiNames profile options db) :
    (∀ name ∈ (registered style history).names, isIdentifier name.toList = true) ∧
    (∀ m ∈ enumMembers style labels, isIdentifier m.key.toList = true) ∧
    ∀ statement ∈ moduleStatements profile options db,
      (∀ name ∈ statement.bound, isIdentifier name.toList = true) ∧
      ∀ key ∈ statement.memberKeys, isIdentifier key.toList = true := by
  refine ⟨fun name hname => isIdentifier_of_mem_names_registered hsources hname,
    fun m hm => isIdentifier_enumKey hlabels hm, fun statement hstatement => ⟨?_, ?_⟩⟩
  · exact fun name hname => hnames.isIdentifier_of_mem_bound hstatement hname
  · exact fun key hkey => hnames.isIdentifier_of_mem_memberKeys hstatement hkey

/-- Empty, unprintable and numbered names, and labels with nothing but punctuation, all lead to
identifiers. -/
theorem names_are_identifiers_of_untidy_names :
    let history : List (Registration Unit) :=
      [("a", ""), ("b", "1st"), ("c", "1st"), ("d", "\t-"), ("e", "_")].map fun p => ⟨p.1, p.2, ()⟩
    let labels := ["", "4x4", "a b", "a-b"]
    let mood : Column := { name := "mood", dataType := "so so" }
    let db : Database :=
      { tables := [{ schema := some "2", name := "1 \t", columns := [mood] }]
        enums := [("so so", ["!", "?"])] }
    let profile := Profile.ofDialect .postgres
    let options : Options := { runtimeEnums := some .screaming, singularRules := some [] }
    (∀ r ∈ history, Ascii r.source.toList) ∧ (∀ label ∈ labels, Ascii label.toList) ∧
    AsciiNames profile options db ∧
    (∀ name ∈ (registered .pascal history).names, isIdentifier name.toList = true) ∧
    (∀ m ∈ enumMembers .pascal labels, isIdentifier m.key.toList = true) ∧
    ∀ statement ∈ moduleStatements profile options db,
      (∀ name ∈ statement.bound, isIdentifier name.toList = true) ∧
      ∀ key ∈ statement.memberKeys, isIdentifier key.toList = true := by
  intro history labels mood db profile options
  have hsources : ∀ r ∈ history, Ascii r.source.toList := by simp [history]
  have hlabels : ∀ label ∈ labels, Ascii label.toList := by simp [labels]
  have hnames : AsciiNames profile options db :=
    { library := fun _ => ascii_of_library_ofDialect
      imports := by simp [options, Dictionary.keys]
      rules := by simp [options]
      tables := by simp [db]
      types := by simp [db, mood]
      labels := by simp [db] }
  exact ⟨hsources, hlabels, hnames, names_are_identifiers .pascal hsources hlabels hnames⟩

end TableTypes
