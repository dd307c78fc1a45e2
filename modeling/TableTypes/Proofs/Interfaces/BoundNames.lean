import TableTypes.Proofs.Interfaces.Declarations

/-!
# One declaration for each name

The names bound at the top level of a file are told apart by the search for free display names, with
two exceptions: the name of the interface that lists all tables is not reserved, and an import that
is called like the symbol id of a table takes the place of the table's own symbol. Main statement:
the names of a file are distinct exactly when tables and symbols are told apart and neither of these
happens.
-/

namespace TableTypes

open TypeScript SymbolTable

variable {profile : Profile} {options : Options} {db : Database}

/-- The symbol id of a table in the file for a database. -/
def moduleTableId (profile : Profile) (options : Options) (db : Database) (t : Table) : String :=
  tableSymbolId ((moduleContext profile options db).tableIdentifier t)

/-- The display name of a table in the file for a database. -/
def moduleTableName? (profile : Profile) (options : Options) (db : Database) (t : Table) :
    Option String :=
  (moduleSymbols profile options db).name? (moduleTableId profile options db t)

/-- The ids of the symbols of a file are distinct. -/
theorem distinctIds_moduleSymbols (profile : Profile) (options : Options) (db : Database) :
    (moduleSymbols profile options db).DistinctIds :=
  (grows_moduleSymbols profile options db).distinctIds

/-- The names that are taken in a file are those of its symbols. -/
theorem inStep_moduleSymbols (profile : Profile) (options : Options) (db : Database) :
    (moduleSymbols profile options db).InStep :=
  (grows_moduleSymbols profile options db).inStep

/-- What is registered as a table is one of the tables. -/
theorem exists_table_of_find? {id : String} {e : Entry Symbol}
    (hfound : (moduleSymbols profile options db).find? id = some e) (hsymbol : e.symbol = .table) :
    ∃ t ∈ db.tables, id = moduleTableId profile options db t := by
  rcases (grows_moduleSymbols profile options db).find?_inv hfound with h | ⟨-, r, hr, rfl, hr'⟩
  · simp at h
  · exact hr.exists_table (hr'.trans hsymbol)

/-- All symbols but tables are declared under their names. -/
theorem Symbol.isRenamed_iff {symbol : Symbol} : symbol.isRenamed = true ↔ symbol ≠ .table := by
  cases symbol <;> simp [Symbol.isRenamed]

/-- The entry of a symbol that is no table is among those that are declared under their names. -/
theorem mem_renamedEntries {id : String} {e : Entry Symbol}
    (hfound : (moduleSymbols profile options db).find? id = some e) (hsymbol : e.symbol ≠ .table) :
    e ∈ (moduleSymbols profile options db).entries.filter (·.symbol.isRenamed) :=
  List.mem_filter.mpr ⟨List.mem_of_find?_eq_some hfound, Symbol.isRenamed_iff.mpr hsymbol⟩

/-- The declared names are those of the entries that are no tables. -/
theorem mem_declaredNames_iff {name : String} :
    name ∈ declaredNames (moduleSymbols profile options db) ↔
      ∃ id e, (moduleSymbols profile options db).find? id = some e ∧ e.symbol ≠ .table ∧
        e.name = name := by
  constructor
  · intro hname
    obtain ⟨e, he, rfl⟩ := List.mem_map.mp hname
    obtain ⟨hmem, hrenamed⟩ := List.mem_filter.mp he
    have hfound := (distinctIds_moduleSymbols profile options db).find?_eq_some_iff.mpr ⟨hmem, rfl⟩
    exact ⟨e.id, e, hfound, Symbol.isRenamed_iff.mp hrenamed, rfl⟩
  · rintro ⟨id, e, hfound, hsymbol, rfl⟩
    exact List.mem_map_of_mem (mem_renamedEntries hfound hsymbol)

/-- In order, the interfaces have the display names of the tables. -/
theorem map_name_moduleInterfaces :
    (moduleInterfaces profile options db).map (some ·.name) =
      (db.tables.mergeSort Table.precedes).map (moduleTableName? profile options db) := by
  have hinterfaces := forall₂_moduleInterfaces profile options db
  generalize moduleInterfaces profile options db = interfaces at hinterfaces ⊢
  generalize db.tables.mergeSort Table.precedes = tables at hinterfaces ⊢
  induction hinterfaces with
  | nil => rfl
  | cons h _ ih =>
    rw [List.map_cons, List.map_cons, ih, ← h.name]
    rfl

/-- The names of interfaces are the display names of the tables. -/
theorem mem_interfaceNames_iff {name : String} :
    name ∈ (moduleInterfaces profile options db).map (·.name) ↔
      ∃ t ∈ db.tables, moduleTableName? profile options db t = some name := by
  have hmap : name ∈ (moduleInterfaces profile options db).map (·.name) ↔
      some name ∈ (moduleInterfaces profile options db).map (some ·.name) := by
    simp
  rw [hmap, map_name_moduleInterfaces, List.mem_map]
  simp only [List.mem_mergeSort]

/-- No two interfaces share a name exactly when no two tables share a display name. -/
theorem nodup_interfaceNames_iff :
    ((moduleInterfaces profile options db).map (·.name)).Nodup ↔
      (db.tables.map (moduleTableName? profile options db)).Nodup := by
  have hsome : ((moduleInterfaces profile options db).map (some ·.name)).Nodup ↔
      ((moduleInterfaces profile options db).map (·.name)).Nodup := by
    have hmap : (moduleInterfaces profile options db).map (some ·.name) =
        ((moduleInterfaces profile options db).map (·.name)).map some := by
      rw [List.map_map]
      rfl
    rw [hmap]
    exact List.nodup_map_iff fun _ _ => Option.some.inj
  rw [← hsome, map_name_moduleInterfaces]
  exact ((List.mergeSort_perm db.tables Table.precedes).map _).nodup_iff

/-- Every table has an entry. -/
theorem exists_find?_of_mem (profile : Profile) (options : Options) {t : Table}
    (ht : t ∈ db.tables) :
    ∃ e, (moduleSymbols profile options db).find? (moduleTableId profile options db t) =
      some e := by
  have hname : moduleTableName? profile options db t ∈
      (moduleInterfaces profile options db).map (some ·.name) := by
    rw [map_name_moduleInterfaces]
    exact List.mem_map_of_mem (List.mem_mergeSort.mpr ht)
  obtain ⟨i, -, hi⟩ := List.mem_map.mp hname
  obtain ⟨e, hfound, -⟩ := Option.map_eq_some_iff.mp hi.symm
  exact ⟨e, hfound⟩

/-! ## Names that are bound once -/

/-- Of a list without repetitions no other member has the image of a member exactly when this image
is listed once. -/
theorem count_map_eq_one_iff {α : Type} {l : List α} (hl : l.Nodup) (f : α → String) {a : α}
    (ha : a ∈ l) : (l.map f).count (f a) = 1 ↔ ∀ b ∈ l, f b = f a → b = a := by
  obtain ⟨before, after, rfl⟩ := List.append_of_mem ha
  obtain ⟨-, hrest, hdisjoint⟩ := List.nodup_append'.mp hl
  have hbefore : a ∉ before := fun h => List.disjoint_left.mp hdisjoint h (by simp)
  have hafter : a ∉ after := (List.nodup_cons.mp hrest).1
  have hsplit : ((before ++ a :: after).map f).count (f a) = 1 ↔
      f a ∉ before.map f ∧ f a ∉ after.map f := by
    rw [List.map_append, List.map_cons, List.count_append, List.count_cons_self,
      ← List.count_eq_zero, ← List.count_eq_zero]
    omega
  rw [hsplit]
  simp only [List.mem_map, not_exists, not_and, List.mem_append, List.mem_cons]
  constructor
  · rintro ⟨hb, ha⟩ b (h | rfl | h) heq
    · exact absurd heq (hb b h)
    · rfl
    · exact absurd heq (ha b h)
  · intro hall
    refine ⟨fun b hb heq => ?_, fun b hb heq => ?_⟩
    · exact hbefore (hall b (.inl hb) heq ▸ hb)
    · exact hafter (hall b (.inr (.inr hb)) heq ▸ hb)

/-- Statements that bind a name that is bound once are the same. -/
theorem eq_of_count_boundNames {statements : List Statement} {name : String}
    (hcount : (boundNames statements).count name = 1) {first second : Statement}
    (hfirst : first ∈ statements) (hsecond : second ∈ statements) (hname : name ∈ first.bound)
    (hname' : name ∈ second.bound) : second = first := by
  obtain ⟨before, after, rfl⟩ := List.append_of_mem hfirst
  have hone := List.count_pos_iff.mpr hname
  have hrest : name ∉ boundNames before ∧ name ∉ boundNames after := by
    rw [boundNames_append, List.count_append, boundNames_cons, List.count_append] at hcount
    rw [← List.count_eq_zero, ← List.count_eq_zero]
    omega
  rcases List.mem_append.mp hsecond with h | h
  · exact absurd (List.mem_flatMap.mpr ⟨second, h, hname'⟩) hrest.1
  · rcases List.mem_cons.mp h with h | h
    · exact h
    · exact absurd (List.mem_flatMap.mpr ⟨second, h, hname'⟩) hrest.2

/-- The display name of a symbol that no table has is bound once exactly when no other symbol has it
and it is not the name of the interface that lists all tables. -/
theorem count_boundNames_eq_one_iff {id : String} {e : Entry Symbol}
    (hfound : (moduleSymbols profile options db).find? id = some e) (hsymbol : e.symbol ≠ .table)
    (hid : ∀ t ∈ db.tables, moduleTableId profile options db t ≠ id) :
    (boundNames (moduleStatements profile options db)).count e.name = 1 ↔
      (∀ other, (moduleSymbols profile options db).name? other = some e.name → other = id) ∧
        e.name ≠ databaseName := by
  have hids := distinctIds_moduleSymbols profile options db
  have he := mem_renamedEntries hfound hsymbol
  have hdeclared : e.name ∈ declaredNames (moduleSymbols profile options db) :=
    List.mem_map_of_mem he
  have hsplit : (boundNames (moduleStatements profile options db)).count e.name = 1 ↔
      (declaredNames (moduleSymbols profile options db)).count e.name = 1 ∧
        e.name ∉ (moduleInterfaces profile options db).map (·.name) ∧ e.name ≠ databaseName := by
    have hpos := List.count_pos_iff.mpr hdeclared
    have hlast : [databaseName].count e.name = 0 ↔ e.name ≠ databaseName := by
      rw [List.count_eq_zero, List.mem_singleton]
    rw [(boundNames_perm profile options db).count_eq, List.count_append, List.count_append,
      ← List.count_eq_zero, ← hlast]
    omega
  rw [hsplit, declaredNames,
    count_map_eq_one_iff ((List.Nodup.of_map _ hids).filter _) (·.name) he, mem_interfaceNames_iff]
  constructor
  · rintro ⟨hunique, htables, hdatabase⟩
    refine ⟨fun other hother => ?_, hdatabase⟩
    obtain ⟨f, hf, hname⟩ := Option.map_eq_some_iff.mp hother
    by_cases hftable : f.symbol = .table
    · obtain ⟨t, ht, rfl⟩ := exists_table_of_find? hf hftable
      exact absurd ⟨t, ht, hother⟩ htables
    · obtain rfl := hunique f (mem_renamedEntries hf hftable) hname
      rw [← id_of_find? hf, ← id_of_find? hfound]
  · rintro ⟨hunique, hdatabase⟩
    refine ⟨fun f hf hname => ?_, ?_, hdatabase⟩
    · have hffound := hids.find?_eq_some_iff.mpr ⟨(List.mem_filter.mp hf).1, rfl⟩
      have hfid : f.id = id := hunique f.id (by simp [name?, hffound, hname])
      rw [hfid, hfound] at hffound
      exact (Option.some.inj hffound).symm
    · rintro ⟨t, ht, hname⟩
      exact hid t ht (hunique _ hname)

/-! ## Distinct names -/

/-- Distinct display names of the tables' symbols come from distinct identifiers. -/
theorem nodup_tableIdentifiers_of_nodup
    (hnodup : (db.tables.map (moduleTableName? profile options db)).Nodup) :
    (db.tables.map (moduleContext profile options db).tableIdentifier).Nodup := by
  refine List.Nodup.of_map (fun identifier =>
    (moduleSymbols profile options db).name? (tableSymbolId identifier)) ?_
  rw [List.map_map]
  exact hnodup

/-- The symbol ids of the tables of a file. -/
def moduleTableIds (profile : Profile) (options : Options) (db : Database) : Set String :=
  {id | ∃ t ∈ db.tables, id = moduleTableId profile options db t}

/-- Where the ids of tables are told apart by display names, distinct identifiers have distinct
display names. -/
theorem nodup_tableNames_of_nodup
    (hidentifiers : (db.tables.map (moduleContext profile options db).tableIdentifier).Nodup)
    (hdistinct : (moduleSymbols profile options db).NamesDistinctOn
      (moduleTableIds profile options db)) :
    (db.tables.map (moduleTableName? profile options db)).Nodup := by
  have htables : db.tables.Nodup := hidentifiers.of_map
  refine (List.nodup_map_iff_inj_on htables).mpr fun t ht u hu heq => ?_
  obtain ⟨e, he⟩ := exists_find?_of_mem profile options ht
  have hname : moduleTableName? profile options db t = some e.name := by
    simp [moduleTableName?, name?, he]
  have hid := hdistinct _ ⟨t, ht, rfl⟩ _ ⟨u, hu, rfl⟩ e.name hname (heq.symm.trans hname)
  exact (List.nodup_map_iff_inj_on htables).mp hidentifiers t ht u hu (tableSymbolId_injective hid)

/-- If the names bound in a file are distinct, so are its display names. -/
theorem namesDistinct_of_nodup_boundNames
    (hdeclared : (declaredNames (moduleSymbols profile options db)).Nodup)
    (htables : (db.tables.map (moduleTableName? profile options db)).Nodup)
    (hdisjoint : ∀ name ∈ declaredNames (moduleSymbols profile options db), ∀ t ∈ db.tables,
      moduleTableName? profile options db t ≠ some name) :
    (moduleSymbols profile options db).NamesDistinct := by
  intro i j name hi hj
  obtain ⟨e, he, rfl⟩ := Option.map_eq_some_iff.mp hi
  obtain ⟨f, hf, hname⟩ := Option.map_eq_some_iff.mp hj
  by_cases hetable : e.symbol = .table <;> by_cases hftable : f.symbol = .table
  · obtain ⟨t, ht, rfl⟩ := exists_table_of_find? he hetable
    obtain ⟨u, hu, rfl⟩ := exists_table_of_find? hf hftable
    rw [(List.nodup_map_iff_inj_on htables.of_map).mp htables t ht u hu (hi.trans hj.symm)]
  · obtain ⟨t, ht, rfl⟩ := exists_table_of_find? he hetable
    exact absurd hi (hdisjoint _ (mem_declaredNames_iff.mpr ⟨j, f, hf, hftable, hname⟩) t ht)
  · obtain ⟨u, hu, rfl⟩ := exists_table_of_find? hf hftable
    exact absurd hj (hdisjoint _ (mem_declaredNames_iff.mpr ⟨i, e, he, hetable, rfl⟩) u hu)
  · have hef := List.inj_on_of_nodup_map hdeclared (mem_renamedEntries he hetable)
      (mem_renamedEntries hf hftable) hname.symm
    rw [← id_of_find? he, ← id_of_find? hf, hef]

/-- A name is a display name exactly when a symbol is declared under it or a table has it. -/
theorem mem_names_iff {name : String} :
    name ∈ (moduleSymbols profile options db).names ↔
      name ∈ declaredNames (moduleSymbols profile options db) ∨
        ∃ t ∈ db.tables, moduleTableName? profile options db t = some name := by
  have hids := distinctIds_moduleSymbols profile options db
  have hstep := inStep_moduleSymbols profile options db
  constructor
  · intro hname
    obtain ⟨e, he, hname⟩ := (hstep name).mp hname
    have hfound := hids.find?_eq_some_iff.mpr ⟨he, rfl⟩
    by_cases htable : e.symbol = .table
    · obtain ⟨t, ht, hid⟩ := exists_table_of_find? hfound htable
      rw [hid] at hfound
      exact .inr ⟨t, ht, by simp [moduleTableName?, name?, hfound, hname]⟩
    · exact .inl (mem_declaredNames_iff.mpr ⟨e.id, e, hfound, htable, hname⟩)
  · rintro (hname | ⟨t, -, hname⟩)
    · obtain ⟨id, e, hfound, -, hname⟩ := mem_declaredNames_iff.mp hname
      exact (hstep name).mpr ⟨e, (hids.find?_eq_some_iff.mp hfound).1, hname⟩
    · exact hstep.mem_names_of_name? hname

/-- The name of the interface that lists all tables is a display name exactly when a symbol is
declared under it or a table has it. -/
theorem databaseName_mem_names_iff :
    databaseName ∈ (moduleSymbols profile options db).names ↔
      databaseName ∈ declaredNames (moduleSymbols profile options db) ∨
        ∃ t ∈ db.tables, moduleTableName? profile options db t = some databaseName :=
  mem_names_iff

/-- The names bound in a file are the display names of its symbols and the name of the interface
that lists all tables. -/
theorem mem_boundNames_iff {name : String} :
    name ∈ boundNames (moduleStatements profile options db) ↔
      name ∈ (moduleSymbols profile options db).names ∨ name = databaseName := by
  rw [(boundNames_perm profile options db).mem_iff, List.mem_append, List.mem_append,
    mem_interfaceNames_iff, List.mem_singleton, mem_names_iff, or_assoc]

/-- The symbols declared under the display name of a table are other symbols than the table's own
when names are distinct, so there are none exactly when each table has a symbol of its own. -/
theorem disjoint_declaredNames_iff (hdistinct : (moduleSymbols profile options db).NamesDistinct) :
    (∀ name ∈ declaredNames (moduleSymbols profile options db), ∀ t ∈ db.tables,
      moduleTableName? profile options db t ≠ some name) ↔
      ∀ t ∈ db.tables, (moduleSymbols profile options db).get?
        (moduleTableId profile options db t) = some .table := by
  constructor
  · intro hdisjoint t ht
    obtain ⟨e, hfound⟩ := exists_find?_of_mem profile options ht
    have hname : moduleTableName? profile options db t = some e.name := by
      simp [moduleTableName?, name?, hfound]
    by_cases htable : e.symbol = .table
    · simp [get?, hfound, htable]
    · exact absurd hname
        (hdisjoint _ (mem_declaredNames_iff.mpr ⟨_, e, hfound, htable, rfl⟩) t ht)
  · rintro hown name hname t ht heq
    obtain ⟨id, e, hfound, htable, rfl⟩ := mem_declaredNames_iff.mp hname
    have hid : id = moduleTableId profile options db t :=
      hdistinct _ _ e.name (by simp [name?, hfound]) heq
    have hget := hown t ht
    rw [← hid, get?, hfound] at hget
    exact htable (Option.some.inj hget)

/-- The names bound at the top level of a file are distinct exactly when the identifiers of its
tables are, its display names tell its symbols apart, none of them is the name of the interface that
lists all tables, and each table has a symbol of its own. -/
theorem boundNames_nodup_iff (profile : Profile) (options : Options) (db : Database) :
    (boundNames (moduleStatements profile options db)).Nodup ↔
      (db.tables.map (moduleContext profile options db).tableIdentifier).Nodup ∧
      (moduleSymbols profile options db).NamesDistinct ∧
      databaseName ∉ (moduleSymbols profile options db).names ∧
      ∀ t ∈ db.tables, (moduleSymbols profile options db).get?
        (moduleTableId profile options db t) = some .table := by
  rw [(boundNames_perm profile options db).nodup_iff, ← List.append_assoc, List.nodup_append',
    List.nodup_append', nodup_interfaceNames_iff, databaseName_mem_names_iff]
  have hdisjoint : (declaredNames (moduleSymbols profile options db)).Disjoint
      ((moduleInterfaces profile options db).map (·.name)) ↔
      ∀ name ∈ declaredNames (moduleSymbols profile options db), ∀ t ∈ db.tables,
        moduleTableName? profile options db t ≠ some name := by
    simp only [List.disjoint_left, mem_interfaceNames_iff, not_exists, not_and]
  have hlast : (declaredNames (moduleSymbols profile options db) ++
      (moduleInterfaces profile options db).map (·.name)).Disjoint [databaseName] ↔
      ¬(databaseName ∈ declaredNames (moduleSymbols profile options db) ∨
        ∃ t ∈ db.tables, moduleTableName? profile options db t = some databaseName) := by
    simp only [List.disjoint_singleton, List.mem_append, mem_interfaceNames_iff]
  rw [hdisjoint, hlast]
  constructor
  · rintro ⟨⟨hdeclared, htables, hapart⟩, -, hdatabase⟩
    have hdistinct := namesDistinct_of_nodup_boundNames hdeclared htables hapart
    exact ⟨nodup_tableIdentifiers_of_nodup htables, hdistinct, hdatabase,
      (disjoint_declaredNames_iff hdistinct).mp hapart⟩
  · rintro ⟨hidentifiers, hdistinct, hdatabase, hown⟩
    have hnames := (distinctIds_moduleSymbols profile options db).namesDistinct_iff.mp hdistinct
    have hdeclared : (declaredNames (moduleSymbols profile options db)).Nodup :=
      hnames.sublist (List.filter_sublist.map _)
    exact ⟨⟨hdeclared, nodup_tableNames_of_nodup hidentifiers (hdistinct.on _),
      (disjoint_declaredNames_iff hdistinct).mpr hown⟩, List.nodup_singleton _, hdatabase⟩

/-- A table that is called like the interface that lists all tables leads to two interfaces of one
name, although its file has one table and one symbol. -/
theorem boundNames_of_table_named_like_database :
    let db : Database := { tables := [{ schema := none, name := "DB" }], enums := [] }
    (db.tables.map (moduleContext .sqlite {} db).tableIdentifier).Nodup ∧
    (moduleSymbols .sqlite {} db).NamesDistinct ∧
    boundNames (moduleStatements .sqlite {} db) = ["DB", "DB"] ∧
    ¬(boundNames (moduleStatements .sqlite {} db)).Nodup := by
  intro db
  have hnames : (moduleSymbols .sqlite {} db).entries.map (·.name) = ["DB"] := by decide +kernel
  have hbound : boundNames (moduleStatements .sqlite {} db) = ["DB", "DB"] := by decide +kernel
  refine ⟨by decide, ?_, hbound, ?_⟩
  · rw [(distinctIds_moduleSymbols .sqlite {} db).namesDistinct_iff, hnames]
    exact List.nodup_singleton _
  · rw [hbound]
    decide

end TableTypes
