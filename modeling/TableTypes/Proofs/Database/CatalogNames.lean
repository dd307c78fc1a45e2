import TableTypes.Proofs.Database.Spelling

/-!
# Catalog names in small letters

A data type is put in small letters before it is read. Its schema and its name are parts of what is
left, or the name is one of those that stand for several ones, so both are in small letters, and the
name has no dots. The full name of a data type can have capital letters only through the schema of
names without one.
-/

namespace TableTypes

/-! ## Small letters -/

namespace Unicode

/-- A character that is the same in small letters, wherever it stands. -/
def IsSmall (c : Char) : Prop :=
  c ≠ 'Σ' ∧ toLower c = [c]

instance (c : Char) : Decidable (IsSmall c) :=
  inferInstanceAs (Decidable (_ ∧ _))

/-- The characters of a text in small letters are small. -/
theorem isSmall_of_mem_lowercase {s : String} {c : Char} (hc : c ∈ (lowercase s).toList) :
    IsSmall c :=
  ⟨fun h => sigma_notMem_lowercase s (h ▸ hc), toLower_of_mem_lowercase hc⟩

/-- A text is in small letters exactly when each of its characters is the same in small letters. -/
theorem lowercase_eq_self_iff {s : String} :
    lowercase s = s ↔ ∀ c ∈ s.toList, IsSmall c := by
  constructor
  · intro h c hc
    exact isSmall_of_mem_lowercase (h.symm ▸ hc)
  · intro h
    have hsigma : 'Σ' ∉ s.toList := fun hc => (h _ hc).1 rfl
    have hself : s.toList.flatMap toLower = s.toList.flatMap fun c => [c] :=
      List.flatMap_congr fun c hc => (h c hc).2
    rw [lowercase, lowerFrom_eq_flatMap hsigma, hself, List.flatMap_singleton',
      String.ofList_toList]

/-- Two texts are in small letters together exactly when each of them is. -/
theorem lowercase_append_eq_self_iff {s t : String} :
    lowercase (s ++ t) = s ++ t ↔ lowercase s = s ∧ lowercase t = t := by
  simp [lowercase_eq_self_iff, or_imp, forall_and]

end Unicode

/-! ## Parts of a text -/

/-- Taking blanks off the end adds no characters. -/
theorem Unicode.trimEnd_subset (cs : List Char) : trimEnd cs ⊆ cs := by
  intro c hc
  exact List.mem_reverse.mp ((List.dropWhile_sublist _).subset (List.mem_reverse.mp hc))

/-- Taking quotes off adds no characters. -/
theorem Text.unquote_subset (cs : List Char) : unquote cs ⊆ cs := by
  intro c hc
  have hmarks := (List.dropWhile_sublist _).subset (List.mem_reverse.mp hc)
  have htrim := (List.dropWhile_sublist _).subset (List.mem_reverse.mp hmarks)
  exact (List.dropWhile_sublist _).subset (Unicode.trimEnd_subset _ htrim)

/-- Nothing is put into a text when a part is taken out of it. -/
theorem Text.eraseFrom_subset (part : List Char) (skip : Nat) (cs : List Char) :
    eraseFrom part skip cs ⊆ cs := by
  induction cs generalizing skip with
  | nil => cases skip <;> exact List.Subset.refl []
  | cons c rest ih =>
    cases skip with
    | succ skip => exact List.subset_cons_of_subset c (ih skip)
    | zero =>
      rw [eraseFrom]
      split
      · exact List.subset_cons_of_subset c (ih _)
      · exact List.cons_subset_cons c (ih 0)

/-- The characters of a piece are some of those of the text. -/
theorem Text.subset_of_mem_splitOn {sep : Char} {cs piece : List Char}
    (h : piece ∈ splitOn sep cs) : piece ⊆ cs := by
  induction cs generalizing piece with
  | nil =>
    rw [splitOn, List.mem_singleton] at h
    exact h ▸ List.Subset.refl []
  | cons c cs ih =>
    unfold splitOn at h
    split at h
    · rcases List.mem_cons.mp h with rfl | h
      · exact List.nil_subset _
      · exact List.subset_cons_of_subset c (ih h)
    · split at h
      · next hnone => exact absurd hnone (splitOn_ne_nil sep cs)
      · next first pieces hpieces =>
        rw [hpieces] at ih
        rcases List.mem_cons.mp h with rfl | h
        · exact List.cons_subset_cons c (ih List.mem_cons_self)
        · exact List.subset_cons_of_subset c (ih (List.mem_cons_of_mem first h))

namespace CatalogType

/-- Taking array marks away adds no characters. -/
theorem stripArrays_subset (cs : List Char) : (stripArrays cs).1 ⊆ cs := by
  have helement {cs element : List Char} (h : arrayElement? cs = some element) : element ⊆ cs := by
    obtain ⟨front, hfront, rfl⟩ := Option.map_eq_some_iff.mp h
    refine List.Subset.trans (Unicode.trimEnd_subset front) ?_
    rcases Option.or_eq_some_iff.mp hfront with hbrackets | ⟨-, hword⟩
    · unfold beforeBrackets? at hbrackets
      split at hbrackets
      · obtain ⟨⟨before, after⟩, hcut, rfl⟩ := Option.map_eq_some_iff.mp hbrackets
        rw [Text.cutLast?_eq_some hcut]
        exact List.subset_append_left before _
      · cases hbrackets
    · unfold beforeArrayWord? at hword
      split at hword
      · exact Option.some.inj hword ▸ List.take_subset _ cs
      · cases hword
  induction cs using stripArrays.induct with
  | case1 cs element h ih =>
    rw [stripArrays]
    split
    · next found hfound =>
      obtain rfl : element = found := Option.some.inj (h.symm.trans hfound)
      exact List.Subset.trans ih (helement h)
    · exact List.Subset.refl cs
  | case2 cs h =>
    rw [stripArrays]
    split
    · next found hfound => cases h.symm.trans hfound
    · exact List.Subset.refl cs

/-- Taking parameters away adds no characters. -/
theorem stripParametersFrom_subset (skip : Nat) (cs : List Char) :
    stripParametersFrom skip cs ⊆ cs := by
  induction cs generalizing skip with
  | nil => cases skip <;> exact List.Subset.refl []
  | cons c rest ih =>
    cases skip with
    | succ skip => exact List.subset_cons_of_subset c (ih skip)
    | zero =>
      rw [stripParametersFrom]
      split
      · split
        · exact List.subset_cons_of_subset c (ih _)
        · exact List.cons_subset_cons c (ih 0)
      · exact List.cons_subset_cons c (ih 0)

/-- Joined words are made of the characters of the text and of spaces. -/
theorem mem_joinWords {cs : List Char} {c : Char} (hc : c ∈ joinWords cs) : c = ' ' ∨ c ∈ cs := by
  rcases mem_intercalate hc with hc | ⟨piece, hpiece, hc⟩
  · exact .inl (List.mem_singleton.mp hc)
  · have hpart := Text.subset_of_mem_splitOn (List.mem_filter.mp hpiece).1 hc
    obtain ⟨d, hd, rfl⟩ := List.mem_map.mp hpart
    split
    · exact .inl rfl
    · exact .inr hd

/-- Erasing parts one after another adds no characters. -/
theorem foldl_erase_subset (parts : List String) (cs : List Char) :
    parts.foldl (fun cs part => Text.erase part.toList cs) cs ⊆ cs := by
  induction parts generalizing cs with
  | nil => exact List.Subset.refl cs
  | cons part parts ih => exact List.Subset.trans (ih _) (Text.eraseFrom_subset part.toList 0 cs)

/-- The names that stand for several ones. -/
def sharedNames : List String :=
  ["int4", "int2", "int8", "bool", "float4", "float8", "varchar", "bpchar", "numeric", "timestamp",
    "timestamptz", "time", "timetz", "varbit", "int", "tinyint", "decimal", "double", "char",
    "bigint", "boolean", "blob", "integer", "text", "real"]

/-- A catalog name is the name itself or one that stands for several. -/
theorem canonicalName_cases (dialect : Dialect) (name : String) :
    (canonicalName dialect name).1 = name ∨ (canonicalName dialect name).1 ∈ sharedNames := by
  cases dialect with
  | postgres =>
    unfold canonicalName postgresName
    dsimp only
    split
    all_goals first | exact .inl rfl | exact .inr (by simp [sharedNames])
  | mysql =>
    unfold canonicalName mysqlName
    dsimp only
    split
    all_goals first | exact .inl rfl | exact .inr (by simp [sharedNames])
  | sqlite =>
    unfold canonicalName sqliteAffinity
    dsimp only
    split_ifs
    all_goals first | exact .inl rfl | exact .inr (by simp [sharedNames])

/-- The catalog names that aliases lead to are small and have no dots. -/
theorem small_of_mem_sharedNames :
    ∀ name ∈ sharedNames, ∀ c ∈ name.toList, Unicode.IsSmall c ∧ c ≠ '.' := by
  have hall : (sharedNames.all fun name => name.toList.all fun c =>
      decide (Unicode.IsSmall c ∧ c ≠ '.')) = true := by decide +kernel
  simpa using hall

/-- The schema and the name of a type in small letters without arrays and parameters. -/
def plainText (dialect : Dialect) (text : String) : List Char :=
  let plain := stripParameters (stripArrays (Unicode.lowercase (Unicode.trimText text)).toList).1
  joinWords (if dialect = .mysql then
    mysqlModifiers.foldl (fun cs m => Text.erase m.toList cs) plain else plain)

/-- The characters of a type without its decoration are small. -/
theorem isSmall_of_mem_plainText {dialect : Dialect} {text : String} {c : Char}
    (hc : c ∈ plainText dialect text) : Unicode.IsSmall c := by
  rcases mem_joinWords hc with rfl | hc
  · decide
  · let lower := Unicode.lowercase (Unicode.trimText text)
    have hplain : c ∈ stripParameters (stripArrays lower.toList).1 := by
      split at hc
      · exact foldl_erase_subset mysqlModifiers _ hc
      · exact hc
    have helement := stripParametersFrom_subset 0 _ hplain
    exact Unicode.isSmall_of_mem_lowercase (stripArrays_subset lower.toList helement)

/-- The schema of a type is what is written before the last dot, and the name what is behind it. -/
theorem read_cases (dialect : Dialect) (text : String) :
    (∃ schema name, Text.cutLast? '.' (plainText dialect text) = some (schema, name) ∧
      (read dialect text).schema = some (String.ofList (Text.unquote schema)) ∧
      (read dialect text).name = (canonicalName dialect (String.ofList (Text.unquote name))).1) ∨
    ('.' ∉ plainText dialect text ∧ (read dialect text).schema = none ∧
      (read dialect text).name =
        (canonicalName dialect (String.ofList (Text.unquote (plainText dialect text)))).1) := by
  cases hcut : Text.cutLast? '.' (plainText dialect text) with
  | none =>
    refine .inr ⟨Text.cutLast?_eq_none_iff.mp hcut, ?_⟩
    unfold plainText at hcut
    simp only [read, hcut, plainText, and_self]
  | some parts =>
    refine .inl ⟨parts.1, parts.2, rfl, ?_⟩
    unfold plainText at hcut
    simp only [read, hcut, and_self]

/-- A catalog name has small letters and no dots if the name has. -/
theorem small_canonicalName (dialect : Dialect) {name : String}
    (h : ∀ c ∈ name.toList, Unicode.IsSmall c ∧ c ≠ '.') :
    ∀ c ∈ (canonicalName dialect name).1.toList, Unicode.IsSmall c ∧ c ≠ '.' := by
  rcases canonicalName_cases dialect name with hname | hname
  · rwa [hname]
  · exact small_of_mem_sharedNames _ hname

/-- A data type is read with a name in small letters without dots. -/
theorem small_name_read (dialect : Dialect) (text : String) :
    ∀ c ∈ (read dialect text).name.toList, Unicode.IsSmall c ∧ c ≠ '.' := by
  rcases read_cases dialect text with ⟨schema, name, hcut, -, hname⟩ | ⟨hdot, -, hname⟩
  · rw [hname]
    refine small_canonicalName dialect fun c hc => ?_
    rw [String.toList_ofList] at hc
    have hc := Text.unquote_subset name hc
    have hmem : c ∈ plainText dialect text := by
      rw [Text.cutLast?_eq_some hcut]
      exact List.mem_append_right schema (List.mem_cons_of_mem _ hc)
    exact ⟨isSmall_of_mem_plainText hmem, fun h => Text.notMem_of_cutLast? hcut (h ▸ hc)⟩
  · rw [hname]
    refine small_canonicalName dialect fun c hc => ?_
    rw [String.toList_ofList] at hc
    have hc := Text.unquote_subset _ hc
    exact ⟨isSmall_of_mem_plainText hc, fun h => hdot (h ▸ hc)⟩

/-- A data type is read with a schema in small letters. -/
theorem lowercase_schema_read {dialect : Dialect} {text schema : String}
    (h : (read dialect text).schema = some schema) : Unicode.lowercase schema = schema := by
  rcases read_cases dialect text with ⟨before, name, hcut, hschema, -⟩ | ⟨-, hschema, -⟩
  · obtain rfl := Option.some.inj (hschema.symm.trans h)
    refine Unicode.lowercase_eq_self_iff.mpr fun c hc => ?_
    rw [String.toList_ofList] at hc
    have hmem : c ∈ plainText dialect text := by
      rw [Text.cutLast?_eq_some hcut]
      exact List.mem_append_left _ (Text.unquote_subset before hc)
    exact isSmall_of_mem_plainText hmem
  · cases hschema.symm.trans h

end CatalogType

namespace Scope

variable {scope : Scope}

/-- The full name of a data type, under which a domain is looked up. -/
def typeKey (scope : Scope) (type : CatalogType) : String :=
  match type.schema with
  | some schema => schema ++ "." ++ type.name
  | none => (scope.qualified type.name).text

/-- The full name of a data type that is written without a schema is in small letters exactly when
the schema of names without one is; that of any other data type always is. -/
theorem lowercase_typeKey_eq_self_iff (text : String) :
    Unicode.lowercase (scope.typeKey (.read scope.dialect text)) =
        scope.typeKey (.read scope.dialect text) ↔
      ((CatalogType.read scope.dialect text).schema = none →
        ∀ schema ∈ scope.defaultSchema, Unicode.lowercase schema = schema) := by
  have hsmall := CatalogType.small_name_read scope.dialect text
  have hwritten {schema : String}
      (h : (CatalogType.read scope.dialect text).schema = some schema) :=
    CatalogType.lowercase_schema_read h
  generalize CatalogType.read scope.dialect text = type at hsmall hwritten ⊢
  have hdot : Unicode.lowercase "." = "." := by decide
  cases hschema : type.schema with
  | some schema =>
    have hname : Unicode.lowercase type.name = type.name :=
      Unicode.lowercase_eq_self_iff.mpr fun c hc => (hsmall c hc).1
    simp [typeKey, hschema, Unicode.lowercase_append_eq_self_iff, hname, hdot, hwritten hschema]
  | none =>
    let name := String.ofList (Text.unquote type.name.toList)
    have hname : Unicode.lowercase name = name := by
      refine Unicode.lowercase_eq_self_iff.mpr fun c hc => ?_
      rw [String.toList_ofList] at hc
      exact (hsmall c (Text.unquote_subset _ hc)).1
    have hqualified : scope.qualified type.name = { schema := scope.defaultSchema, name } := by
      rw [qualified, QualifiedName.read, Text.splitOn_of_notMem fun h => (hsmall _ h).2 rfl]
      rfl
    cases hdefault : scope.defaultSchema with
    | none => simp [typeKey, hschema, hqualified, QualifiedName.text, hdefault, hname]
    | some schema =>
      simp [typeKey, hschema, hqualified, QualifiedName.text, hdefault, hname, hdot,
        Unicode.lowercase_append_eq_self_iff]

end Scope

end TableTypes
