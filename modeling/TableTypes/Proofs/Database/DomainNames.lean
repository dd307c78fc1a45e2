import TableTypes.Proofs.Database.DomainChains
import TableTypes.Proofs.Sql.DomainText

/-!
# Domains by their names

A domain is known by its full name in small letters, and a data type is put in small letters before
the schema of names without one is added to it. So where the two are written in different letter
case, with or without the default schema, a domain is found if the type is written behind the schema
or the default schema is in small letters.
-/

namespace TableTypes

/-! ## Names behind a schema -/

/-- Two parts without a capital sigma and the dot between them are put in small letters one by
one. -/
theorem Unicode.lowercase_behind {front back : String} (hfront : 'Σ' ∉ front.toList)
    (hback : 'Σ' ∉ back.toList) :
    lowercase (front ++ "." ++ back) = lowercase front ++ "." ++ lowercase back := by
  have hdot : 'Σ' ∉ ".".toList := by decide
  have hhead : 'Σ' ∉ (front ++ ".").toList := by
    simp only [String.toList_append, List.mem_append, not_or]
    exact ⟨hfront, hdot⟩
  rw [lowercase_append hhead hback, lowercase_append hfront hdot,
    show lowercase "." = "." by decide]

/-- A name has no other characters than its spelling. -/
theorem Spells.subset {text name : String} (h : Spells text name) : name.toList ⊆ text.toList := by
  rcases h with rfl | ⟨q, -, htext⟩
  · exact List.Subset.refl _
  · rw [htext]
    exact List.subset_cons_of_subset q (List.subset_append_left name.toList [q])

/-- A name spells itself. -/
theorem Spells.refl (name : String) : Spells name name :=
  .inl rfl

/-- A plain name without blanks, opening parentheses and closing brackets is that of a data type. -/
theorem Spells.spellsType {text name : String} (h : Spells text name) (hplain : PlainName name)
    (hsigns : (name.toList.all fun c => !Unicode.isBlank c && c != '(' && c != ']') = true) :
    SpellsType text name := by
  simp only [List.all_eq_true, Bool.and_eq_true, Bool.not_eq_true', bne_iff_ne] at hsigns
  exact ⟨hplain, h, fun c hc => (hsigns c hc).1.1, fun hc => (hsigns _ hc).1.2 rfl,
    fun _ hc => (hsigns _ hc).2 rfl⟩

/-- A text writes the name of a data type, alone or behind the name of a schema and a dot. -/
inductive WritesType (name : String) : Option String → String → Prop
  | alone {text : String} (h : SpellsType text name) : WritesType name none text
  | behind {schema front back : String} (hfront : SpellsType front schema)
      (hback : SpellsType back name) : WritesType name (some schema) (front ++ "." ++ back)

namespace WritesType

variable {name text : String} {schema : Option String}

/-- A type that is written as a name has no blanks. -/
theorem noBlank (h : WritesType name schema text) :
    ∀ c ∈ text.toList, Unicode.isBlank c = false := by
  cases h with
  | alone h => exact h.noBlank_text
  | behind hfront hback =>
    intro c hc
    simp only [String.toList_append, List.mem_append] at hc
    rcases hc with (hc | hc) | hc
    · exact hfront.noBlank_text c hc
    · rw [List.mem_singleton.mp (show c ∈ ['.'] from hc)]
      decide
    · exact hback.noBlank_text c hc

/-- The name that a type is written with is plain. -/
theorem plain (h : WritesType name schema text) : PlainName name := by
  cases h with
  | alone h => exact h.plain
  | behind _ hback => exact hback.plain

/-- A name that is written without a schema is one of the default schema. -/
theorem qualifiedName_read (h : WritesType name schema text) (defaultSchema : Option String) :
    QualifiedName.read defaultSchema text = { schema := schema.or defaultSchema, name } := by
  cases h with
  | alone h => exact h.plain.read_of_spells h.spells defaultSchema
  | @behind schema front back hfront hback =>
    have htext : (front ++ "." ++ back).toList = front.toList ++ '.' :: back.toList := by simp
    have hfrontDot := hfront.plain.noDot_of_spells hfront.spells
    have hbackDot := hback.plain.noDot_of_spells hback.spells
    rw [QualifiedName.read, htext, Text.splitOn_append_cons hfrontDot,
      Text.splitOn_of_notMem hbackDot]
    simp [hfront.plain.unquote_of_spells hfront.spells, hback.plain.unquote_of_spells hback.spells]

/-- In small letters a text writes the name and the schema in small letters. -/
theorem lowercase (h : WritesType name schema text) (hsigma : 'Σ' ∉ text.toList) :
    WritesType (Unicode.lowercase name) (schema.map Unicode.lowercase)
      (Unicode.lowercase text) := by
  cases h with
  | alone h => exact .alone h.lowercase
  | @behind schema front back hfront hback =>
    simp only [String.toList_append, List.mem_append, not_or] at hsigma
    rw [Unicode.lowercase_behind hsigma.1.1 hsigma.2]
    exact .behind hfront.lowercase hback.lowercase

/-- The characters of the name and the schema are in the text. -/
theorem subset (h : WritesType name schema text) :
    name.toList ⊆ text.toList ∧ ∀ s ∈ schema, s.toList ⊆ text.toList := by
  cases h with
  | alone h => exact ⟨h.spells.subset, by simp⟩
  | @behind schema front back hfront hback =>
    simp only [String.toList_append, Option.mem_def, Option.some.injEq, forall_eq']
    refine ⟨List.subset_append_of_subset_right _ hback.spells.subset, ?_⟩
    refine List.subset_append_of_subset_left _ (List.subset_append_of_subset_left _ ?_)
    exact hfront.spells.subset

/-- A type that is written as a name has no parenthesis. -/
theorem noParenthesis (h : WritesType name schema text) : '(' ∉ text.toList := by
  cases h with
  | alone h => exact h.noParenthesis_text
  | behind hfront hback =>
    simp only [String.toList_append, List.mem_append, not_or]
    exact ⟨⟨hfront.noParenthesis_text, by decide⟩, hback.noParenthesis_text⟩

/-- A type that is written as a name does not end with a bracket. -/
theorem getLast?_ne (h : WritesType name schema text) : text.toList.getLast? ≠ some ']' := by
  cases h with
  | alone h => exact h.getLast?_text
  | behind hfront hback =>
    rw [String.toList_append, List.getLast?_append, String.toList_append, List.getLast?_append]
    intro hlast
    rcases Option.or_eq_some_iff.mp hlast with hlast | ⟨-, hlast⟩
    · exact hback.getLast?_text hlast
    · revert hlast
      simp

/-- A text is cut into the schema and the name, if there is a schema. -/
theorem cutLast? (h : WritesType name schema text) :
    (schema = none ∧ Text.cutLast? '.' text.toList = none ∧
        Text.unquote text.toList = name.toList) ∨
      ∃ s front back, schema = some s ∧ Text.cutLast? '.' text.toList = some (front, back) ∧
        Text.unquote front = s.toList ∧ Text.unquote back = name.toList := by
  cases h with
  | alone h =>
    refine .inl ⟨rfl, Text.cutLast?_eq_none_iff.mpr (h.plain.noDot_of_spells h.spells), ?_⟩
    exact h.plain.unquote_of_spells h.spells
  | @behind schema front back hfront hback =>
    refine .inr ⟨schema, front.toList, back.toList, rfl, ?_,
      hfront.plain.unquote_of_spells hfront.spells, hback.plain.unquote_of_spells hback.spells⟩
    have htext : (front ++ "." ++ back).toList = front.toList ++ '.' :: back.toList := by simp
    rw [htext, Text.cutLast?_append_cons (hback.plain.noDot_of_spells hback.spells)]

/-- A data type that is written as a name is read as this name and its schema in small letters. -/
theorem catalogType_read {dialect : Dialect} (h : WritesType name schema text)
    (hsigma : 'Σ' ∉ text.toList)
    (hname : CatalogType.canonicalName dialect (Unicode.lowercase name) =
      (Unicode.lowercase name, false)) :
    CatalogType.read dialect text =
      { name := Unicode.lowercase name, schema := schema.map Unicode.lowercase } := by
  have hsmall := h.lowercase hsigma
  have htrim : Unicode.trimText text = text := by
    rw [Unicode.trimText, Unicode.trim_of_noBlank h.noBlank, String.ofList_toList]
  have hspace : ' ' ∉ (Unicode.lowercase text).toList :=
    fun hd => absurd (hsmall.noBlank ' ' hd) (by decide)
  simp only [CatalogType.read, htrim, CatalogType.stripArrays_eq_self hsmall.getLast?_ne hspace,
    CatalogType.stripParameters_eq_self hsmall.noParenthesis,
    CatalogType.foldl_erase_mysqlModifiers hspace, ite_self,
    CatalogType.joinWords_eq_self hsmall.noBlank]
  rcases hsmall.cutLast? with ⟨hschema, hcut, hname'⟩ | ⟨s, front, back, hschema, hcut, hs, hname'⟩
  · simp only [hcut, hname', String.ofList_toList, hname, hschema]
  · simp only [hcut, hs, hname', String.ofList_toList, hname, hschema]

end WritesType

/-! ## Keys of domains -/

namespace QualifiedName

/-- Without a capital sigma a full name is put in small letters part by part. -/
theorem lowercase_text {q : QualifiedName} (hname : 'Σ' ∉ q.name.toList)
    (hschema : ∀ schema ∈ q.schema, 'Σ' ∉ schema.toList) :
    Unicode.lowercase q.text =
      ({ schema := q.schema.map Unicode.lowercase, name := Unicode.lowercase q.name } :
        QualifiedName).text := by
  obtain ⟨schema, name⟩ := q
  cases schema with
  | none => rfl
  | some schema => exact Unicode.lowercase_behind (hschema schema rfl) hname

/-- The full name of a name in small letters. -/
def smallText (defaultSchema : Option String) (name : String) : String :=
  ({ schema := defaultSchema.map Unicode.lowercase, name := Unicode.lowercase name } :
    QualifiedName).text

/-- Without a capital sigma, a name that is written alone or behind the default schema in some
letter case has one full name in small letters. -/
theorem lowercase_text_or {schema defaultSchema : Option String} {name : String}
    (hname : 'Σ' ∉ name.toList) (hdefault : ∀ s ∈ defaultSchema, 'Σ' ∉ s.toList)
    (hschema : ∀ s ∈ schema, 'Σ' ∉ s.toList ∧
      defaultSchema.map Unicode.lowercase = some (Unicode.lowercase s)) :
    Unicode.lowercase ({ schema := schema.or defaultSchema, name } : QualifiedName).text =
      smallText defaultSchema name := by
  cases schema with
  | none => exact lowercase_text hname hdefault
  | some s =>
    obtain ⟨hsigma, hsame⟩ := hschema s rfl
    rw [smallText, hsame]
    exact Unicode.lowercase_behind hsigma hname

end QualifiedName

/-- A schema, if there is one, is that of names without a schema, in some letter case. -/
def IsDefaultSchema (defaultSchema schema : Option String) : Prop :=
  ∀ s ∈ schema, defaultSchema.map Unicode.lowercase = some (Unicode.lowercase s)

/-- The name of a domain and the name of a data type are the same in small letters, each alone or
behind the schema of names without one. There is no capital sigma in them, and no other type of
Postgres has the name. -/
structure WriteSameName (defaultSchema : Option String) (domainText text : String)
    (typeSchema : Option String) (typeName : String) : Prop where
  domain : ∃ domainSchema domainName, WritesType domainName domainSchema domainText ∧
    Unicode.lowercase domainName = Unicode.lowercase typeName ∧
    IsDefaultSchema defaultSchema domainSchema
  type : WritesType typeName typeSchema text
  sameSchema : IsDefaultSchema defaultSchema typeSchema
  noAlias : CatalogType.canonicalName .postgres (Unicode.lowercase typeName) =
    (Unicode.lowercase typeName, false)
  noSigma : 'Σ' ∉ domainText.toList ∧ 'Σ' ∉ text.toList ∧
    ∀ schema ∈ defaultSchema, 'Σ' ∉ schema.toList

namespace WriteSameName

variable {defaultSchema typeSchema : Option String} {domainText text typeName : String}

/-- A type that is written as a name is read as the name in small letters, in its schema. -/
theorem catalogType_read (h : WriteSameName defaultSchema domainText text typeSchema typeName) :
    CatalogType.read .postgres text =
      { name := Unicode.lowercase typeName, schema := typeSchema.map Unicode.lowercase } :=
  h.type.catalogType_read h.noSigma.2.1 h.noAlias

/-- The domain is known under the full name in small letters. -/
theorem lowercase_domain (h : WriteSameName defaultSchema domainText text typeSchema typeName) :
    Unicode.lowercase (QualifiedName.read defaultSchema domainText).text =
      QualifiedName.smallText defaultSchema typeName := by
  obtain ⟨hsigma, -, hdefault⟩ := h.noSigma
  obtain ⟨domainSchema, domainName, hdomain, hsame, hschema⟩ := h.domain
  have hname : 'Σ' ∉ domainName.toList := fun hc => hsigma (hdomain.subset.1 hc)
  rw [hdomain.qualifiedName_read, QualifiedName.lowercase_text_or hname hdefault fun s hs =>
      ⟨fun hc => hsigma (hdomain.subset.2 s hs hc), hschema s hs⟩,
    QualifiedName.smallText, hsame]
  rfl

/-- In small letters the data type is looked up under the full name in small letters. -/
theorem lowercase_typeKey {scope : Scope} (hdialect : scope.dialect = .postgres)
    (h : WriteSameName scope.defaultSchema domainText text typeSchema typeName) :
    Unicode.lowercase (scope.typeKey (.read scope.dialect text)) =
      QualifiedName.smallText scope.defaultSchema typeName := by
  obtain ⟨-, hsigma, hdefault⟩ := h.noSigma
  have hkey : scope.typeKey (.read scope.dialect text) =
      ({ schema := (typeSchema.map Unicode.lowercase).or scope.defaultSchema
         name := Unicode.lowercase typeName } : QualifiedName).text := by
    rw [hdialect, h.catalogType_read]
    cases typeSchema with
    | some s => rfl
    | none =>
      have hplain := (h.type.lowercase hsigma).plain
      exact congrArg QualifiedName.text (hplain.read_of_spells (.refl _) scope.defaultSchema)
  have hschema : ∀ s ∈ typeSchema.map Unicode.lowercase, 'Σ' ∉ s.toList ∧
      scope.defaultSchema.map Unicode.lowercase = some (Unicode.lowercase s) := by
    intro s hs
    obtain ⟨written, hwritten, rfl⟩ := Option.map_eq_some_iff.mp hs
    rw [Unicode.lowercase_lowercase]
    exact ⟨Unicode.sigma_notMem_lowercase written, h.sameSchema written hwritten⟩
  have hname : 'Σ' ∉ (Unicode.lowercase typeName).toList := Unicode.sigma_notMem_lowercase typeName
  rw [hkey, QualifiedName.lowercase_text_or hname hdefault hschema]
  simp only [QualifiedName.smallText, Unicode.lowercase_lowercase]

end WriteSameName

/-! ## Columns of domains -/

/-- The data type of the column at place `k` of the table definition at place `i` is written as a
text. A domain was created over a type, and no other one of its name after it. -/
structure DomainColumn (defaultSchema : Option String) (statements : List Sql.Statement) (i k : Nat)
    (d : Sql.DomainDefinition) (text : String) : Prop where
  created : ∃ before after, statements = before ++ .domain d :: after ∧
    ∀ later ∈ after, ∀ e ∈ ({ dialect := .postgres, defaultSchema } : Scope).domain? later,
      e.1 ≠ Unicode.lowercase
        (QualifiedName.read defaultSchema (Sql.renderPath d.name)).text
  isDomain : Sql.IsDomain d
  isType : Sql.IsTypeText d.type.render
  named : Sql.renderPath d.name ≠ ""
  noBlank : ∀ c ∈ (Sql.renderPath d.name).toList, Unicode.isBlank c = false
  written : ∃ table c, (statements.filterMap Scope.definition?)[i]? = some table ∧
    table.columns[k]? = some c ∧ c.type.IsNamed ∧ c.type.render = text

/-- The column at place `k` of the table at place `i` has a type. -/
def TypedColumn (defaultSchema : Option String) (statements : List Sql.Statement) (i k : Nat)
    (type : CatalogType) : Prop :=
  ∃ t column, (Database.ofStatements .postgres defaultSchema statements).tables[i]? = some t ∧
    t.columns[k]? = some column ∧ column.HasType type

namespace DomainColumn

variable {defaultSchema : Option String} {statements : List Sql.Statement} {i k : Nat}
  {d : Sql.DomainDefinition} {text : String}

/-- The domain is known with its type under its full name in small letters. -/
theorem get?_domains (h : DomainColumn defaultSchema statements i k d text) :
    (({ dialect := .postgres, defaultSchema } : Scope).withDomains statements).domains.get?
      (Unicode.lowercase (QualifiedName.read defaultSchema (Sql.renderPath d.name)).text) =
        some d.type.render := by
  obtain ⟨before, after, rfl, hlast⟩ := h.created
  let names : Scope := { dialect := .postgres, defaultSchema }
  have hdomain : names.domain? (.domain d) = some (Unicode.lowercase
      (QualifiedName.read defaultSchema (Sql.renderPath d.name)).text, d.type.render) := by
    rw [Scope.domain?, Sql.readDomain?_render h.isDomain h.named h.noBlank h.isType]
    rfl
  have hafter : Unicode.lowercase (QualifiedName.read defaultSchema (Sql.renderPath d.name)).text ∉
      Dictionary.keys (after.filterMap names.domain?) := by
    intro hmem
    obtain ⟨e, he, hkey⟩ := List.mem_map.mp hmem
    obtain ⟨later, hlater, he⟩ := List.mem_filterMap.mp he
    exact hlast later hlater e he hkey
  rw [Scope.withDomains, List.filterMap_append, List.filterMap_cons, hdomain]
  exact Dictionary.get?_override_append_cons hafter

/-- The column has the type that its text is resolved to. -/
theorem typedColumn_resolve (h : DomainColumn defaultSchema statements i k d text) :
    TypedColumn defaultSchema statements i k
      ((({ dialect := .postgres, defaultSchema } : Scope).withDomains statements).resolve
        text) := by
  obtain ⟨table, c, htable, hc, hnamed, rfl⟩ := h.written
  let scope := ({ dialect := .postgres, defaultSchema } : Scope).withDomains statements
  obtain ⟨t, column, ht, hcolumn, hkeeps⟩ :=
    Database.exists_column_keepsType .postgres defaultSchema htable hc
  rcases scope.hasType_resolve hnamed hkeeps with ⟨hdialect, -⟩ | ⟨-, htype⟩
  · cases hdialect
  · exact ⟨t, column, ht, hcolumn, htype⟩

/-- A data type that is looked up under the key of the domain is resolved to the type that the
domain is over. -/
theorem resolve_eq (h : DomainColumn defaultSchema statements i k d text) :
    let scope := ({ dialect := .postgres, defaultSchema } : Scope).withDomains statements
    let base := CatalogType.read .postgres d.type.render
    let type := CatalogType.read .postgres text
    scope.typeKey type =
        Unicode.lowercase (QualifiedName.read defaultSchema (Sql.renderPath d.name)).text →
      scope.resolve text = { base with isArray := base.isArray || type.isArray } := by
  intro scope base type hkey
  have hget : scope.domains.get? (scope.typeKey (.read scope.dialect text)) =
      some d.type.render := by
    rw [← h.get?_domains, ← hkey]
    rfl
  rw [scope.resolve_eq text, hget]
  rfl

end DomainColumn

/-- A data type with the name of a domain is looked up under the key of the domain exactly when it
is written behind its schema or the schema of names without one is in small letters. -/
theorem Scope.typeKey_eq_iff {scope : Scope} (hdialect : scope.dialect = .postgres)
    {domainText text typeName : String} {typeSchema : Option String}
    (h : WriteSameName scope.defaultSchema domainText text typeSchema typeName) :
    scope.typeKey (.read scope.dialect text) =
        Unicode.lowercase (QualifiedName.read scope.defaultSchema domainText).text ↔
      (typeSchema = none → ∀ schema ∈ scope.defaultSchema, Unicode.lowercase schema = schema) := by
  have hschema : (CatalogType.read scope.dialect text).schema = none ↔ typeSchema = none := by
    rw [hdialect, h.catalogType_read, Option.map_eq_none_iff]
  rw [← hschema, ← scope.lowercase_typeKey_eq_self_iff text, h.lowercase_domain,
    h.lowercase_typeKey hdialect, eq_comm]

/-- **Domains are found by their names.** A column has the type that a domain is over if its data
type is looked up under the key of the domain. Where the two are written with one name, in any
letter case and alone or behind the schema of names without one, this is so exactly when the data
type is written behind the schema or the schema of names without one is in small letters. If not,
the column has its own name in small letters for a type. -/
theorem domain_found_iff (defaultSchema : Option String) (statements : List Sql.Statement) :
    let scope := ({ dialect := .postgres, defaultSchema } : Scope).withDomains statements
    ∀ i k d text, DomainColumn defaultSchema statements i k d text →
      let base := CatalogType.read .postgres d.type.render
      let type := CatalogType.read .postgres text
      (scope.typeKey type =
          Unicode.lowercase (QualifiedName.read defaultSchema (Sql.renderPath d.name)).text →
        TypedColumn defaultSchema statements i k
          { base with isArray := base.isArray || type.isArray }) ∧
      ∀ typeSchema typeName,
        WriteSameName defaultSchema (Sql.renderPath d.name) text typeSchema typeName →
        let isFound :=
          typeSchema = none → ∀ schema ∈ defaultSchema, Unicode.lowercase schema = schema
        (isFound → TypedColumn defaultSchema statements i k base) ∧
        (¬isFound → TypedColumn defaultSchema statements i k
          { name := Unicode.lowercase typeName }) := by
  intro scope i k d text hcolumn base type
  have hresolve : TypedColumn defaultSchema statements i k (scope.resolve text) :=
    hcolumn.typedColumn_resolve
  refine ⟨fun hkey => hcolumn.resolve_eq hkey ▸ hresolve, fun typeSchema typeName hname => ?_⟩
  have hkey := scope.typeKey_eq_iff rfl hname
  have htype : type = { name := Unicode.lowercase typeName
                        schema := typeSchema.map Unicode.lowercase } := hname.catalogType_read
  refine ⟨fun hfound => ?_, fun hmissed => ?_⟩
  · have hbase : scope.resolve text = base := by
      have harray : type.isArray = false := by rw [htype]
      have hbase := hcolumn.resolve_eq (hkey.mpr hfound)
      rwa [harray, Bool.or_false] at hbase
    rwa [hbase] at hresolve
  · have hown : scope.resolve text = type := by
      rcases scope.resolve_cases (Scope.knowsSmall_withDomains statements) text with
        ⟨-, hsmall, -⟩ | ⟨-, hown⟩
      · refine absurd (fun hnone => ?_) hmissed
        refine (scope.lowercase_typeKey_eq_self_iff text).mp hsmall ?_
        exact (congrArg CatalogType.schema htype).trans (Option.map_eq_none_iff.mpr hnone)
      · exact hown
    obtain ⟨hnone, -⟩ := Classical.not_imp.mp hmissed
    rw [hown, htype, hnone] at hresolve
    exact hresolve

/-! ## A domain in another letter case -/

/-- With a default schema in capital letters, a domain `Cents` over `DOUBLE PRECISION` is found for
a type that is written as `app."CENTS"`. -/
theorem domain_found_of_cents :
    let d : Sql.DomainDefinition :=
      { name := [{ text := "Cents" }], type := .known "DOUBLE PRECISION" [] "", collation := none
        default := none, constraints := [] }
    let type : Sql.DataType := .named [{ text := "app" }, { text := "CENTS", quote := some '"' }] []
    TypedColumn (some "App") [newTable type, .domain d] 0 0 { name := "float8" } := by
  intro d type
  have hpath : Sql.renderPath d.name = "Cents" := by decide +kernel
  have htext : type.render = "app" ++ "." ++ "\"CENTS\"" := by decide +kernel
  have hbase : d.type.render = "DOUBLE PRECISION" := by decide +kernel
  have hdouble : Sql.IsTypeText "DOUBLE PRECISION" := by
    have hword : Sql.IsTypeWord "PRECISION" := by decide +kernel
    have hfirst : ("DOUBLE".toList.all fun c => !Unicode.isBlank c) = true := by decide +kernel
    exact Sql.isTypeText_of_words (by decide : "DOUBLE" ≠ "") (by simpa using hfirst)
      (List.forall_mem_singleton.mpr hword) (by decide)
  have hcents : SpellsType "Cents" "Cents" :=
    (Spells.refl "Cents").spellsType (by decide +kernel) (by decide +kernel)
  have happ : SpellsType "app" "app" :=
    (Spells.refl "app").spellsType (by decide +kernel) (by decide +kernel)
  have hquoted : SpellsType "\"CENTS\"" "CENTS" :=
    Spells.spellsType (.inr ⟨'"', by decide, by decide⟩) (by decide +kernel) (by decide +kernel)
  have hcolumn : DomainColumn (some "App") [newTable type, .domain d] 0 0 d type.render :=
    { created := ⟨[newTable type], [], rfl, by simp⟩
      isDomain := by simp [Sql.IsDomain, d]
      isType := hbase ▸ hdouble
      named := hpath ▸ by decide
      noBlank := hpath ▸ hcents.noBlank
      written := ⟨_, _, rfl, rfl, fun _ h => Sql.DataType.noConfusion h, rfl⟩ }
  have hname :
      WriteSameName (some "App") (Sql.renderPath d.name) type.render (some "app") "CENTS" :=
    { domain := ⟨none, "Cents", hpath ▸ .alone hcents, by decide +kernel, by simp [IsDefaultSchema]⟩
      type := htext ▸ .behind happ hquoted
      sameSchema := by
        intro s hs
        obtain rfl := Option.some.inj hs
        decide +kernel
      noAlias := by decide +kernel
      noSigma := by
        rw [hpath, htext]
        refine ⟨by decide, by decide, fun s hs => ?_⟩
        obtain rfl := Option.some.inj hs
        decide }
  obtain ⟨-, hfound⟩ :=
    domain_found_iff (some "App") [newTable type, .domain d] 0 0 d type.render hcolumn
  have htyped := (hfound (some "app") "CENTS" hname).1 (by simp)
  rwa [hbase, show CatalogType.read .postgres "DOUBLE PRECISION" = { name := "float8" } by
    decide +kernel] at htyped

/-- With a default schema that is not in small letters, a type that is written as the name of a
domain and nothing else is not found. -/
theorem not_typedColumn_of_cents :
    let statements := [newDomain "cents" "integer", newTable (.named [{ text := "cents" }] [])]
    (Database.ofStatements .postgres (some "App") statements).tables =
        [{ schema := some "App", name := "t",
           columns := [{ name := "x", dataType := "cents", isNullable := true }] }] ∧
      ¬TypedColumn (some "App") statements 0 0 (.read .postgres "integer") := by
  intro statements
  have htables : (Database.ofStatements .postgres (some "App") statements).tables =
      [{ schema := some "App", name := "t",
         columns := [{ name := "x", dataType := "cents", isNullable := true }] }] := by
    decide +kernel
  refine ⟨htables, ?_⟩
  rintro ⟨t, column, ht, hcolumn, hname, -⟩
  rw [htables] at ht
  cases ht
  cases hcolumn
  revert hname
  decide +kernel

end TableTypes
