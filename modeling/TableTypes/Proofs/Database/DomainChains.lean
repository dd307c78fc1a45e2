import Mathlib.Order.WellFoundedSet
import TableTypes.Proofs.Database.CatalogNames
import TableTypes.Proofs.Database.ColumnTypes

/-!
# Domains over domains

A domain can be over a type that is a domain itself. Where no domain is over itself in this way,
each type stands for one type at the end, which is no domain. A column gets the type that its domain
is over, and so it has the type at the end exactly when that one is no domain. Domains are known in
small letters, so with a default schema that is not in small letters they are found behind their
schema only.
-/

namespace TableTypes

namespace Scope

variable {scope : Scope} {type base e : CatalogType}

/-! ## Types that stand for others -/

/-- The type that the domain of the full name of a type is over. -/
def base? (scope : Scope) (type : CatalogType) : Option CatalogType :=
  (scope.domains.get? (Unicode.lowercase (scope.typeKey type))).map (.read scope.dialect)

/-- A type is a domain by the full name that its catalog name has, in whatever letter case. -/
def NamesDomain (scope : Scope) (type : CatalogType) : Prop :=
  (scope.base? type).isSome

/-- A type stands for another one at the end: for itself if it is no domain, and else for what the
type stands for that the domain is over, as an array if one of them is an array. -/
inductive StandsFor (scope : Scope) : CatalogType → CatalogType → Prop
  | itself {type : CatalogType} (h : scope.base? type = none) : StandsFor scope type type
  | domain {type base e : CatalogType} (h : scope.base? type = some base)
      (hend : StandsFor scope base e) :
      StandsFor scope type { e with isArray := e.isArray || type.isArray }

/-- The domain of a key is over a type whose full name is another key. -/
def IsOver (scope : Scope) (key baseKey : String) : Prop :=
  ∃ base, scope.domains.get? key = some base ∧
    baseKey = Unicode.lowercase (scope.typeKey (.read scope.dialect base))

/-- No domain is over itself, directly or through others. -/
def DomainsEnd (scope : Scope) : Prop :=
  ∀ key, ¬Relation.TransGen scope.IsOver key key

/-- At the end is no domain. -/
theorem StandsFor.base?_eq_none (h : scope.StandsFor type e) : scope.base? e = none := by
  induction h with
  | itself h => exact h
  | domain _ _ ih => exact ih

/-- What a type stands for in the end is no domain. -/
theorem StandsFor.not_namesDomain (h : scope.StandsFor type e) : ¬scope.NamesDomain e := by
  rw [NamesDomain, h.base?_eq_none]
  exact Bool.false_ne_true

/-- A type stands for one type only. -/
theorem StandsFor.unique {e' : CatalogType} (h : scope.StandsFor type e)
    (h' : scope.StandsFor type e') : e = e' := by
  induction h generalizing e' with
  | itself hnone =>
    cases h' with
    | itself => rfl
    | domain hsome => cases hnone.symm.trans hsome
  | domain hsome _ ih =>
    cases h' with
    | itself hnone => cases hnone.symm.trans hsome
    | domain hsome' hend' =>
      obtain rfl := Option.some.inj (hsome.symm.trans hsome')
      rw [ih hend']

/-- A type that is under no key of a domain has no base. -/
theorem base?_eq_none_of_notMem
    (h : Unicode.lowercase (scope.typeKey type) ∉ scope.domains.keys) :
    scope.base? type = none := by
  refine Option.map_eq_none_iff.mpr (Option.eq_none_iff_forall_ne_some.mpr fun base hbase => h ?_)
  exact Dictionary.mem_keys_iff.mpr (Option.isSome_of_eq_some hbase)

/-- Where no domain is over itself, each type stands for one. The induction is on the keys of the
domains, which are finitely many. -/
theorem DomainsEnd.exists_standsFor (h : scope.DomainsEnd) (type : CatalogType) :
    ∃ e, scope.StandsFor type e := by
  let after (key baseKey : String) := Relation.TransGen scope.IsOver baseKey key
  have : IsStrictOrder String after :=
    { irrefl := h
      trans := fun _ _ _ hab hbc => hbc.trans hab }
  let keys := {key | key ∈ scope.domains.keys}
  have hwf : keys.WellFoundedOn after := (List.finite_toSet scope.domains.keys).wellFoundedOn
  have hkeys {key : String} (hkey : key ∈ keys) : ∀ type : CatalogType,
      Unicode.lowercase (scope.typeKey type) = key → ∃ e, scope.StandsFor type e := by
    refine hwf.induction (P := fun key => ∀ type : CatalogType,
      Unicode.lowercase (scope.typeKey type) = key → ∃ e, scope.StandsFor type e) hkey
        fun key _ ih type htype => ?_
    cases hbase : scope.base? type with
    | none => exact ⟨type, .itself hbase⟩
    | some base =>
      obtain ⟨text, htext, rfl⟩ := Option.map_eq_some_iff.mp hbase
      let baseKey := Unicode.lowercase (scope.typeKey (.read scope.dialect text))
      have hover : scope.IsOver key baseKey := ⟨text, htype ▸ htext, rfl⟩
      obtain ⟨e, he⟩ : ∃ e, scope.StandsFor (.read scope.dialect text) e := by
        by_cases hmem : baseKey ∈ keys
        · exact ih baseKey hmem (.single hover) _ rfl
        · exact ⟨_, .itself (base?_eq_none_of_notMem hmem)⟩
      exact ⟨_, .domain hbase he⟩
  by_cases hmem : Unicode.lowercase (scope.typeKey type) ∈ keys
  · exact hkeys hmem type rfl
  · exact ⟨type, .itself (base?_eq_none_of_notMem hmem)⟩

/-! ## Types as they are found -/

/-- The domains of a scope are known in small letters. -/
def KnowsSmall (scope : Scope) : Prop :=
  ∀ key base, scope.domains.get? key = some base → Unicode.lowercase key = key

/-- The domains of statements are known under small keys. -/
theorem knowsSmall_withDomains (statements : List Sql.Statement) :
    (scope.withDomains statements).KnowsSmall := by
  intro key base hbase
  by_contra hne
  have hnone : (scope.withDomains statements).domains.get? key = none :=
    get?_domains_withDomains fun st _ domain hdomain heq =>
      hne (heq ▸ lowercase_of_domain? hdomain)
  cases hnone.symm.trans hbase

/-- A data type is found at once: it is looked up in small letters, and the domain is over a type
that is no domain. -/
structure FoundAtOnce (scope : Scope) (type : CatalogType) : Prop where
  small : type.schema = none → ∀ schema ∈ scope.defaultSchema, Unicode.lowercase schema = schema
  last : ∀ base ∈ scope.base? type, ¬scope.NamesDomain base

/-- What a data type in a column is resolved to, by its full name. -/
theorem resolve_eq (text : String) :
    scope.resolve text =
      match scope.domains.get? (scope.typeKey (.read scope.dialect text)) with
      | some base =>
        { CatalogType.read scope.dialect base with
          isArray := (CatalogType.read scope.dialect base).isArray ||
            (CatalogType.read scope.dialect text).isArray }
      | none => .read scope.dialect text :=
  rfl

/-- A domain whose full name is in small letters is found, and no other one. -/
theorem resolve_cases (hsmall : scope.KnowsSmall) (text : String) :
    let type := CatalogType.read scope.dialect text
    (∃ base, Unicode.lowercase (scope.typeKey type) = scope.typeKey type ∧
      scope.base? type = some base ∧
      scope.resolve text = { base with isArray := base.isArray || type.isArray }) ∨
    ((Unicode.lowercase (scope.typeKey type) = scope.typeKey type → scope.base? type = none) ∧
      scope.resolve text = type) := by
  intro type
  rw [resolve_eq]
  cases hget : scope.domains.get? (scope.typeKey type) with
  | some base =>
    have hkey := hsmall _ _ hget
    refine .inl ⟨.read scope.dialect base, hkey, ?_, rfl⟩
    rw [base?, hkey, hget]
    rfl
  | none =>
    refine .inr ⟨fun hkey => ?_, rfl⟩
    rw [base?, hkey, hget]
    rfl

/-- A data type is resolved to a domain exactly when it is one and is not found at once. -/
theorem namesDomain_resolve_iff (hsmall : scope.KnowsSmall) (text : String) :
    let type := CatalogType.read scope.dialect text
    scope.NamesDomain (scope.resolve text) ↔ scope.NamesDomain type ∧ ¬scope.FoundAtOnce type := by
  intro type
  have hkey := scope.lowercase_typeKey_eq_self_iff text
  rcases resolve_cases hsmall text with ⟨base, hsame, hbase, hresolve⟩ | ⟨hnone, hresolve⟩
  · -- the type is a domain, and what remains is whether its base is one
    have hresolved : scope.NamesDomain (scope.resolve text) ↔ scope.NamesDomain base := by
      rw [hresolve]
      rfl
    have hfound : scope.FoundAtOnce type ↔ ¬scope.NamesDomain base := by
      refine ⟨fun h => h.last base hbase, fun h => ⟨hkey.mp hsame, fun base' hbase' => ?_⟩⟩
      exact Option.some.inj (hbase.symm.trans hbase') ▸ h
    rw [hresolved, hfound, not_not, iff_and_self]
    exact fun _ => Option.isSome_of_eq_some hbase
  · rw [hresolve, iff_self_and]
    intro hnames hfound
    rw [NamesDomain, hnone (hkey.mpr hfound.small)] at hnames
    cases hnames

/-- A data type that is found at once if it is a domain is resolved to the type at the end. -/
theorem resolve_eq_of_foundAtOnce (hsmall : scope.KnowsSmall) {text : String}
    (hfound : scope.NamesDomain (.read scope.dialect text) →
      scope.FoundAtOnce (.read scope.dialect text))
    (hend : scope.StandsFor (.read scope.dialect text) e) : scope.resolve text = e := by
  have hkey := scope.lowercase_typeKey_eq_self_iff text
  rcases resolve_cases hsmall text with ⟨base, -, hbase, hresolve⟩ | ⟨hnone, hresolve⟩
  · have hlast := (hfound (Option.isSome_of_eq_some hbase)).last base hbase
    have hbaseEnd : scope.StandsFor base base := .itself (Option.not_isSome_iff_eq_none.mp hlast)
    rw [hresolve]
    exact (StandsFor.domain hbase hbaseEnd).unique hend
  · have hself : scope.base? (.read scope.dialect text) = none := by
      by_contra hsome
      have hnames : scope.NamesDomain (.read scope.dialect text) :=
        Option.isSome_iff_ne_none.mpr hsome
      exact hsome (hnone (hkey.mpr (hfound hnames).small))
    rw [hresolve]
    exact (StandsFor.itself hself).unique hend

end Scope

/-! ## Columns -/

/-- The type of a column. -/
def Column.type (c : Column) : CatalogType :=
  { name := c.dataType, schema := c.dataTypeSchema, isArray := c.isArray }

/-- A column has a type. -/
def Column.HasType (c : Column) (type : CatalogType) : Prop :=
  c.dataType = type.name ∧ c.dataTypeSchema = type.schema ∧ c.isArray = type.isArray

/-- A data type is not a list of labels. -/
def Sql.DataType.IsNamed (type : DataType) : Prop :=
  ∀ labels, type ≠ .enum labels

namespace Scope

variable {scope : Scope}

/-- A column that is declared with a type other than a list of labels has what its text is resolved
to, unless a check gives it labels of its own. -/
theorem hasType_resolve {c : Sql.ColumnDefinition} (hc : c.type.IsNamed) {column : Column}
    (h : (scope.plainColumn c).KeepsType scope.dialect column) :
    (scope.dialect = .sqlite ∧ column.enumValues.isSome) ∨
      (column.enumValues = none ∧ column.HasType (scope.resolve c.type.render)) := by
  have hplain : (scope.plainColumn c).HasType (scope.resolve c.type.render) ∧
      (scope.plainColumn c).enumValues = none := by
    unfold plainColumn
    split
    · next labels htype => exact absurd htype (hc labels)
    · exact ⟨⟨rfl, rfl, rfl⟩, rfl⟩
  obtain ⟨⟨htype, hschema, harray⟩, hvalues⟩ := hplain
  rcases h.type with ⟨hsame, hsameValues⟩ | hlabels
  · exact .inr ⟨hsameValues.trans hvalues, hsame.trans htype, h.schema.trans hschema,
      h.isArray.trans harray⟩
  · exact .inl hlabels

/-- Whether a column has a domain for its type is known by the name of the type. -/
theorem namesDomain_congr {column : Column} {type : CatalogType} (h : column.HasType type) :
    scope.NamesDomain column.type ↔ scope.NamesDomain type := by
  obtain ⟨hname, hschema, -⟩ := h
  simp [NamesDomain, base?, typeKey, Column.type, hname, hschema]

/-- A column without labels of its own is not declared by a list of labels. -/
theorem isNamed_of_keepsType {c : Sql.ColumnDefinition} {column : Column}
    (hvalues : column.enumValues = none)
    (h : (scope.plainColumn c).KeepsType scope.dialect column) : c.type.IsNamed := by
  intro labels htype
  rcases h.type with ⟨-, hsame⟩ | ⟨-, hlabels⟩
  · simp [hvalues, plainColumn, htype] at hsame
  · simp [hvalues] at hlabels

/-- A column that is resolved as a data type has the type at the end exactly when the data type is
found at once if it is a domain. -/
theorem hasType_iff_foundAtOnce (hsmall : scope.KnowsSmall) {text : String} {column : Column}
    {e : CatalogType} (htype : column.HasType (scope.resolve text))
    (hend : scope.StandsFor (.read scope.dialect text) e) :
    column.HasType e ↔ (scope.NamesDomain (.read scope.dialect text) →
      scope.FoundAtOnce (.read scope.dialect text)) := by
  constructor
  · intro he hnames
    by_contra hfound
    have hresolved := (namesDomain_resolve_iff hsmall text).mpr ⟨hnames, hfound⟩
    have hcolumn := (namesDomain_congr htype).mpr hresolved
    exact hend.not_namesDomain ((namesDomain_congr he).mp hcolumn)
  · intro hfound
    exact resolve_eq_of_foundAtOnce hsmall hfound hend ▸ htype

end Scope

/-- The column at place `k` of the table definition at place `i`, whose data type stands for another
one at the end, has this type exactly when the data type is found at once if it is a domain. Or in
SQLite a check gives the column labels of its own. -/
def EndsColumn (dialect : Dialect) (defaultSchema : Option String) (statements : List Sql.Statement)
    (i k : Nat) (type e : CatalogType) : Prop :=
  let scope := ({ dialect, defaultSchema } : Scope).withDomains statements
  ∃ t column, (Database.ofStatements dialect defaultSchema statements).tables[i]? = some t ∧
    t.columns[k]? = some column ∧
    ((dialect = .sqlite ∧ column.enumValues.isSome) ∨
      (column.enumValues = none ∧
        (column.HasType e ↔ (scope.NamesDomain type → scope.FoundAtOnce type))))

/-- **Domains stand for the type at their end.** Where no domain is over itself, each data type
stands for one type, which is no domain. A column that is declared with the data type has the type
at the end exactly when the data type is found at once if it is a domain, unless in SQLite a check
gives the column labels of its own. No column of a table or view has a domain for its type, except
where a column is declared as a domain that is not found at once. -/
theorem domains_end_iff (dialect : Dialect) (defaultSchema : Option String)
    (statements : List Sql.Statement) :
    let scope := ({ dialect, defaultSchema } : Scope).withDomains statements
    let definitions := statements.filterMap Scope.definition?
    scope.DomainsEnd →
    (∀ i k d c, definitions[i]? = some d → d.columns[k]? = some c → c.type.IsNamed →
      ∃ e, (∀ e', scope.StandsFor (.read dialect c.type.render) e' ↔ e' = e) ∧
        ¬scope.NamesDomain e ∧
        EndsColumn dialect defaultSchema statements i k (.read dialect c.type.render) e) ∧
    ∀ t ∈ (Database.ofStatements dialect defaultSchema statements).tables, ∀ column ∈ t.columns,
      column.enumValues = none → scope.NamesDomain column.type →
      ∃ d ∈ definitions, ∃ c ∈ d.columns, c.type.IsNamed ∧
        scope.NamesDomain (.read dialect c.type.render) ∧
        ¬scope.FoundAtOnce (.read dialect c.type.render) := by
  intro scope definitions hends
  have hsmall : scope.KnowsSmall := Scope.knowsSmall_withDomains statements
  constructor
  · intro i k d c hd hc hnamed
    obtain ⟨e, hend⟩ := hends.exists_standsFor (.read dialect c.type.render)
    obtain ⟨t, column, ht, hcolumn, hkeeps⟩ :=
      Database.exists_column_keepsType dialect defaultSchema hd hc
    refine ⟨e, fun e' => ⟨fun h => h.unique hend, fun h => h ▸ hend⟩, hend.not_namesDomain, t,
      column, ht, hcolumn, ?_⟩
    refine (scope.hasType_resolve hnamed hkeeps).imp_right fun ⟨hvalues, htype⟩ => ⟨hvalues, ?_⟩
    exact Scope.hasType_iff_foundAtOnce hsmall htype hend
  · intro t ht column hcolumn hvalues hnames
    obtain ⟨d, hd, c, hc, hkeeps⟩ := Database.exists_definition_of_column ht hcolumn
    have hnamed : c.type.IsNamed := scope.isNamed_of_keepsType hvalues hkeeps
    rcases scope.hasType_resolve hnamed hkeeps with ⟨-, hlabels⟩ | ⟨-, htype⟩
    · simp [hvalues] at hlabels
    · have hresolved := (Scope.namesDomain_congr htype).mp hnames
      have hmissed := (Scope.namesDomain_resolve_iff hsmall c.type.render).mp hresolved
      exact ⟨d, hd, c, hc, hnamed, hmissed⟩

/-! ## One domain, and one over another -/

/-- A domain of a name over a type of a name. -/
def newDomain (name type : String) : Sql.Statement :=
  .domain
    { name := [{ text := name }], type := .named [{ text := type }] [], collation := none
      default := none, constraints := [] }

/-- A table `t` with a column `x` of a type. -/
def newTable (type : Sql.DataType) : Sql.Statement :=
  .table
    { orReplace := false, kind := [], ifNotExists := false, name := [{ text := "t" }]
      columns := [{ name := { text := "x" }, type, options := [] }]
      constraints := [], model := none, clauses := [], query := none }

/-- Domains that are each over a type of lower rank are not over themselves. -/
theorem Scope.domainsEnd_of_rank {scope : Scope} (rank : String → Nat)
    (h : ∀ domain ∈ scope.domains,
      rank (Unicode.lowercase (scope.typeKey (.read scope.dialect domain.2))) < rank domain.1) :
    scope.DomainsEnd := by
  have hstep {key baseKey : String} (hover : scope.IsOver key baseKey) :
      rank baseKey < rank key := by
    obtain ⟨base, hbase, rfl⟩ := hover
    exact h (key, base) (Dictionary.mem_of_get? hbase)
  have hchain {key baseKey : String} (hover : Relation.TransGen scope.IsOver key baseKey) :
      rank baseKey < rank key := by
    induction hover with
    | single hover => exact hstep hover
    | tail _ hover ih => exact (hstep hover).trans ih
  exact fun key hcycle => (hchain hcycle).false

/-- A column that is declared as an array of a domain is an array of the type that the domain is
over. -/
theorem domains_end_of_cents :
    let type : Sql.DataType := .array (.named [{ text := "Cents" }] []) none
    let statements := [newDomain "CENTS" "integer", newTable type]
    ∃ t column, (Database.ofStatements .postgres (some "public") statements).tables[0]? = some t ∧
      t.columns[0]? = some column ∧ column.HasType { name := "int4", isArray := true } := by
  intro type statements
  let scope :=
    ({ dialect := .postgres, defaultSchema := some "public" } : Scope).withDomains statements
  have hdomains : scope.domains = [("public.cents", "integer")] := by decide +kernel
  have hends : scope.DomainsEnd := by
    refine Scope.domainsEnd_of_rank (fun key => if key = "public.cents" then 1 else 0) ?_
    rw [hdomains]
    intro domain hdomain
    rw [List.mem_singleton.mp hdomain]
    decide +kernel
  have hread : CatalogType.read .postgres type.render = { name := "cents", isArray := true } := by
    decide +kernel
  have hbase : scope.base? { name := "cents", isArray := true } = some { name := "int4" } := by
    decide +kernel
  have hint : scope.base? { name := "int4" } = none := by decide +kernel
  obtain ⟨hcolumns, -⟩ := domains_end_iff .postgres (some "public") statements hends
  obtain ⟨e, hend, -, t, column, ht, hcolumn, htype⟩ :=
    hcolumns 0 0 _ _ rfl rfl fun labels h => Sql.DataType.noConfusion h
  obtain rfl : { name := "int4", isArray := true } = e := by
    refine (hend _).mp ?_
    rw [hread]
    exact .domain hbase (.itself hint)
  have hfound : scope.FoundAtOnce (.read .postgres type.render) := by
    rw [hread]
    refine ⟨fun _ schema hschema => ?_, fun base hbase' => ?_⟩
    · obtain rfl := Option.some.inj hschema
      decide +kernel
    · obtain rfl := Option.some.inj (hbase.symm.trans hbase')
      exact (Scope.StandsFor.itself hint).not_namesDomain
  rcases htype with ⟨hdialect, -⟩ | ⟨-, htype⟩
  · cases hdialect
  · exact ⟨t, column, ht, hcolumn, htype.mpr fun _ => hfound⟩

/-- A column that is declared as a domain over a domain has the inner domain for its type, and not
the type at the end. -/
theorem not_hasType_of_price :
    let type : Sql.DataType := .named [{ text := "price" }] []
    let statements := [newDomain "cents" "integer", newDomain "price" "cents", newTable type]
    let scope :=
      ({ dialect := .postgres, defaultSchema := some "public" } : Scope).withDomains statements
    let x : Column := { name := "x", dataType := "cents", isNullable := true }
    scope.DomainsEnd ∧ scope.NamesDomain (.read .postgres type.render) ∧
      scope.StandsFor (.read .postgres type.render) { name := "int4" } ∧
      (Database.ofStatements .postgres (some "public") statements).tables =
        [{ schema := some "public", name := "t", columns := [x] }] ∧
      scope.NamesDomain x.type ∧ ¬x.HasType { name := "int4" } := by
  intro type statements scope x
  have hdomains : scope.domains = [("public.cents", "integer"), ("public.price", "cents")] := by
    decide +kernel
  have hends : scope.DomainsEnd := by
    let rank (key : String) :=
      if key = "public.price" then 2 else if key = "public.cents" then 1 else 0
    refine Scope.domainsEnd_of_rank rank ?_
    rw [hdomains]
    intro domain hdomain
    rcases List.mem_pair.mp hdomain with rfl | rfl <;> decide +kernel
  have hread : CatalogType.read .postgres type.render = { name := "price" } := by decide +kernel
  have hprice : scope.base? { name := "price" } = some { name := "cents" } := by decide +kernel
  have hcents : scope.base? { name := "cents" } = some { name := "int4" } := by decide +kernel
  have hint : scope.base? { name := "int4" } = none := by decide +kernel
  refine ⟨hends, ?_, ?_, by decide +kernel, Option.isSome_of_eq_some hcents, ?_⟩
  · rw [hread]
    exact Option.isSome_of_eq_some hprice
  · rw [hread]
    exact .domain hprice (.domain hcents (.itself hint))
  · rintro ⟨hname, -⟩
    revert hname
    decide

end TableTypes
