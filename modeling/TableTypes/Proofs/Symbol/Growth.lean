import TableTypes.Proofs.Symbol.Names
import TableTypes.Proofs.Symbol.Reach

/-!
# How symbol tables grow

Symbols are registered and never taken back. What a computation registers is described by a property
of its registrations: the entries that were there stay, and each new entry comes from a registration
with that property. Ids stay distinct, so an entry is found under its id.
-/

namespace TableTypes.SymbolTable

variable {α : Type} {P Q : Registration α → Prop} {s t u : SymbolTable α}

/-- A table comes from another one by registrations that all have a property. -/
def Grows (P : Registration α → Prop) (s t : SymbolTable α) : Prop :=
  ∃ history : List (Registration α), (∀ r ∈ history, P r) ∧ t = history.foldl add s

/-- A table grows to itself. -/
theorem Grows.refl (t : SymbolTable α) : Grows P t t :=
  ⟨[], by simp, rfl⟩

/-- Growth is passed on from table to table. -/
theorem Grows.trans (hst : Grows P s t) (htu : Grows P t u) : Grows P s u := by
  obtain ⟨first, hfirst, rfl⟩ := hst
  obtain ⟨second, hsecond, rfl⟩ := htu
  refine ⟨first ++ second, fun r hr => ?_, by simp⟩
  exact (List.mem_append.mp hr).elim (hfirst r) (hsecond r)

/-- A table that has grown grows by one more registration. -/
theorem Grows.add {r : Registration α} (hst : Grows P s t) (hr : P r) : Grows P s (t.add r) :=
  hst.trans ⟨[r], by simpa using hr, rfl⟩

/-- What grows by some registrations grows by more kinds of them. -/
theorem Grows.mono (hst : Grows P s t) (hPQ : ∀ r, P r → Q r) : Grows Q s t := by
  obtain ⟨history, hall, ht⟩ := hst
  exact ⟨history, fun r hr => hPQ r (hall r hr), ht⟩

/-- What grows from the table without symbols is the table of a history. -/
theorem Grows.exists_registered {style : Naming.IdentifierStyle} (ht : Grows P (empty style) t) :
    ∃ history, t = registered style history := by
  obtain ⟨history, -, ht⟩ := ht
  exact ⟨history, ht⟩

/-- An entry is found under its own id. -/
theorem id_of_find? {id : String} {e : Entry α} (hfound : t.find? id = some e) : e.id = id := by
  simpa using List.find?_some hfound

/-- After a registration an id has the entry that it had before; a new id has one with the symbol
registered. -/
theorem find?_add (t : SymbolTable α) (r : Registration α) (id : String) :
    (t.add r).find? id =
      if t.find? r.id = none ∧ r.id = id then
        some { id := r.id, name := displayName t.style t.names r.source, symbol := r.symbol }
      else t.find? id :=
  find?_registerAs t r.id r.source id r.symbol

/-- After a registration an id has the symbol that it had before, or else the one registered. -/
theorem get?_add (t : SymbolTable α) (r : Registration α) (id : String) :
    (t.add r).get? id = (t.get? id).or (if r.id = id then some r.symbol else none) := by
  unfold get?
  rw [find?_add]
  by_cases hid : r.id = id
  · rw [hid]
    cases t.find? id <;> simp
  · simp [hid]

/-- A registration keeps every entry. -/
theorem find?_add_of_find? {id : String} {e : Entry α} (r : Registration α)
    (hfound : t.find? id = some e) : (t.add r).find? id = some e := by
  rw [find?_add, if_neg, hfound]
  rintro ⟨hnew, rfl⟩
  rw [hfound] at hnew
  cases hnew

/-- Growing keeps every entry. -/
theorem Grows.find? {id : String} {e : Entry α} (hst : Grows P s t)
    (hfound : s.find? id = some e) : t.find? id = some e := by
  obtain ⟨history, -, rfl⟩ := hst
  induction history generalizing s with
  | nil => exact hfound
  | cons r history ih => exact ih (find?_add_of_find? r hfound)

/-- A registration takes no name back. -/
theorem names_subset_add (t : SymbolTable α) (r : Registration α) : t.names ⊆ (t.add r).names := by
  cases hfound : t.find? r.id with
  | some e => rw [add_of_find? hfound]; exact List.Subset.refl _
  | none => exact fun name hname => (mem_names_add hfound).mpr (.inr hname)

/-- Registrations leave the style as it is. -/
@[simp] theorem style_add (t : SymbolTable α) (r : Registration α) : (t.add r).style = t.style := by
  unfold SymbolTable.add registerAs
  split <;> rfl

/-- A new entry comes from one of the registrations: it has its symbol, and a display name that is
made from its source when at least the names of the former table were taken. -/
theorem Grows.exists_displayName {id : String} {e : Entry α} (hst : Grows P s t)
    (hnew : s.find? id = none) (hfound : t.find? id = some e) :
    ∃ r taken, P r ∧ r.id = id ∧ r.symbol = e.symbol ∧ s.names ⊆ taken ∧
      e.name = displayName s.style taken r.source := by
  obtain ⟨history, hall, rfl⟩ := hst
  induction history generalizing s with
  | nil =>
    rw [List.foldl_nil, hnew] at hfound
    cases hfound
  | cons r history ih =>
    have hrest : ∀ r' ∈ history, P r' := fun r' hr' => hall r' (List.mem_cons_of_mem _ hr')
    have hfind := find?_add s r id
    split at hfind
    · next hid =>
      have hgrows : Grows P (s.add r) (history.foldl SymbolTable.add (s.add r)) :=
        ⟨history, hrest, rfl⟩
      have hkept := hgrows.find? hfind
      rw [List.foldl_cons, hkept, Option.some.injEq] at hfound
      subst hfound
      exact ⟨r, s.names, hall r (by simp), hid.2, rfl, List.Subset.refl _, rfl⟩
    · obtain ⟨r', taken, hr', hid, hsymbol, hsub, hname⟩ := ih (hfind.trans hnew) hrest hfound
      rw [style_add] at hname
      exact ⟨r', taken, hr', hid, hsymbol, fun n hn => hsub (names_subset_add s r hn), hname⟩

/-- An entry was there before, or its symbol comes from one of the registrations. -/
theorem Grows.find?_inv {id : String} {e : Entry α} (hst : Grows P s t)
    (hfound : t.find? id = some e) :
    s.find? id = some e ∨ s.find? id = none ∧ ∃ r, P r ∧ r.id = id ∧ r.symbol = e.symbol := by
  cases hbefore : s.find? id with
  | some f => exact .inl ((hst.find? hbefore).symm.trans hfound)
  | none =>
    obtain ⟨r, -, hr, hid, hsymbol, -⟩ := hst.exists_displayName hbefore hfound
    exact .inr ⟨rfl, r, hr, hid, hsymbol⟩

/-! ## Entries and ids -/

/-- No id has two entries. -/
def DistinctIds (t : SymbolTable α) : Prop :=
  (t.entries.map (·.id)).Nodup

/-- A registration keeps ids distinct. -/
theorem DistinctIds.add (ht : t.DistinctIds) (r : Registration α) : (t.add r).DistinctIds := by
  cases hfound : t.find? r.id with
  | some e => rwa [add_of_find? hfound]
  | none =>
    have hnew : r.id ∉ t.entries.map (·.id) := by
      simpa [SymbolTable.find?, List.find?_eq_none] using hfound
    rw [SymbolTable.add, registerAs_of_find?_none hfound, DistinctIds,
      ((insertEntry_perm _ _).map _).nodup_iff]
    exact List.nodup_cons.mpr ⟨hnew, ht⟩

/-- What grows from the table without symbols has distinct ids. -/
theorem Grows.distinctIds {style : Naming.IdentifierStyle} (ht : Grows P (empty style) t) :
    t.DistinctIds := by
  obtain ⟨history, ht⟩ := ht.exists_registered
  rw [ht]
  clear ht
  induction history using List.reverseRecOn with
  | nil => exact List.nodup_nil
  | append_singleton history r ih =>
    rw [registered_append_singleton]
    exact ih.add r

/-- What grows from the table without symbols has its names in step with its entries. -/
theorem Grows.inStep {style : Naming.IdentifierStyle} (ht : Grows P (empty style) t) :
    t.InStep := by
  obtain ⟨history, rfl⟩ := ht.exists_registered
  exact inStep_registered style history

/-- With distinct ids every entry is the one of its id. -/
theorem DistinctIds.find?_eq_some_iff (ht : t.DistinctIds) {id : String} {e : Entry α} :
    t.find? id = some e ↔ e ∈ t.entries ∧ e.id = id := by
  constructor
  · intro hfound
    exact ⟨List.mem_of_find?_eq_some hfound, id_of_find? hfound⟩
  · rintro ⟨hmem, rfl⟩
    cases hfound : t.find? e.id with
    | none => simpa using List.find?_eq_none.mp hfound e hmem
    | some f =>
      have hf := List.mem_of_find?_eq_some hfound
      rw [List.inj_on_of_nodup_map ht hf hmem (id_of_find? hfound)]

/-- With distinct ids the display names tell the ids apart exactly when no two entries share one. -/
theorem DistinctIds.namesDistinct_iff (ht : t.DistinctIds) :
    t.NamesDistinct ↔ (t.entries.map (·.name)).Nodup := by
  have hentries : t.entries.Nodup := List.Nodup.of_map _ ht
  rw [List.nodup_map_iff_inj_on hentries]
  constructor
  · intro hdistinct e he f hf heq
    have hname : ∀ g ∈ t.entries, t.name? g.id = some g.name := by
      intro g hg
      simp [name?, ht.find?_eq_some_iff.mpr ⟨hg, rfl⟩]
    have hid := hdistinct e.id f.id e.name (hname e he) (heq ▸ hname f hf)
    exact List.inj_on_of_nodup_map ht he hf hid
  · intro hinjective i j name hi hj
    obtain ⟨e, he, hename⟩ := Option.map_eq_some_iff.mp hi
    obtain ⟨f, hf, hfname⟩ := Option.map_eq_some_iff.mp hj
    obtain ⟨hemem, rfl⟩ := ht.find?_eq_some_iff.mp he
    obtain ⟨hfmem, rfl⟩ := ht.find?_eq_some_iff.mp hf
    rw [hinjective e hemem f hfmem (hename.trans hfname.symm)]

/-! ## Names that are asked for -/

/-- A name that no number stands behind and no guard before. -/
def IsPlain (name : String) : Prop :=
  name.toList.head? ≠ some '_' ∧ startsWithDigit name = false ∧
    name.toList.getLast?.any Char.isDigit = false

instance (name : String) : Decidable (IsPlain name) :=
  inferInstanceAs (Decidable (_ ∧ _ ∧ _))

/-- A numbered name is not plain. -/
theorem not_isPlain_append_toString (base : String) (k : ℕ) : ¬IsPlain (base ++ toString k) := by
  rintro ⟨-, -, hlast⟩
  have hdigits : (toString k).toList = Nat.toDigits 10 k := Nat.toList_repr
  have hne : Nat.toDigits 10 k ≠ [] := Nat.toDigits_ne_nil
  have hdigit := Nat.isDigit_of_mem_toDigits (by decide) (by decide) (List.getLast_mem hne)
  rw [String.toList_append, hdigits, List.getLast?_append,
    List.getLast?_eq_some_getLast hne] at hlast
  simp [hdigit] at hlast

/-- A plain display name is the name that was asked for. -/
theorem baseName_of_displayName {style : Naming.IdentifierStyle} {taken : List String}
    {source : String} (hplain : IsPlain (displayName style taken source)) :
    displayName style taken source = baseName style source := by
  have hname : displayName style taken source = freeName taken (baseName style source) := by
    rw [displayName, guardDigit_eq] at hplain ⊢
    split
    · next hdigit =>
      rw [if_pos hdigit] at hplain
      exact absurd (by simp) hplain.1
    · rfl
  rw [hname, freeName] at hplain ⊢
  split
  · next htaken =>
    rw [if_pos htaken] at hplain
    obtain ⟨k, -, hnumbered, -⟩ := numbered_spec taken (baseName style source)
    rw [hnumbered] at hplain
    exact absurd hplain (not_isPlain_append_toString _ k)
  · rfl

/-- Whoever asks for a plain name gets it, unless it is taken. -/
theorem displayName_of_baseName {style : Naming.IdentifierStyle} {taken : List String}
    {source : String} (hplain : IsPlain (baseName style source))
    (hfree : baseName style source ∉ taken) :
    displayName style taken source = baseName style source := by
  rw [displayName, freeName, if_neg (by simpa using hfree), guardDigit_eq, if_neg]
  simp [hplain.2.1]

/-- A registration makes its id known. -/
theorem contains_add {r : Registration α} {id : String} :
    (t.add r).contains id = true ↔ r.id = id ∨ t.contains id = true := by
  simp [SymbolTable.add, contains_registerAs]

/-- The table of a history has the style that it was made with. -/
theorem style_registered (style : Naming.IdentifierStyle) (history : List (Registration α)) :
    (registered style history).style = style := by
  induction history using List.reverseRecOn with
  | nil => rfl
  | append_singleton history r ih => rw [registered_append_singleton, style_add, ih]

/-- A plain name is in use exactly when the source of a registered id asks for it. -/
theorem Grows.mem_names_iff {style : Naming.IdentifierStyle} (ht : Grows P (empty style) t)
    (hsource : ∀ r r', P r → P r' → r.id = r'.id → r.source = r'.source) {name : String}
    (hplain : IsPlain name) :
    name ∈ t.names ↔ ∃ r, P r ∧ t.contains r.id = true ∧ baseName style r.source = name := by
  obtain ⟨history, hall, rfl⟩ := ht
  change name ∈ (registered style history).names ↔
    ∃ r, P r ∧ (registered style history).contains r.id = true ∧ baseName style r.source = name
  induction history using List.reverseRecOn with
  | nil => simp [SymbolTable.contains, empty, SymbolTable.find?]
  | append_singleton history r ih =>
    have hr : P r := hall r (by simp)
    replace ih := ih fun r' hr' => hall r' (List.mem_append_left _ hr')
    rw [registered_append_singleton]
    cases hfound : (registered style history).find? r.id with
    | some e => rwa [add_of_find? hfound]
    | none =>
      rw [mem_names_add hfound, style_registered]
      constructor
      · rintro (rfl | hname)
        · exact ⟨r, hr, contains_add.mpr (.inl rfl), (baseName_of_displayName hplain).symm⟩
        · obtain ⟨r', hr', hcontains, hbase⟩ := ih.mp hname
          exact ⟨r', hr', contains_add.mpr (.inr hcontains), hbase⟩
      · rintro ⟨r', hr', hcontains, rfl⟩
        by_cases htaken : baseName style r'.source ∈ (registered style history).names
        · exact .inr htaken
        · rcases contains_add.mp hcontains with hid | hcontains
          · rw [hsource r r' hr hr' hid]
            exact .inl (displayName_of_baseName hplain htaken).symm
          · exact absurd (ih.mpr ⟨r', hr', hcontains, rfl⟩) htaken

end TableTypes.SymbolTable

namespace TableTypes.Library

open SymbolTable

instance (lib : Library) (name : String) : Decidable (lib.Knows name) :=
  inferInstanceAs (Decidable (_ ∨ _))

/-- A registration of a name that the library knows, as the symbol that the library has for it. -/
def Provides (lib : Library) (r : Registration Symbol) : Prop :=
  r.source = r.id ∧ lib.symbol? r.id = some r.symbol

/-- Collecting registers names of the library only. -/
theorem grows_collectNames (lib : Library) (symbols : Symbols) (names : List String) :
    Grows lib.Provides symbols (lib.collectNames symbols names) := by
  induction symbols, names using collectNames.induct lib with
  | case1 symbols =>
    rw [collectNames]
    exact .refl _
  | case2 symbols name names ih =>
    rw [collectNames]
    refine Grows.trans ?_ ih
    obtain ⟨hvisit, -⟩ | ⟨symbol, hknown, -, hvisit⟩ := lib.visit_cases name symbols
    · rw [hvisit]
      exact .refl _
    · rw [hvisit]
      let r : Registration Symbol := { id := name, source := name, symbol }
      exact (Grows.refl symbols).add (r := r) ⟨rfl, hknown⟩

/-- Collecting leaves the ids alone that the library does not know. -/
theorem get?_collectNames_of_not_knows {lib : Library} {id : String} (hid : ¬lib.Knows id)
    (symbols : Symbols) (names : List String) :
    (lib.collectNames symbols names).get? id = symbols.get? id := by
  unfold get?
  cases hfound : symbols.find? id with
  | some e => rw [find?_collectNames hfound]
  | none =>
    cases hafter : (lib.collectNames symbols names).find? id with
    | none => rfl
    | some e =>
      rcases (lib.grows_collectNames symbols names).find?_inv hafter with h | ⟨-, r, hr, rfl, -⟩
      · simp [hfound] at h
      · exact absurd (knows_iff.mpr ⟨_, hr.2⟩) hid

/-- A registration of a name that the library does not define keeps a table closed. -/
theorem Closed.add {lib : Library} {symbols : Symbols} (hclosed : lib.Closed symbols)
    {r : Registration Symbol} (hr : lib.definitions.get? r.id = none) :
    lib.Closed (symbols.add r) := by
  intro name d hd hcontains
  have hne : r.id ≠ name := by
    rintro rfl
    rw [hr] at hd
    cases hd
  have hbefore : symbols.contains name = true := by
    simpa [SymbolTable.add, contains_registerAs, hne] using hcontains
  obtain ⟨hget, hmentions⟩ := hclosed name d hd hbefore
  refine ⟨by simpa [SymbolTable.get?, find?_add, hne] using hget, fun other hother hknows => ?_⟩
  have hcontained := hmentions other hother hknows
  simp [SymbolTable.add, contains_registerAs, hcontained]

/-- Collecting keeps a table closed. -/
theorem Closed.collectNames {lib : Library} {symbols : Symbols} (hclosed : lib.Closed symbols)
    (names : List String) : lib.Closed (lib.collectNames symbols names) := by
  refine closed_collectNames fun name d hd hcontains => ?_
  obtain ⟨hget, hmentions⟩ := hclosed name d hd hcontains
  exact ⟨hget, fun other hother hknows => .inl (hmentions other hother hknows)⟩

end TableTypes.Library
