import Mathlib.Data.List.Induction
import Mathlib.Data.List.Nodup
import Mathlib.Data.List.Perm.Subperm
import Mathlib.Data.Set.Basic
import TableTypes.TypeScript.Enum

/-!
# Display names

When the display names of a symbol table tell its ids apart. The search for a free name always ends
with one. It looks the names up that are taken, and every registration keeps these in step with the
entries. The underscore that goes before a leading digit is put there after the search, and this is
the one way in which two ids come to share a display name.
-/

namespace TableTypes.SymbolTable

open Naming TypeScript

variable {α : Type}

/-! ## The search for a free name -/

/-- The numbered names for one base are all different. -/
theorem numbered_injective {base : String} {j k : ℕ}
    (h : base ++ toString j = base ++ toString k) : j = k := by
  have hrepr : j.repr = k.repr := (String.append_right_inj base).mp h
  have hdigits : Nat.toDigits 10 j = Nat.toDigits 10 k := by
    rw [← Nat.toList_repr, ← Nat.toList_repr, hrepr]
  rw [← Nat.ofDigitChars_ten_toDigits (n := j), hdigits, Nat.ofDigitChars_ten_toDigits]

/-- Of one candidate more than there are names taken, one is free. -/
theorem exists_free_candidate (taken : List String) (base : String) :
    ∃ k < taken.length + 1, base ++ toString (k + 2) ∉ taken := by
  by_contra h
  push Not at h
  let candidates := (List.range (taken.length + 1)).map fun k => base ++ toString (k + 2)
  have hnodup : candidates.Nodup := by
    refine List.Nodup.map ?_ List.nodup_range
    intro j k hjk
    have := numbered_injective hjk
    omega
  have hsubset : candidates ⊆ taken := by
    intro name hname
    obtain ⟨k, hk, rfl⟩ := List.mem_map.mp hname
    exact h k (List.mem_range.mp hk)
  have hlength := (hnodup.subperm hsubset).length_le
  rw [List.length_map, List.length_range] at hlength
  omega

/-- The number chosen is the least one from two on that gives a free name. -/
theorem numbered_spec (taken : List String) (base : String) :
    ∃ k, 2 ≤ k ∧ numbered taken base = base ++ toString k ∧ base ++ toString k ∉ taken ∧
      ∀ j, 2 ≤ j → j < k → base ++ toString j ∈ taken := by
  obtain ⟨free, hbound, hfree⟩ := exists_free_candidate taken base
  let isFree := fun k => !taken.contains (base ++ toString (k + 2))
  cases hfind : (List.range (taken.length + 1)).find? isFree with
  | none =>
    have hall := List.find?_range_eq_none.mp hfind free hbound
    exact absurd (by simpa [isFree] using hall) hfree
  | some k =>
    obtain ⟨hk, -, hleast⟩ := List.find?_range_eq_some.mp hfind
    refine ⟨k + 2, by omega, ?_, by simpa [isFree] using hk, ?_⟩
    · have hmap : (fun name => !taken.contains name) ∘ (fun k => base ++ toString (k + 2)) =
          isFree := rfl
      simp only [numbered, List.find?_map, hmap, hfind, Option.map_some, Option.getD_some]
    · intro j htwo hj
      have hearlier := hleast (j - 2) (by omega)
      rw [← Nat.sub_add_cancel htwo]
      simpa [isFree] using hearlier

/-- The name found is free. -/
theorem freeName_not_mem (taken : List String) (base : String) : freeName taken base ∉ taken := by
  unfold freeName
  split
  · obtain ⟨k, -, hname, hfree, -⟩ := numbered_spec taken base
    rwa [hname]
  · next h => simpa using h

/-- The name found is the base with some text behind it. -/
theorem exists_freeName_eq_append (taken : List String) (base : String) :
    ∃ suffix, freeName taken base = base ++ suffix := by
  unfold freeName
  split
  · obtain ⟨k, -, hname, -, -⟩ := numbered_spec taken base
    exact ⟨toString k, hname⟩
  · exact ⟨"", by simp⟩

/-! ## The guard of a leading digit -/

/-- Whether a name begins with a digit. -/
def startsWithDigit (name : String) : Bool :=
  name.toList.head?.any Char.isDigit

/-- The guard goes before the names that begin with a digit only. -/
theorem guardDigit_eq (name : String) :
    guardDigit name = if startsWithDigit name then "_" ++ name else name := by
  unfold guardDigit startsWithDigit
  cases name.toList with
  | nil => simp
  | cons c rest => cases hdigit : c.isDigit <;> simp [hdigit]

/-- No guarded name begins with a digit. -/
theorem startsWithDigit_guardDigit (name : String) : startsWithDigit (guardDigit name) = false := by
  rw [guardDigit_eq]
  split
  · simp [startsWithDigit]
  · next h => simpa using h

/-- A base name is never empty. -/
theorem baseName_ne_empty (style : IdentifierStyle) (source : String) :
    baseName style source ≠ "" := by
  unfold baseName
  split
  · decide
  · next cs hcs =>
    intro h
    exact hcs (by simpa using congrArg String.toList h)

/-- The name found begins with a digit exactly when the base name does. -/
theorem startsWithDigit_freeName (taken : List String) {base : String} (hbase : base ≠ "") :
    startsWithDigit (freeName taken base) = startsWithDigit base := by
  obtain ⟨suffix, hname⟩ := exists_freeName_eq_append taken base
  cases hchars : base.toList with
  | nil => exact absurd (String.toList_eq_nil_iff.mp hchars) hbase
  | cons c rest => simp [hname, startsWithDigit, hchars]

/-- The display name for a source that asks for a leading digit needs no search. -/
theorem displayName_of_startsWithDigit {taken : List String} {style : IdentifierStyle}
    {source : String} (hnames : ∀ name ∈ taken, startsWithDigit name = false)
    (hdigit : startsWithDigit (baseName style source) = true) :
    displayName style taken source = "_" ++ baseName style source := by
  have hfree : baseName style source ∉ taken := by
    intro hmem
    rw [hnames _ hmem] at hdigit
    cases hdigit
  rw [displayName, freeName, if_neg (by simpa using hfree), guardDigit_eq, if_pos hdigit]

/-- Any other display name is the free name that is found. -/
theorem displayName_of_not_startsWithDigit {taken : List String} {style : IdentifierStyle}
    {source : String} (hdigit : startsWithDigit (baseName style source) = false) :
    displayName style taken source = freeName taken (baseName style source) := by
  rw [displayName, guardDigit_eq, startsWithDigit_freeName taken (baseName_ne_empty style source),
    hdigit, if_neg (by simp)]

/-! ## Histories of registrations -/

/-- A call that registers a symbol: an id, the text that its display name is made from, and the
symbol. -/
structure Registration (α : Type) where
  id : String
  source : String
  symbol : α

/-- A table after one more registration. -/
def add (t : SymbolTable α) (r : Registration α) : SymbolTable α :=
  (t.registerAs r.id r.source r.symbol).2

/-- A new table after some registrations, the first of them first. -/
def registered (style : IdentifierStyle) (history : List (Registration α)) : SymbolTable α :=
  history.foldl add (empty style)

/-- No two ids share a display name. -/
def NamesDistinct (t : SymbolTable α) : Prop :=
  ∀ i j name, t.name? i = some name → t.name? j = some name → i = j

/-- A registration of a new id clashes when the name that it asks for begins with a digit and is,
with an underscore before it, the display name of another id. -/
def Clashes (t : SymbolTable α) (r : Registration α) : Prop :=
  t.contains r.id = false ∧ startsWithDigit (baseName t.style r.source) = true ∧
    ∃ other, t.name? other = some ("_" ++ baseName t.style r.source)

/-- Some registration of a history clashes with those before it. -/
def HasClash (style : IdentifierStyle) (history : List (Registration α)) : Prop :=
  ∃ before r after, history = before ++ r :: after ∧ (registered style before).Clashes r

/-- No two of some ids share a display name. -/
def NamesDistinctOn (t : SymbolTable α) (ids : Set String) : Prop :=
  ∀ i ∈ ids, ∀ j ∈ ids, ∀ name, t.name? i = some name → t.name? j = some name → i = j

/-- A registration of one of some ids clashes with another one of them. -/
def ClashesAmong (t : SymbolTable α) (ids : Set String) (r : Registration α) : Prop :=
  r.id ∈ ids ∧ t.contains r.id = false ∧ startsWithDigit (baseName t.style r.source) = true ∧
    ∃ other ∈ ids, t.name? other = some ("_" ++ baseName t.style r.source)

/-- Some registration of a history clashes with one before it, both of them with one of some ids. -/
def HasClashAmong (style : IdentifierStyle) (ids : Set String) (history : List (Registration α)) :
    Prop :=
  ∃ before r after, history = before ++ r :: after ∧ (registered style before).ClashesAmong ids r

/-- Display names tell all ids apart exactly if they tell the ids of the whole set apart. -/
theorem namesDistinctOn_univ {t : SymbolTable α} :
    t.NamesDistinctOn Set.univ ↔ t.NamesDistinct := by
  simp [NamesDistinctOn, NamesDistinct]

/-- Display names that tell all ids apart tell some of them apart. -/
theorem NamesDistinct.on {t : SymbolTable α} (h : t.NamesDistinct) (ids : Set String) :
    t.NamesDistinctOn ids :=
  fun i _ j _ => h i j

/-- A clash is one among all ids. -/
theorem hasClashAmong_univ {style : IdentifierStyle} {history : List (Registration α)} :
    HasClashAmong style Set.univ history ↔ HasClash style history := by
  simp [HasClashAmong, ClashesAmong, HasClash, Clashes]

/-- Without calls the table is empty. -/
@[simp] theorem registered_nil (style : IdentifierStyle) :
    registered style ([] : List (Registration α)) = empty style := rfl

/-- The last call adds to what the calls before it have registered. -/
theorem registered_append_singleton (style : IdentifierStyle) (history : List (Registration α))
    (r : Registration α) :
    registered style (history ++ [r]) = (registered style history).add r := by
  simp [registered]

/-- A registration of a known id changes nothing. -/
theorem add_of_find? {t : SymbolTable α} {r : Registration α} {e : Entry α}
    (hfound : t.find? r.id = some e) : t.add r = t := by
  simp [add, registerAs_of_find? hfound]

/-- A registration gives a new id its display name and changes no other name. -/
theorem name?_add (t : SymbolTable α) (r : Registration α) (id : String) :
    (t.add r).name? id =
      if t.find? r.id = none ∧ r.id = id then some (displayName t.style t.names r.source)
      else t.name? id := by
  unfold add name?
  rw [find?_registerAs]
  split <;> simp

/-- A display name that has been given out stays. -/
theorem name?_add_of_name? {t : SymbolTable α} {id name : String} (r : Registration α)
    (hname : t.name? id = some name) : (t.add r).name? id = some name := by
  rw [name?_add, if_neg, hname]
  rintro ⟨hnew, rfl⟩
  simp [name?, hnew] at hname

/-! ## The names that are taken -/

/-- An insertion only adds the entry. -/
theorem insertEntry_perm (e : Entry α) (es : List (Entry α)) :
    (insertEntry e es).Perm (e :: es) := by
  induction es with
  | nil => exact .refl _
  | cons f fs ih =>
    unfold insertEntry
    split
    · exact .refl _
    · exact (ih.cons f).trans (.swap e f fs)

/-- The names that are taken are those of the entries. -/
def InStep (t : SymbolTable α) : Prop :=
  ∀ name, name ∈ t.names ↔ ∃ e ∈ t.entries, e.name = name

/-- A registration of a new id takes its display name. -/
theorem mem_names_add {t : SymbolTable α} {r : Registration α} (hnew : t.find? r.id = none)
    {name : String} :
    name ∈ (t.add r).names ↔ name = displayName t.style t.names r.source ∨ name ∈ t.names := by
  rw [add, registerAs_of_find?_none hnew, List.mem_insert_iff]

/-- A registration of a new id adds an entry with its display name. -/
theorem mem_entries_add {t : SymbolTable α} {r : Registration α} (hnew : t.find? r.id = none)
    {e : Entry α} :
    e ∈ (t.add r).entries ↔
      e = ⟨r.id, displayName t.style t.names r.source, r.symbol⟩ ∨ e ∈ t.entries := by
  rw [add, registerAs_of_find?_none hnew, (insertEntry_perm _ _).mem_iff, List.mem_cons]

/-- A registration keeps names and entries in step: for a new id one name is added to both, and for
a known one nothing. -/
theorem InStep.add {t : SymbolTable α} (ht : t.InStep) (r : Registration α) : (t.add r).InStep := by
  cases hfound : t.find? r.id with
  | some e => rwa [add_of_find? hfound]
  | none =>
    intro name
    rw [mem_names_add hfound, ht name]
    constructor
    · rintro (rfl | ⟨e, he, rfl⟩)
      · exact ⟨_, (mem_entries_add hfound).mpr (.inl rfl), rfl⟩
      · exact ⟨e, (mem_entries_add hfound).mpr (.inr he), rfl⟩
    · rintro ⟨e, he, rfl⟩
      rcases (mem_entries_add hfound).mp he with rfl | he
      · exact .inl rfl
      · exact .inr ⟨e, he, rfl⟩

/-- Names and entries are in step after every history of registrations. -/
theorem inStep_registered (style : IdentifierStyle) (history : List (Registration α)) :
    (registered style history).InStep := by
  induction history using List.reverseRecOn with
  | nil => simp [InStep, empty]
  | append_singleton history r ih =>
    rw [registered_append_singleton]
    exact ih.add r

/-- The display name of an id is that of an entry. -/
theorem mem_map_name_of_name? {t : SymbolTable α} {id name : String}
    (hname : t.name? id = some name) : name ∈ t.entries.map (·.name) := by
  obtain ⟨e, hfound, rfl⟩ := Option.map_eq_some_iff.mp hname
  exact List.mem_map_of_mem (List.mem_of_find?_eq_some hfound)

/-- The display name of an id is taken. -/
theorem InStep.mem_names_of_name? {t : SymbolTable α} (ht : t.InStep) {id name : String}
    (hname : t.name? id = some name) : name ∈ t.names :=
  (ht name).mpr (List.mem_map.mp (mem_map_name_of_name? hname))

/-- No name that a history gives out begins with a digit. -/
theorem startsWithDigit_of_mem_names {style : IdentifierStyle} {history : List (Registration α)}
    {name : String} (hname : name ∈ (registered style history).names) :
    startsWithDigit name = false := by
  induction history using List.reverseRecOn with
  | nil => simp [empty] at hname
  | append_singleton history r ih =>
    rw [registered_append_singleton] at hname
    cases hfound : (registered style history).find? r.id with
    | some e => exact ih (by rwa [add_of_find? hfound] at hname)
    | none =>
      rcases (mem_names_add hfound).mp hname with rfl | hname
      · exact startsWithDigit_guardDigit _
      · exact ih hname

/-- One of some ids, if it is new, gets the name of another one exactly when its registration
clashes: unless a leading digit is guarded, the name has been searched for, and what begins with a
digit is free without a search. -/
theorem displayName_taken_iff {t : SymbolTable α} {ids : Set String} {r : Registration α}
    (ht : t.InStep) (hdigits : ∀ name ∈ t.names, startsWithDigit name = false) (hid : r.id ∈ ids)
    (hnew : t.contains r.id = false) :
    (∃ other ∈ ids, t.name? other = some (displayName t.style t.names r.source)) ↔
      t.ClashesAmong ids r := by
  cases hdigit : startsWithDigit (baseName t.style r.source) with
  | true =>
    rw [displayName_of_startsWithDigit hdigits hdigit]
    simp [ClashesAmong, hid, hnew, hdigit]
  | false =>
    rw [displayName_of_not_startsWithDigit hdigit]
    constructor
    · rintro ⟨other, -, hother⟩
      exact absurd (ht.mem_names_of_name? hother) (freeName_not_mem _ _)
    · rintro ⟨-, -, htrue, -⟩
      rw [hdigit] at htrue
      cases htrue

/-- Whether the names of some ids are distinct is a matter of these names alone. -/
theorem namesDistinctOn_congr {s t : SymbolTable α} {ids : Set String}
    (h : ∀ id ∈ ids, s.name? id = t.name? id) : s.NamesDistinctOn ids ↔ t.NamesDistinctOn ids := by
  constructor
  · intro hdistinct i hi j hj name hni hnj
    exact hdistinct i hi j hj name ((h i hi).trans hni) ((h j hj).trans hnj)
  · intro hdistinct i hi j hj name hni hnj
    exact hdistinct i hi j hj name ((h i hi).symm.trans hni) ((h j hj).symm.trans hnj)

/-- The registration of a new id among some keeps their names distinct exactly when none of them has
its display name. -/
theorem namesDistinctOn_add_of_find?_none {t : SymbolTable α} {ids : Set String}
    {r : Registration α} (hid : r.id ∈ ids) (hfound : t.find? r.id = none) :
    (t.add r).NamesDistinctOn ids ↔ t.NamesDistinctOn ids ∧
      ¬∃ other ∈ ids, t.name? other = some (displayName t.style t.names r.source) := by
  have hself : (t.add r).name? r.id = some (displayName t.style t.names r.source) := by
    simp [name?_add, hfound]
  have hrest : ∀ id, r.id ≠ id → (t.add r).name? id = t.name? id := by
    intro id hne
    simp [name?_add, hne]
  have hnone : t.name? r.id = none := by simp [name?, hfound]
  constructor
  · intro hdistinct
    refine ⟨fun i hi j hj name hni hnj => ?_, ?_⟩
    · exact hdistinct i hi j hj name (name?_add_of_name? r hni) (name?_add_of_name? r hnj)
    · rintro ⟨other, hother, hname⟩
      obtain rfl := hdistinct other hother r.id hid _ (name?_add_of_name? r hname) hself
      rw [hnone] at hname
      cases hname
  · rintro ⟨hdistinct, hfree⟩ i hi j hj name hni hnj
    by_cases hri : r.id = i <;> by_cases hrj : r.id = j
    · exact hri.symm.trans hrj
    · subst hri
      rw [hself] at hni
      rw [hrest j hrj, ← hni] at hnj
      exact absurd ⟨j, hj, hnj⟩ hfree
    · subst hrj
      rw [hself] at hnj
      rw [hrest i hri, ← hnj] at hni
      exact absurd ⟨i, hi, hni⟩ hfree
    · rw [hrest i hri] at hni
      rw [hrest j hrj] at hnj
      exact hdistinct i hi j hj name hni hnj

/-- One more registration keeps the names of some ids distinct exactly when it does not clash among
them. -/
theorem namesDistinctOn_add_iff {t : SymbolTable α} {ids : Set String} {r : Registration α}
    (ht : t.InStep) (hdigits : ∀ name ∈ t.names, startsWithDigit name = false) :
    (t.add r).NamesDistinctOn ids ↔ t.NamesDistinctOn ids ∧ ¬t.ClashesAmong ids r := by
  by_cases hid : r.id ∈ ids
  · cases hfound : t.find? r.id with
    | some e =>
      have hknown : ¬t.ClashesAmong ids r := by
        rintro ⟨-, hnew, -⟩
        simp [contains, hfound] at hnew
      simp [add_of_find? hfound, hknown]
    | none =>
      rw [namesDistinctOn_add_of_find?_none hid hfound,
        displayName_taken_iff ht hdigits hid (contains_eq_false_iff.mpr hfound)]
  · -- another id is registered, which changes the names of none of these
    have hnone : ¬t.ClashesAmong ids r := fun hclash => hid hclash.1
    rw [and_iff_left hnone]
    refine namesDistinctOn_congr fun i hi => ?_
    rw [name?_add, if_neg]
    rintro ⟨-, rfl⟩
    exact hid hi

/-- The last registration of a history clashes, or one before it does. -/
theorem hasClashAmong_append_singleton {style : IdentifierStyle} {ids : Set String}
    {history : List (Registration α)} {r : Registration α} :
    HasClashAmong style ids (history ++ [r]) ↔
      HasClashAmong style ids history ∨ (registered style history).ClashesAmong ids r := by
  constructor
  · rintro ⟨before, s, after, heq, hclash⟩
    rcases List.eq_nil_or_concat after with rfl | ⟨rest, last, rfl⟩
    · obtain ⟨rfl, hrs⟩ := List.append_inj' heq rfl
      rw [List.singleton_inj.mp hrs]
      exact .inr hclash
    · rw [List.concat_eq_append, ← List.cons_append, ← List.append_assoc] at heq
      exact .inl ⟨before, s, rest, (List.append_inj' heq rfl).1, hclash⟩
  · rintro (⟨before, s, after, rfl, hclash⟩ | hclash)
    · exact ⟨before, s, after ++ [r], by simp, hclash⟩
    · exact ⟨history, r, [], rfl, hclash⟩

/-- After a history of registrations the names of some ids are distinct exactly when none of these
clashed with another. -/
theorem namesDistinctOn_registered_iff (style : IdentifierStyle) (ids : Set String)
    (history : List (Registration α)) :
    (registered style history).NamesDistinctOn ids ↔ ¬HasClashAmong style ids history := by
  induction history using List.reverseRecOn with
  | nil =>
    refine ⟨fun _ => ?_, fun _ i _ j _ name hi _ => ?_⟩
    · rintro ⟨before, r, after, heq, -⟩
      simp at heq
    · simp [name?] at hi
  | append_singleton history r ih =>
    rw [registered_append_singleton,
      namesDistinctOn_add_iff (inStep_registered style history)
        (fun _ => startsWithDigit_of_mem_names), ih, hasClashAmong_append_singleton, not_or]

/-- After a history of registrations the names are distinct exactly when none of them clashed. -/
theorem namesDistinct_registered_iff (style : IdentifierStyle)
    (history : List (Registration α)) :
    (registered style history).NamesDistinct ↔ ¬HasClash style history := by
  rw [← namesDistinctOn_univ, namesDistinctOn_registered_iff, hasClashAmong_univ]

/-! ## The keys of an enum -/

/-- The registrations that give some labels their keys. -/
def labelHistory (labels : List String) : List (Registration Unit) :=
  labels.map fun label => { id := label, source := label, symbol := () }

/-- A registration gives out the display name that its id has afterwards. -/
theorem name?_add_self (t : SymbolTable α) (r : Registration α) :
    (t.add r).name? r.id = some (t.registerAs r.id r.source r.symbol).1 := by
  cases hfound : t.find? r.id with
  | some e => simp [add, registerAs_of_find? hfound, name?, hfound]
  | none => simp [name?_add, hfound, registerAs_of_find?_none hfound]

/-- A display name that has been given out stays through a history. -/
theorem name?_foldl_add_of_name? {t : SymbolTable α} {id name : String}
    (history : List (Registration α)) (hname : t.name? id = some name) :
    (history.foldl add t).name? id = some name := by
  induction history generalizing t with
  | nil => exact hname
  | cons r history ih => exact ih (name?_add_of_name? r hname)

/-- The ids with a display name are those that have been registered. -/
theorem name?_registered_isSome_iff {style : IdentifierStyle} {history : List (Registration α)}
    {id : String} :
    ((registered style history).name? id).isSome = true ↔ id ∈ history.map (·.id) := by
  induction history using List.reverseRecOn with
  | nil => simp [name?]
  | append_singleton history r ih =>
    rw [registered_append_singleton, name?_add, List.map_append, List.mem_append, ← ih]
    by_cases hid : r.id = id
    · cases hfound : (registered style history).find? r.id <;> simp [name?, ← hid, hfound]
    · simp [hid, Ne.symm hid]

/-- The key of a label is the display name that the label has in the end. -/
theorem map_key_enumMembersFrom (t : SymbolTable Unit) (labels : List String) :
    (enumMembersFrom t labels).map (some ·.key) =
      labels.map ((labelHistory labels).foldl add t).name? := by
  induction labels generalizing t with
  | nil => rfl
  | cons label labels ih =>
    have hself := name?_add_self t { id := label, source := label, symbol := () }
    rw [enumMembersFrom, List.map_cons, List.map_cons]
    congr 1
    · exact (name?_foldl_add_of_name? _ hself).symm
    · exact ih _

/-- The keys of an enum are distinct exactly when its labels are and no label clashes. -/
theorem nodup_enumKeys_iff (style : IdentifierStyle) (labels : List String) :
    ((enumMembers style labels).map (·.key)).Nodup ↔
      labels.Nodup ∧ ¬HasClash style (labelHistory labels) := by
  let t := registered style (labelHistory labels)
  have hkeys : (enumMembers style labels).map (some ·.key) = labels.map t.name? :=
    map_key_enumMembersFrom _ _
  have hlabels : ∀ id, (t.name? id).isSome = true ↔ id ∈ labels := by
    intro id
    rw [name?_registered_isSome_iff]
    simp [labelHistory, Function.comp_def]
  have hsome : ((enumMembers style labels).map (·.key)).Nodup ↔ (labels.map t.name?).Nodup := by
    rw [← hkeys, ← List.nodup_map_iff (fun _ _ => Option.some.inj), List.map_map]
    rfl
  rw [hsome, ← namesDistinct_registered_iff]
  constructor
  · intro hnodup
    have hdistinct := hnodup.of_map
    refine ⟨hdistinct, fun i j name hi hj => ?_⟩
    have himem : i ∈ labels := (hlabels i).mp (by simp [t, hi])
    have hjmem : j ∈ labels := (hlabels j).mp (by simp [t, hj])
    exact (List.nodup_map_iff_inj_on hdistinct).mp hnodup i himem j hjmem (hi.trans hj.symm)
  · rintro ⟨hdistinct, hnames⟩
    refine (List.nodup_map_iff_inj_on hdistinct).mpr fun i hi j _ heq => ?_
    obtain ⟨name, hname⟩ := Option.isSome_iff_exists.mp ((hlabels i).mpr hi)
    exact hnames i j name hname (heq ▸ hname)

/-- Display names tell the ids of a table apart, and keys the labels of an enum, exactly when no
registration of a new id finds the name it asks for, a name with a leading digit, already in use
with an underscore before it. -/
theorem names_distinct_iff_no_clash (style : IdentifierStyle) (history : List (Registration α))
    (labels : List String) :
    ((registered style history).NamesDistinct ↔ ¬HasClash style history) ∧
    (((enumMembers style labels).map (·.key)).Nodup ↔
      labels.Nodup ∧ ¬HasClash style (labelHistory labels)) :=
  ⟨namesDistinct_registered_iff style history, nodup_enumKeys_iff style labels⟩

/-- The ids `1` and `_1` get one display name in either style, so their enum has one key twice. -/
theorem names_of_guarded_digit_not_distinct :
    ¬(registered .pascal (labelHistory ["1", "_1"])).NamesDistinct ∧
    ¬(registered .screaming (labelHistory ["1", "_1"])).NamesDistinct ∧
    (enumMembers .pascal ["1", "_1"]).map (·.key) = ["_1", "_1"] ∧
    (enumMembers .screaming ["1", "_1"]).map (·.key) = ["_1", "_1"] := by
  have hpascal : (enumMembers .pascal ["1", "_1"]).map (·.key) = ["_1", "_1"] := by
    decide +kernel
  have hscreaming : (enumMembers .screaming ["1", "_1"]).map (·.key) = ["_1", "_1"] := by
    decide +kernel
  have hclash : ∀ style, (enumMembers style ["1", "_1"]).map (·.key) = ["_1", "_1"] →
      ¬(registered style (labelHistory ["1", "_1"])).NamesDistinct := by
    intro style hkeys hdistinct
    have hnodup := (nodup_enumKeys_iff style ["1", "_1"]).mpr
      ⟨by decide, (namesDistinct_registered_iff _ _).mp hdistinct⟩
    rw [hkeys] at hnodup
    exact absurd hnodup (by decide)
  exact ⟨hclash _ hpascal, hclash _ hscreaming, hpascal, hscreaming⟩

end TableTypes.SymbolTable
