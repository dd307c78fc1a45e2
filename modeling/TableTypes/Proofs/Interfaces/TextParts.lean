import Mathlib.Data.List.TakeWhile
import TableTypes.Proofs.Interfaces.Renaming

/-!
# What display names leave alone

A type text consists of names and of what stands between them. Where display names are put in, the
names that follow no dot are replaced one by one, and everything else stays in its place. In a table
where each symbol has its id as its display name, putting in display names changes nothing at all.
-/

namespace TableTypes

open TypeScript SymbolTable

variable {s : Symbols} {params : List String}

/-! ## Names that are shown as they are -/

/-- Each symbol that is referred to by its display name has its id as its display name. -/
def SymbolTable.ShowsIds (symbols : Symbols) : Prop :=
  ∀ id e, symbols.find? id = some e → e.symbol.isRenamed = true → e.name = id

/-- Where the ids are the display names, each name stays. -/
theorem SymbolTable.ShowsIds.keepsName (h : s.ShowsIds) (params : List String) (name : String) :
    s.KeepsName params name := by
  unfold KeepsName rename?
  split
  · rfl
  · cases hfound : s.find? name with
    | none => rfl
    | some e =>
      cases hrenamed : e.symbol.isRenamed with
      | false => simp [hrenamed]
      | true => simpa [hrenamed] using h name e hfound hrenamed

/-! ## Texts in parts -/

/-- A text is rewritten name by name: each name that follows no dot is replaced by what is shown for
it. A name is as long as it can be; what stands before it, a name behind a dot, and what stands behind
the last name are kept. -/
inductive NamesReplaced (shown : List Char → List Char) : List Char → List Char → Prop
  | rest {gap : List Char} (hgap : ∀ c ∈ gap, isNameChar c = false) : NamesReplaced shown gap gap
  | name {gap name text written : List Char} (hgap : ∀ c ∈ gap, isNameChar c = false)
    (hname : ∀ c ∈ name, isNameChar c = true) (hne : name ≠ [])
    (hends : ∀ c ∈ text.head?, isNameChar c = false) (hrest : NamesReplaced shown text written) :
    NamesReplaced shown (gap ++ name ++ text)
      (gap ++ (if gap.getLast? = some '.' then name else shown name) ++ written)

/-- A text has no name, or a first one with an end. -/
theorem exists_first_name (text : List Char) :
    (∀ c ∈ text, isNameChar c = false) ∨
      ∃ gap name rest, text = gap ++ name ++ rest ∧ (∀ c ∈ gap, isNameChar c = false) ∧
        (∀ c ∈ name, isNameChar c = true) ∧ name ≠ [] ∧
        ∀ c ∈ rest.head?, isNameChar c = false := by
  induction text with
  | nil => exact .inl (List.forall_mem_nil _)
  | cons c text ih =>
    cases hc : isNameChar c with
    | false =>
      refine ih.imp (fun hall => List.forall_mem_cons.mpr ⟨hc, hall⟩) ?_
      rintro ⟨gap, name, rest, rfl, hgap, hname⟩
      exact ⟨c :: gap, name, rest, rfl, List.forall_mem_cons.mpr ⟨hc, hgap⟩, hname⟩
    | true =>
      refine .inr ⟨[], c :: text.takeWhile isNameChar, text.dropWhile isNameChar, by simp,
        List.forall_mem_nil _, List.forall_mem_cons.mpr ⟨hc, fun d hd => List.mem_takeWhile_imp hd⟩,
        List.cons_ne_nil _ _, fun d hd => ?_⟩
      have hhead := List.head?_dropWhile_not isNameChar text
      rw [Option.mem_def.mp hd] at hhead
      exact hhead

/-- Every text can be rewritten name by name. -/
theorem exists_namesReplaced (shown : List Char → List Char) (text : List Char) :
    ∃ written, NamesReplaced shown text written := by
  induction hlength : text.length using Nat.strongRecOn generalizing text with
  | ind n ih =>
    rcases exists_first_name text with hall | ⟨gap, name, rest, rfl, hgap, hname, hne, hends⟩
    · exact ⟨text, .rest hall⟩
    · have hshorter : rest.length < n := by
        have := List.length_pos_iff.mpr hne
        simp only [List.length_append] at hlength
        omega
      obtain ⟨written, hrest⟩ := ih rest.length hshorter rest rfl
      exact ⟨_, .name hgap hname hne hends hrest⟩

/-! ## Display names in type text -/

/-- What a name is replaced by where it follows no dot: its display name, or itself if it has none. -/
def SymbolTable.shown (symbols : Symbols) (params : List String) (name : List Char) : List Char :=
  ((symbols.rename? params (String.ofList name)).getD (String.ofList name)).toList

/-- Characters that belong to no name are written as they are. `previous` is the character before
them. -/
theorem renameTextFrom_append_gap {gap : List Char} (hgap : ∀ c ∈ gap, isNameChar c = false)
    (previous : Option Char) (text : List Char) :
    renameTextFrom s params (previous = some '.') [] (gap ++ text) =
      gap ++ renameTextFrom s params (gap.getLast?.or previous = some '.') [] text := by
  induction gap generalizing previous with
  | nil => rfl
  | cons c gap ih =>
    obtain ⟨hc, hgap⟩ := List.forall_mem_cons.mp hgap
    have hrest := ih hgap (some c)
    simp only [Option.some.injEq] at hrest
    have hlast : (c :: gap).getLast?.or previous = gap.getLast?.or (some c) := by
      cases hgap' : gap.getLast? <;> simp [List.getLast?_cons, hgap']
    rw [List.cons_append, renameTextFrom, if_neg (by simp [hc]), hlast]
    simp [hrest]

/-- A name is read to its end before it is written. -/
theorem renameTextFrom_append_name {name text : List Char}
    (hname : ∀ c ∈ name, isNameChar c = true) (hne : name ≠ [])
    (hends : ∀ c ∈ text.head?, isNameChar c = false) (dot : Bool) :
    renameTextFrom s params dot [] (name ++ text) =
      renameWord s params dot name ++ renameTextFrom s params false [] text := by
  have hread : ∀ word, renameTextFrom s params dot word (name ++ text) =
      renameTextFrom s params dot (name.reverse ++ word) text := by
    clear hne
    induction name with
    | nil => simp
    | cons c name ih =>
      obtain ⟨hc, hname⟩ := List.forall_mem_cons.mp hname
      intro word
      rw [List.cons_append, renameTextFrom, if_pos hc, ih hname]
      simp
  rw [hread, List.append_nil]
  cases text with
  | nil => simp [renameTextFrom, hne]
  | cons c text => simp [renameTextFrom, hends c rfl, hne]

/-- Putting in display names rewrites a text name by name. -/
theorem NamesReplaced.renameTextFrom_eq {text written : List Char}
    (h : NamesReplaced (s.shown params) text written) :
    renameTextFrom s params false [] text = written := by
  have hgap_dot {gap : List Char} (hgap : ∀ c ∈ gap, isNameChar c = false) (text : List Char) :
      renameTextFrom s params false [] (gap ++ text) =
        gap ++ renameTextFrom s params (gap.getLast? = some '.') [] text := by
    simpa using renameTextFrom_append_gap hgap none text
  induction h with
  | @rest gap hgap =>
    have hrest := hgap_dot hgap []
    simpa [renameTextFrom] using hrest
  | @name gap name text written hgap hname hne hends _ ih =>
    rw [List.append_assoc, hgap_dot hgap, renameTextFrom_append_name hname hne hends, ih,
      List.append_assoc]
    by_cases hdot : gap.getLast? = some '.'
    · simp [hdot, renameWord_afterDot]
    · simp [hdot, renameWord_of_not_afterDot, shown]

/-- Putting in display names rewrites a text name by name, and in no other way. -/
theorem eq_renameText_iff (symbols : Symbols) (params : List String) (text written : String) :
    written = renameText symbols params text ↔
      NamesReplaced (symbols.shown params) text.toList written.toList := by
  constructor
  · rintro rfl
    obtain ⟨written, h⟩ := exists_namesReplaced (symbols.shown params) text.toList
    rwa [renameText, String.toList_ofList, h.renameTextFrom_eq]
  · intro h
    rw [renameText, h.renameTextFrom_eq, String.ofList_toList]

/-- A name stays where a dot stands before it, and all else that is no name. -/
example :
    let symbols : Symbols :=
      { style := .pascal
        entries := [⟨"Json", "Json2", .imported { path := "./json", exported := none }⟩]
        names := ["Json2"] }
    renameText symbols [] "Array<Json | v1.Json>" = "Array<Json2 | v1.Json>" := by
  cbv

/-- **Display names are put in for names and nothing else.** Where each symbol has its id as its
display name, every type expression stays as it is. In every table, the text made from a type text is
the one that has, for each name that follows no dot, its display name in its place; the characters
that belong to no name and the names behind a dot are kept where they stand. -/
theorem names_replaced_in_place (symbols : Symbols) (params : List String) :
    (symbols.ShowsIds → ∀ e : TypeExpr, e.rename symbols params = e) ∧
    ∀ text written : String, written = renameText symbols params text ↔
      NamesReplaced (symbols.shown params) text.toList written.toList := by
  refine ⟨fun h e => ?_, eq_renameText_iff symbols params⟩
  exact TypeExpr.rename_eq_self_of_keepsName fun n _ => h.keepsName params n

/-- A table is displayed under another name than its id and an import under its own: a type with both
names in it stays. -/
theorem names_replaced_in_place_of_own_names :
    let symbols : Symbols :=
      { style := .pascal
        entries :=
          [⟨"Json", "Json", .imported { path := "./json", exported := none }⟩,
            ⟨"kind", "Kind", .table⟩]
        names := ["Kind", "Json"] }
    let e : TypeExpr :=
      .conditional "kind.Json" (.array (.named "Json")) (.raw "Json | kind") (.generic "Json" [])
    symbols.ShowsIds ∧ e.rename symbols ["T"] = e := by
  intro symbols e
  have hids : symbols.ShowsIds := by
    intro id e hfound hrenamed
    have hid : e.id = id := by simpa using List.find?_some hfound
    have hentry := List.mem_of_find?_eq_some hfound
    simp only [symbols, List.mem_cons, List.not_mem_nil, or_false] at hentry
    rcases hentry with rfl | rfl
    · exact hid
    · cases hrenamed
  exact ⟨hids, (names_replaced_in_place symbols ["T"]).1 hids e⟩

end TableTypes
