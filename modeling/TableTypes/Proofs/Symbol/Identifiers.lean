import TableTypes.Proofs.Naming.Ascii
import TableTypes.Proofs.Symbol.DisplayText

/-!
# Display names as identifiers

What is put in place of other characters, what both styles make of it, the number behind a name that
is taken and the underscore before a leading digit: all of them keep to the characters of
identifiers. So a display name made from ASCII text is an identifier, whatever names are taken.
-/

namespace TableTypes.SymbolTable

open Naming Unicode TypeScript

/-- A character of ASCII that belongs to names may stand in an identifier. -/
theorem continuesIdentifier_of_isNameChar {c : Char} (hascii : c.toNat < 128)
    (hc : isNameChar c = true) : continuesIdentifier c = true := by
  rw [isNameChar, isAlphanumeric, isAlphabetic, isNumeric, if_pos hascii, if_pos hascii] at hc
  exact hc

/-- Digits may stand in an identifier. -/
theorem continuesIdentifier_of_isDigit {c : Char} (hc : c.isDigit = true) :
    continuesIdentifier c = true := by
  simp [continuesIdentifier, Char.isAlphanum, hc]

/-- A sanitized ASCII text continues an identifier. -/
theorem continues_sanitize {source : List Char} (hsource : Ascii source) :
    Continues (sanitize source) := by
  intro d hd
  obtain ⟨c, hc, rfl⟩ := List.mem_map.mp hd
  split
  · next hname => exact continuesIdentifier_of_isNameChar (hsource c hc) hname
  · decide

/-- The name that an ASCII text asks for continues an identifier. -/
theorem continues_baseName (style : IdentifierStyle) {source : String}
    (hsource : Ascii source.toList) : Continues (baseName style source).toList := by
  have hconverted := continues_convert style (continues_sanitize hsource)
  unfold baseName
  split
  · simp [continues_cons, show continuesIdentifier '_' = true by decide]
  · next cs hne => rwa [String.toList_ofList]

/-- The search for a free name adds digits only. -/
theorem continues_freeName (taken : List String) {base : String} (hbase : Continues base.toList) :
    Continues (freeName taken base).toList := by
  obtain ⟨digits, hdigits, hname⟩ := exists_digits_freeName taken base
  rw [hname]
  exact continues_append.mpr ⟨hbase, fun c hc => continuesIdentifier_of_isDigit (hdigits c hc)⟩

/-- A guarded name is an identifier if it has characters of identifiers only. -/
theorem isIdentifier_guardDigit {name : String} (hne : name ≠ "") (hname : Continues name.toList) :
    isIdentifier (guardDigit name).toList = true := by
  obtain ⟨c, rest, hchars⟩ := List.exists_cons_of_ne_nil (mt String.toList_eq_nil_iff.mp hne)
  rw [hchars] at hname
  obtain ⟨hc, hrest⟩ := continues_cons.mp hname
  rw [guardDigit_eq, startsWithDigit, hchars, List.head?_cons, Option.any_some]
  cases hdigit : c.isDigit with
  | true =>
    rw [if_pos rfl, String.toList_append, hchars]
    simp [isIdentifier, show startsIdentifier '_' = true by decide, hc, List.all_eq_true.mpr hrest]
  | false =>
    have hstart : startsIdentifier c = true := by
      simpa [startsIdentifier, continuesIdentifier, Char.isAlphanum, hdigit] using hc
    rw [if_neg (by simp), hchars]
    simp [isIdentifier, hstart, List.all_eq_true.mpr hrest]

/-- A display name made from ASCII text is an identifier, whatever names are taken. -/
theorem isIdentifier_displayName (style : IdentifierStyle) (taken : List String) {source : String}
    (hsource : Ascii source.toList) :
    isIdentifier (displayName style taken source).toList = true := by
  refine isIdentifier_guardDigit ?_ (continues_freeName taken (continues_baseName style hsource))
  obtain ⟨suffix, hname⟩ := exists_freeName_eq_append taken (baseName style source)
  rw [hname]
  intro hempty
  exact baseName_ne_empty style source (String.append_eq_empty_iff.mp hempty).1

/-- The display names of a table that has grown from none are identifiers if they are made from
ASCII texts. -/
theorem Grows.isIdentifier_of_mem_names {α : Type} {P : Registration α → Prop}
    {style : IdentifierStyle} {t : SymbolTable α} (ht : Grows P (empty style) t)
    (hsource : ∀ r, P r → Ascii r.source.toList) {name : String} (hname : name ∈ t.names) :
    isIdentifier name.toList = true := by
  obtain ⟨e, he, rfl⟩ := (ht.inStep name).mp hname
  obtain ⟨r, taken, hr, -, -, -, hdisplay⟩ :=
    ht.exists_displayName (find?_empty _ _) (ht.distinctIds.find?_eq_some_iff.mpr ⟨he, rfl⟩)
  rw [hdisplay]
  exact isIdentifier_displayName style taken (hsource r hr)

/-- The display names that a history of calls gives are identifiers if the sources are ASCII. -/
theorem isIdentifier_of_mem_names_registered {α : Type} {style : IdentifierStyle}
    {history : List (Registration α)} (hsources : ∀ r ∈ history, Ascii r.source.toList)
    {name : String} (hname : name ∈ (registered style history).names) :
    isIdentifier name.toList = true := by
  have hgrows : Grows (· ∈ history) (empty style) (registered style history) :=
    ⟨history, fun _ h => h, rfl⟩
  exact hgrows.isIdentifier_of_mem_names hsources hname

/-- The keys of an enum are identifiers if its labels are ASCII. -/
theorem isIdentifier_enumKey {style : IdentifierStyle} {labels : List String}
    (hlabels : ∀ label ∈ labels, Ascii label.toList) {m : EnumMember}
    (hm : m ∈ enumMembers style labels) : isIdentifier m.key.toList = true := by
  have hkeys : (enumMembers style labels).map (some ·.key) =
      labels.map (registered style (labelHistory labels)).name? :=
    map_key_enumMembersFrom _ _
  have hkey : some m.key ∈ labels.map (registered style (labelHistory labels)).name? :=
    hkeys ▸ List.mem_map_of_mem hm
  obtain ⟨label, -, hname⟩ := List.mem_map.mp hkey
  refine isIdentifier_of_mem_names_registered ?_
    ((inStep_registered style _).mem_names_of_name? hname)
  intro r hr
  obtain ⟨label, hlabel, rfl⟩ := List.mem_map.mp hr
  exact hlabels label hlabel

end TableTypes.SymbolTable
