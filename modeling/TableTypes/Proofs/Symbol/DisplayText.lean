import TableTypes.Interfaces.Rename
import TableTypes.Proofs.Symbol.Growth
import TableTypes.Proofs.Unicode.CaseMap

/-!
# Display names and the names they are made from

A display name that begins with the name it is made from is this name with a number behind it. Camel
case drops the underscores and puts no others in, and what it makes a capital is another character
or the same one alone, so it shows within the name whether anything has been changed.
-/

namespace TableTypes.Unicode

/-- No other character has an underscore in its upper case. -/
theorem avoids_underscore : Avoids '_'.toNat '_'.toNat upperShifts upperExpansions := by
  unfold Avoids
  decide +kernel

/-- An underscore is in the upper case of itself only. -/
theorem eq_of_underscore_mem_toUpper {c : Char} (h : '_' ∈ toUpper c) : c = '_' := by
  unfold toUpper at h
  split at h
  · next hc =>
    exact of_forall_ascii (P := fun c => '_' ∈ [c.toUpper] → c = '_') (by decide) hc h
  · rcases eq_or_outside_of_mem_mapCase (by decide) avoids_underscore h with rfl | h
    · rfl
    · exact absurd h (by decide)

/-- No expansion begins with the character that is expanded. -/
theorem upperExpansions_change :
    ∀ p ∈ upperExpansions, (p.2.head?.map Char.ofNat).all fun c => c.toNat ≠ p.1 := by
  decide +kernel

/-- A character that its upper case begins with is its own upper case. -/
theorem toUpper_of_head? {c : Char} (h : (toUpper c).head? = some c) : toUpper c = [c] := by
  unfold toUpper mapCase at h ⊢
  split
  · next hc =>
    rw [if_pos hc] at h
    simpa using h
  · next hc =>
    rw [if_neg hc] at h
    split
    · next n hshift =>
      rw [hshift] at h
      simpa using h
    · next hshift =>
      rw [hshift] at h
      split
      · next ns hlookup =>
        rw [hlookup] at h
        obtain ⟨before, after, heq, -⟩ := List.lookup_eq_some_iff.mp hlookup
        have hchange := upperExpansions_change (c.toNat, ns) (by simp [heq])
        rw [← List.head?_map, h] at hchange
        simp at hchange
      · rfl

/-- A digit is its own upper case. -/
theorem toUpper_of_isDigit {c : Char} (h : c.isDigit = true) : toUpper c = [c] := by
  have hascii := toNat_lt_of_isDigit h
  rw [toUpper, if_pos hascii,
    of_forall_ascii (P := fun c => c.isDigit = true → c.toUpper = c) (by decide) hascii h]

end TableTypes.Unicode

namespace TableTypes.Naming

open Unicode

variable {cs rest x y : List Char}

/-- Camel case has no underscores. -/
theorem underscore_notMem_camelFrom (after : Bool) (cs : List Char) : '_' ∉ camelFrom after cs := by
  induction cs generalizing after with
  | nil => exact List.not_mem_nil
  | cons c cs ih =>
    rw [camelFrom]
    split
    · exact ih true
    · next hc =>
      intro hmem
      rcases List.mem_append.mp hmem with hmem | hmem
      · split at hmem
        · exact hc (eq_of_underscore_mem_toUpper hmem)
        · exact hc (List.mem_singleton.mp hmem).symm
      · exact ih false hmem

/-- A name in camel case with a capital has no underscore. -/
theorem underscore_notMem_camelPascalCase (cs : List Char) : '_' ∉ camelPascalCase cs := by
  have hcamel : '_' ∉ camelCase cs := underscore_notMem_camelFrom false cs
  unfold camelPascalCase
  split
  · exact List.not_mem_nil
  · next c rest heq =>
    rw [heq] at hcamel
    obtain ⟨hc, hrest⟩ := List.ne_and_not_mem_of_not_mem_cons hcamel
    intro hmem
    rcases List.mem_append.mp hmem with hmem | hmem
    · exact hc (eq_of_underscore_mem_toUpper hmem).symm
    · exact hrest hmem

/-- A text that begins its own camel case has nothing changed in it. -/
theorem eq_of_camelFrom_append (hy : '_' ∉ y) (h : camelFrom false cs ++ y = cs ++ x) : y = x := by
  induction cs with
  | nil => simpa [camelFrom] using h
  | cons c cs ih =>
    rw [camelFrom] at h
    split at h
    · next hc =>
      have hmem : '_' ∈ camelFrom true cs ++ y := by
        rw [h, hc]
        exact List.mem_cons_self
      exact absurd hmem (List.not_mem_append (underscore_notMem_camelFrom true cs) hy)
    · exact ih (List.cons_inj_right c |>.mp h)

/-- A text that begins its own camel case with a capital has nothing changed in it. -/
theorem eq_of_camelPascalCase_append (hy : '_' ∉ y) (hne : camelPascalCase cs ≠ [])
    (h : camelPascalCase cs ++ y = cs ++ x) : y = x := by
  cases cs with
  | nil => exact absurd rfl hne
  | cons c cs =>
    have hc : c ≠ '_' := by
      rintro rfl
      have hmem : '_' ∈ camelPascalCase ('_' :: cs) ++ y := by
        rw [h]
        exact List.mem_cons_self
      exact List.not_mem_append (underscore_notMem_camelPascalCase _) hy hmem
    have hcamel : camelPascalCase (c :: cs) = toUpper c ++ camelFrom false cs := by
      simp [camelPascalCase, camelCase, camelFrom, hc]
    rw [hcamel, List.append_assoc] at h
    have hself : toUpper c = [c] := by
      refine toUpper_of_head? ?_
      have hhead := congrArg List.head? h
      rw [List.head?_append_of_ne_nil _ (toUpper_ne_nil c)] at hhead
      exact hhead
    rw [hself] at h
    exact eq_of_camelFrom_append hy (List.cons_inj_right c |>.mp h)

/-- The same behind an underscore, where a digit follows. -/
theorem eq_of_camelPascalCase_underscore_append {d : Char} (hy : '_' ∉ y)
    (hd : d ∈ (camelPascalCase ('_' :: cs)).head?) (hdigit : d.isDigit = true)
    (h : camelPascalCase ('_' :: cs) ++ y = cs ++ x) : y = x := by
  cases cs with
  | nil => cases hd
  | cons c cs =>
    have hc : c ≠ '_' := by
      rintro rfl
      have hmem : '_' ∈ camelPascalCase ('_' :: '_' :: cs) ++ y := by
        rw [h]
        exact List.mem_cons_self
      exact List.not_mem_append (underscore_notMem_camelPascalCase _) hy hmem
    obtain rfl : d = c := by
      have hhead := congrArg List.head? h
      rw [List.head?_append, Option.mem_def.mp hd] at hhead
      exact Option.some.inj hhead
    have hcamel : camelPascalCase ('_' :: d :: cs) = d :: camelFrom false cs := by
      simp [camelPascalCase, camelCase, camelFrom, hc, toUpper_of_isDigit hdigit]
    rw [hcamel] at h
    exact eq_of_camelFrom_append hy (List.cons_inj_right d |>.mp h)

end TableTypes.Naming

namespace TableTypes.SymbolTable

open Naming Unicode

variable {taken : List String} {w x : List Char}

/-- The name found is the base, perhaps with a number behind it. -/
theorem exists_digits_freeName (taken : List String) (base : String) :
    ∃ digits : List Char, (∀ c ∈ digits, c.isDigit = true) ∧
      (freeName taken base).toList = base.toList ++ digits := by
  unfold freeName
  split
  · obtain ⟨k, -, hname, -, -⟩ := numbered_spec taken base
    have hdigits : (toString k).toList = Nat.toDigits 10 k := Nat.toList_repr
    refine ⟨Nat.toDigits 10 k, fun c hc => ?_, ?_⟩
    · exact Nat.isDigit_of_mem_toDigits (by decide) (by decide) hc
    · rw [hname, String.toList_append, hdigits]
  · exact ⟨[], by simp, by simp⟩

/-- A text of name characters is asked for in camel case, or as an underscore if it has no others.
-/
theorem toList_baseName (hw : ∀ c ∈ w, isNameChar c = true) :
    (baseName .pascal (String.ofList w)).toList =
      if camelPascalCase w = [] then ['_'] else camelPascalCase w := by
  have hsanitize : sanitize w = w := by
    refine (List.map_congr_left fun c hc => ?_).trans (List.map_id w)
    exact if_pos (hw c hc)
  unfold baseName
  rw [String.toList_ofList, hsanitize]
  dsimp only [IdentifierStyle.convert]
  split
  · next hnil =>
    rw [if_pos hnil]
    rfl
  · next hne => rw [if_neg hne, String.toList_ofList]

/-- What a display name has behind the name that it is made from is a number. -/
theorem isDigit_of_displayName_eq_append (hne : w ≠ []) (hw : ∀ c ∈ w, isNameChar c = true)
    (h : (displayName .pascal taken (String.ofList w)).toList = w ++ x) :
    ∀ c ∈ x, c.isDigit = true := by
  obtain ⟨digits, hdigits, hfree⟩ :=
    exists_digits_freeName taken (baseName .pascal (String.ofList w))
  have hnone : '_' ∉ digits := fun hmem => absurd (hdigits _ hmem) (by decide)
  have hbase := toList_baseName hw
  rw [displayName, guardDigit_eq, startsWithDigit_freeName taken (baseName_ne_empty _ _)] at h
  by_cases hguard : startsWithDigit (baseName .pascal (String.ofList w)) = true
  · -- The guard stands for an underscore that the name begins with, and a digit follows it.
    rw [if_pos hguard, String.toList_append, hfree] at h
    rw [startsWithDigit, Option.any_eq_true] at hguard
    obtain ⟨d, hd, hdigit⟩ := hguard
    obtain ⟨c, w, rfl⟩ := List.exists_cons_of_ne_nil hne
    obtain ⟨rfl, h⟩ : '_' = c ∧ _ := List.cons_eq_cons.mp h
    split at hbase
    · rw [hbase, List.head?_cons, Option.some.injEq] at hd
      rw [← hd] at hdigit
      exact absurd hdigit (by decide)
    · rw [hbase] at h hd
      rw [← eq_of_camelPascalCase_underscore_append hnone hd hdigit h]
      exact hdigits
  · rw [if_neg hguard, hfree, hbase] at h
    split at h
    · -- Nothing is left of the name but an underscore, so all behind the first one is the number.
      obtain ⟨c, w, rfl⟩ := List.exists_cons_of_ne_nil hne
      have hrest : digits = w ++ x := (List.cons_eq_cons.mp h).2
      exact fun c hc => hdigits c (hrest ▸ List.mem_append_right w hc)
    · next hcamel =>
      rw [← eq_of_camelPascalCase_append hnone hcamel h]
      exact hdigits

end TableTypes.SymbolTable
