import Mathlib.Data.List.Basic
import TableTypes.Proofs.Unicode.AsciiLetters
import TableTypes.Unicode.Fold

/-!
# Forms of small ASCII letters

A character that differs at most in case from a small ASCII letter is the letter, its capital, or
one of two characters beyond ASCII: the long `ſ` and the Kelvin sign.
-/

namespace TableTypes.Unicode

/-- The small ASCII letter that a character is a form of, or else the character itself. -/
def smallForm (c : Char) : Char :=
  if c = 'ſ' then 's' else if c = '\u212a' then 'k' else c.toLower

/-- The small form of an ASCII character is its lower case. -/
theorem smallForm_of_ascii {c : Char} (hc : c.toNat < 128) : smallForm c = c.toLower := by
  have hlong : c ≠ 'ſ' := by
    rintro rfl
    exact absurd hc (by decide)
  have hkelvin : c ≠ '\u212a' := by
    rintro rfl
    exact absurd hc (by decide)
  rw [smallForm, if_neg hlong, if_neg hkelvin]

/-- The two tables of other forms lead to no ASCII character, and a letter with more forms has only
those of one small ASCII letter, if it has any. -/
theorem foldTables_spec :
    (∀ s ∈ foldShifts, 128 ≤ s.target ∧ 128 ≤ s.span.first) ∧
      ∀ g ∈ foldGroups, ∀ n ∈ g, ∀ m ∈ g,
        (Char.ofNat m).isLower = true → smallForm (Char.ofNat n) = Char.ofNat m := by
  decide +kernel

/-- The letters that `Char.isLower` finds are of ASCII. -/
theorem toNat_lt_of_isLower {c : Char} (hc : c.isLower = true) : c.toNat < 128 :=
  toNat_lt_of_isAlpha (isAlpha_of_isLower hc)

/-- A code point beyond ASCII is no small ASCII letter. -/
theorem isLower_ofNat_of_le {n : ℕ} (hn : 128 ≤ n) : (Char.ofNat n).isLower = false := by
  by_contra h
  rw [Bool.not_eq_false] at h
  have hlt := toNat_lt_of_isLower h
  by_cases hvalid : n.isValidChar
  · rw [toNat_ofNat_of_isValidChar hvalid] at hlt
    omega
  · rw [Char.ofNat, dif_neg hvalid] at h
    exact absurd h (by decide)

/-- The other forms of a character that are small ASCII letters are the one it is a form of. -/
theorem smallForm_of_mem_otherForms {a b : Char} (hb : b.isLower = true) (h : b ∈ otherForms a) :
    smallForm a = b := by
  unfold otherForms at h
  split at h
  · next g hfound =>
    obtain ⟨m, hm, rfl⟩ := List.mem_map.mp h
    have ha : a.toNat ∈ g := by simpa using List.find?_some hfound
    have hform := foldTables_spec.2 g (List.mem_of_find?_eq_some hfound) a.toNat ha m
      (List.mem_of_mem_filter hm) hb
    rwa [Char.ofNat_toNat] at hform
  · split at h
    · next hupper =>
      have hascii : a.toNat < 128 := toNat_lt_of_isAlpha (isAlpha_of_isUpper hupper)
      rw [smallForm_of_ascii hascii, List.mem_singleton.mp h]
    · split at h
      · next hlower =>
        rw [List.mem_singleton.mp h] at hb
        have hcapital := of_forall_ascii
          (P := fun a => a.isLower = true → a.toUpper.isLower = false) (by decide)
          (toNat_lt_of_isLower hlower) hlower
        rw [hcapital] at hb
        cases hb
      · split at h
        · next n hshift =>
          obtain ⟨s, hs, rfl⟩ := Option.map_eq_some_iff.mp hshift
          have htarget := (foldTables_spec.1 s (List.mem_of_find?_eq_some hs)).1
          rw [List.mem_singleton.mp h, isLower_ofNat_of_le (by omega)] at hb
          cases hb
        · obtain ⟨n, hshift, rfl⟩ :
              ∃ n, unshift? foldShifts a.toNat = some n ∧ Char.ofNat n = b := by
            simpa using h
          obtain ⟨s, hs, rfl⟩ := Option.map_eq_some_iff.mp hshift
          have hfirst := (foldTables_spec.1 s (List.mem_of_find?_eq_some hs)).2
          rw [isLower_ofNat_of_le (by omega)] at hb
          cases hb

/-- Every form of a small ASCII letter differs from it at most in case. -/
theorem foldEq_smallForm {a : Char} (h : (smallForm a).isLower = true) :
    foldEq a (smallForm a) = true := by
  unfold smallForm at h ⊢
  split
  · next hlong =>
    rw [hlong]
    decide +kernel
  split
  · next hkelvin =>
    rw [hkelvin]
    decide +kernel
  · next hlong hkelvin =>
    rw [if_neg hlong, if_neg hkelvin] at h
    by_cases hascii : a.toNat < 128
    · exact of_forall_ascii
        (P := fun a => a.toLower.isLower = true → foldEq a a.toLower = true) (by decide +kernel)
        hascii h
    · have hself : a.toLower = a := by
        refine dif_neg fun hupper => hascii (toNat_lt_of_isAlpha (isAlpha_of_isUpper ?_))
        unfold Char.isUpper
        simpa using hupper
      rw [hself, foldEq, decide_eq_true rfl, Bool.true_or]

/-- The characters that differ from a small ASCII letter at most in case are its forms. -/
theorem foldEq_iff {a b : Char} (hb : b.isLower = true) : foldEq a b = true ↔ smallForm a = b := by
  constructor
  · intro h
    rw [foldEq, Bool.or_eq_true, decide_eq_true_eq, List.contains_iff_mem] at h
    rcases h with rfl | h
    · have hascii := toNat_lt_of_isLower hb
      rw [smallForm_of_ascii hascii]
      exact of_forall_ascii (P := fun b => b.isLower = true → b.toLower = b) (by decide) hascii hb
    · exact smallForm_of_mem_otherForms hb h
  · rintro rfl
    exact foldEq_smallForm hb

end TableTypes.Unicode
