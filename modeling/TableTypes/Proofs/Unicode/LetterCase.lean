import TableTypes.Proofs.Unicode.Lowercase
import TableTypes.Unicode.Alphanumeric
import TableTypes.Unicode.LetterCase

/-!
# Small and capital letters

No character is a small and a capital letter at once, a small letter is a letter, and digits have no
case.
-/

namespace TableTypes.Unicode

/-! ## The tables -/

/-- A run that moves nothing: its images are its own code points. -/
def Span.inPlace (t : Span) : Shift := ⟨t, t.first⟩

/-- No span of small letters meets one of capitals, as both lie apart or alternate. -/
theorem lowercaseSpans_miss_uppercaseSpans :
    (lowercaseSpans.all fun t => uppercaseSpans.all fun u => t.inPlace.misses u) = true := by
  decide +kernel

/-- Each span of small letters lies in an unbroken span of letters. -/
theorem lowercaseSpans_within_alphabeticSpans :
    (lowercaseSpans.all fun t => alphabeticSpans.any fun u =>
      Nat.ble u.first t.first && Nat.ble t.last u.last && u.step == 1) = true := by
  decide +kernel

/-! ## Characters -/

/-- A small letter is not a capital. -/
theorem isUppercase_of_isLowercase {c : Char} (hc : isLowercase c = true) :
    isUppercase c = false := by
  by_cases hascii : c.toNat < 128
  · rw [isLowercase, if_pos hascii] at hc
    rw [isUppercase, if_pos hascii]
    exact of_forall_ascii (P := fun c => c.isLower = true → c.isUpper = false) (by decide) hascii hc
  · rw [isLowercase, if_neg hascii] at hc
    rw [isUppercase, if_neg hascii]
    obtain ⟨t, ht, hcontains⟩ := List.any_eq_true.mp hc
    refine List.any_eq_false.mpr fun u hu => ?_
    have hmisses : t.inPlace.misses u = true :=
      List.all_eq_true.mp (List.all_eq_true.mp lowercaseSpans_miss_uppercaseSpans t ht) u hu
    have hother := Shift.not_contains_of_misses hmisses hcontains
    have hplace : t.first + (c.toNat - t.first) = c.toNat := by
      simp only [Span.contains, Bool.and_eq_true, decide_eq_true_eq] at hcontains
      omega
    rw [Span.inPlace, hplace] at hother
    exact Bool.eq_false_iff.mp hother

/-- A small letter is a letter. -/
theorem isAlphanumeric_of_isLowercase {c : Char} (hc : isLowercase c = true) :
    isAlphanumeric c = true := by
  rw [isAlphanumeric, Bool.or_eq_true]
  left
  by_cases hascii : c.toNat < 128
  · rw [isLowercase, if_pos hascii] at hc
    rw [isAlphabetic, if_pos hascii]
    exact of_forall_ascii (P := fun c => c.isLower = true → c.isAlpha = true) (by decide) hascii hc
  · rw [isLowercase, if_neg hascii] at hc
    rw [isAlphabetic, if_neg hascii]
    obtain ⟨t, ht, hcontains⟩ := List.any_eq_true.mp hc
    obtain ⟨u, hu, hwithin⟩ :=
      List.any_eq_true.mp (List.all_eq_true.mp lowercaseSpans_within_alphabeticSpans t ht)
    refine List.any_eq_true.mpr ⟨u, hu, ?_⟩
    simp only [Bool.and_eq_true, Nat.ble_eq, beq_iff_eq] at hwithin
    simp only [Span.contains, Bool.and_eq_true, decide_eq_true_eq, beq_iff_eq] at hcontains ⊢
    obtain ⟨⟨hfirst, hlast⟩, hstep⟩ := hwithin
    refine ⟨⟨by omega, by omega⟩, ?_⟩
    rw [hstep, Nat.mod_one]

/-- Digits have no case. -/
theorem isLowercase_of_isDigit {c : Char} (hc : c.isDigit = true) : isLowercase c = false := by
  have hascii := toNat_lt_of_isDigit hc
  rw [isLowercase, if_pos hascii]
  exact of_forall_ascii (P := fun c => c.isDigit = true → c.isLower = false) (by decide) hascii hc

end TableTypes.Unicode
