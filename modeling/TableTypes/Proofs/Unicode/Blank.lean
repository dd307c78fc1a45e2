import TableTypes.Unicode.Alphanumeric
import TableTypes.Unicode.Blank

/-!
# Blanks

Blanks are few, so what holds of all of them is found by trying each. Texts without blanks are not
changed by trimming.
-/

namespace TableTypes

/-- Nothing is dropped from a text without characters to drop. -/
theorem dropWhile_eq_self {p : Char → Bool} {cs : List Char} (h : ∀ c ∈ cs, p c = false) :
    cs.dropWhile p = cs := by
  cases cs with
  | nil => rfl
  | cons c cs => simp [h c List.mem_cons_self]

namespace Unicode

/-- What holds of all blanks by their code points holds of each. -/
theorem of_forall_blank {P : Char → Prop}
    (hall : ∀ s ∈ blankSpans, ∀ n ∈ List.range' s.first (s.last + 1 - s.first), P (Char.ofNat n))
    {c : Char} (hc : isBlank c = true) : P c := by
  obtain ⟨s, hs, hspan⟩ := List.any_eq_true.mp hc
  have hrange : c.toNat ∈ List.range' s.first (s.last + 1 - s.first) := by
    simp only [Span.contains, Bool.and_eq_true, decide_eq_true_eq] at hspan
    rw [List.mem_range'_1]
    omega
  exact Char.ofNat_toNat c ▸ hall s hs c.toNat hrange

/-- No letter or number is blank. -/
theorem isBlank_of_isAlphanumeric {c : Char} (hc : isAlphanumeric c = true) :
    isBlank c = false := by
  refine Bool.eq_false_iff.mpr fun hblank => ?_
  have hother : isAlphanumeric c = false :=
    of_forall_blank (P := fun c => isAlphanumeric c = false) (by decide +kernel) hblank
  rw [hc] at hother
  cases hother

/-- Nothing is trimmed off a text without blanks. -/
theorem trim_of_noBlank {cs : List Char} (h : ∀ c ∈ cs, isBlank c = false) :
    trim cs = cs := by
  have hreverse : ∀ c ∈ cs.reverse, isBlank c = false := by simpa using h
  rw [trim, dropWhile_eq_self h, trimEnd, dropWhile_eq_self hreverse, List.reverse_reverse]

/-- Nothing is trimmed off a text between two signs that are no blanks. -/
theorem trim_enclosed {q : Char} (hq : isBlank q = false) (cs : List Char) :
    trim (q :: (cs ++ [q])) = q :: (cs ++ [q]) := by
  simp [trim, trimEnd, hq]

end Unicode

end TableTypes
