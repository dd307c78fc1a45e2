import TableTypes.Proofs.Naming.Ascii
import TableTypes.Proofs.Unicode.CaseMap

/-!
# Where small ASCII letters come from

Two characters beyond ASCII have ASCII letters in their lower case: the Kelvin sign goes to `k`, and
the capital dotted `İ` to `i` with a dot above it. So an ASCII text without `k` that the lower case
of a text ends in is the lower case of as many ASCII characters at the end of the text itself,
although the two texts may differ in length before them.
-/

namespace TableTypes.Unicode

/-- No character but the Kelvin sign is moved to one of ASCII, and `İ` is the only one expanded. -/
theorem lowerTables_ascii :
    (∀ s ∈ lowerShifts, 128 ≤ s.target ∨
      s.span.first = '\u212a'.toNat ∧ s.span.last = '\u212a'.toNat ∧ s.target = 'k'.toNat) ∧
      lowerExpansions = [('İ'.toNat, ['i'.toNat, 0x307])] := by
  decide +kernel

/-- Only the Kelvin sign and `İ` have an ASCII letter in their lower case without being of ASCII. -/
theorem toLower_cases_of_isAlpha {c d : Char} (hc : ¬c.toNat < 128) (hd : d ∈ toLower c)
    (hletter : d.isAlpha = true) : toLower c = ['k'] ∨ toLower c = ['i', '\u0307'] := by
  have hascii := toNat_lt_of_isAlpha hletter
  rw [toLower, if_neg hc] at hd ⊢
  rcases mapCase_cases lowerShifts lowerExpansions c with
    ⟨s, hs, hspan, heq⟩ | ⟨ns, hns, heq⟩ | heq
  · simp only [Span.contains, Bool.and_eq_true, decide_eq_true_eq] at hspan
    rcases lowerTables_ascii.1 s hs with htarget | ⟨hfirst, hlast, htarget⟩
    · rw [heq, List.mem_singleton] at hd
      by_cases hvalid : (s.target + (c.toNat - s.span.first)).isValidChar
      · rw [hd, toNat_ofNat_of_isValidChar hvalid] at hascii
        omega
      · rw [hd, Char.ofNat, dif_neg hvalid] at hletter
        exact absurd hletter (by decide)
    · rw [show c.toNat - s.span.first = 0 by omega, htarget] at heq
      exact .inl heq
  · rw [lowerTables_ascii.2, List.mem_singleton] at hns
    rw [(Prod.mk.inj hns).2] at heq
    exact .inr heq
  · rw [heq, List.mem_singleton] at hd
    exact absurd (hd ▸ hascii) hc

/-- Small ASCII letters that stand at the end of a lower case only as that of their own letter. -/
def OwnSmall (c : Char) : Prop :=
  c.isLower = true ∧ c ≠ 'k'

instance (c : Char) : Decidable (OwnSmall c) :=
  inferInstanceAs (Decidable (_ ∧ _))

/-- Such a character is a letter. -/
theorem OwnSmall.isAlpha {c : Char} (hc : OwnSmall c) : c.isAlpha = true :=
  isAlpha_of_isLower hc.1

/-- If a lower case ends in such letters, it is that of an ASCII letter. -/
theorem eq_singleton_of_suffix_toLower {c : Char} {part : List Char} (hne : part ≠ [])
    (hpart : part <:+ toLower c) (hown : ∀ d ∈ part, OwnSmall d) :
    c.toNat < 128 ∧ part = [c.toLower] := by
  by_cases hc : c.toNat < 128
  · rw [toLower, if_pos hc] at hpart
    refine ⟨hc, hpart.eq_of_length ?_⟩
    have hle := hpart.length_le
    have hpos := List.length_pos_iff.mpr hne
    simp only [List.length_singleton] at hle ⊢
    omega
  · have hlast := hown _ (List.getLast_mem hne)
    rw [hpart.getLast hne] at hlast
    have hmem := List.getLast_mem (hpart.ne_nil hne)
    rcases toLower_cases_of_isAlpha hc hmem hlast.isAlpha with heq | heq
    · simp only [heq, List.getLast_singleton] at hlast
      exact absurd hlast (by decide)
    · simp only [heq, List.getLast_cons_cons, List.getLast_singleton] at hlast
      exact absurd hlast (by decide)

/-- The lower case of a text is not shorter than the text. -/
theorem length_le_length_lowerFrom (before cs : List Char) :
    cs.length ≤ (lowerFrom before cs).length := by
  induction cs generalizing before with
  | nil => exact Nat.le_refl 0
  | cons c cs ih =>
    have hpos : 0 < (toLower c).length := List.length_pos_iff.mpr (toLower_ne_nil c)
    have htail := ih (c :: before)
    rw [lowerFrom, List.length_append, List.length_cons]
    split
    · rw [List.length_singleton]
      omega
    · omega

/-- Such letters at the end of the lower case of a text are the lower case of ASCII letters at the
end of the text. -/
theorem exists_tail_of_suffix_lowerFrom {before name part : List Char}
    (hown : ∀ d ∈ part, OwnSmall d) (hpart : part <:+ lowerFrom before name) :
    ∃ front tail, name = front ++ tail ∧ Ascii tail ∧ tail.map Char.toLower = part := by
  induction name generalizing before part with
  | nil =>
    rw [List.suffix_nil.mp hpart]
    exact ⟨[], [], rfl, ascii_nil, rfl⟩
  | cons c rest ih =>
    rw [lowerFrom] at hpart
    rcases List.suffix_or_suffix_of_suffix hpart (List.suffix_append _ _) with h | ⟨lead, rfl⟩
    · obtain ⟨front, tail, rfl, htail⟩ := ih hown h
      exact ⟨c :: front, tail, rfl, htail⟩
    -- `part` holds the lower case of all of `rest`, and `lead` is the end of that of `c`
    obtain ⟨hlead, hrest⟩ := List.forall_mem_append.mp hown
    obtain ⟨front, tail, rfl, hascii, htail⟩ := ih hrest List.suffix_rfl
    have hfront : front = [] := by
      have hlength := length_le_length_lowerFrom (c :: before) (front ++ tail)
      rw [← htail, List.length_map, List.length_append] at hlength
      exact List.length_eq_zero_iff.mp (by omega)
    subst hfront
    by_cases hne : lead = []
    · subst hne
      exact ⟨[c], tail, rfl, hascii, htail⟩
    have hsuffix : lead <:+ toLower c := by
      obtain ⟨more, hmore⟩ := hpart
      have heq := List.append_cancel_right ((List.append_assoc _ _ _).trans hmore)
      split at heq
      · -- a final or plain sigma is no ASCII letter
        have hmem : lead.getLast hne ∈ lead := List.getLast_mem hne
        have hsigma := (List.suffix_append more lead).subset hmem
        rw [heq, List.mem_singleton] at hsigma
        refine absurd (hlead _ hmem) ?_
        rw [hsigma]
        split <;> decide
      · exact heq ▸ List.suffix_append more lead
    obtain ⟨hc, hsingle⟩ := eq_singleton_of_suffix_toLower hne hsuffix hlead
    refine ⟨[], c :: tail, rfl, ascii_cons.mpr ⟨hc, hascii⟩, ?_⟩
    rw [List.map_cons, htail, hsingle, List.singleton_append]

/-- Texts of ASCII are put in small letters character by character. -/
theorem lowerFrom_of_ascii {cs : List Char} (hcs : Ascii cs) (before : List Char) :
    lowerFrom before cs = cs.map Char.toLower := by
  induction cs generalizing before with
  | nil => rfl
  | cons c cs ih =>
    obtain ⟨hc, hcs⟩ := ascii_cons.mp hcs
    have hsigma : c ≠ 'Σ' := by
      rintro rfl
      exact absurd hc (by decide)
    rw [lowerFrom, if_neg hsigma, toLower, if_pos hc, ih hcs]
    rfl

end TableTypes.Unicode
