import TableTypes.Unicode.CaseMap

/-!
# Letters that a case mapping leaves none of

No character goes to a small ASCII letter in upper case, and none to a capital ASCII letter in lower
case, also among those that go to several characters.
-/

namespace TableTypes.Unicode

/-- A code point that is none from `first` to `last`. -/
def Outside (first last n : Nat) : Prop :=
  n < first ∨ last < n

instance (first last n : Nat) : Decidable (Outside first last n) :=
  inferInstanceAs (Decidable (_ ∨ _))

/-- No entry of the tables of a case mapping leads into a range, and each expansion has a first
character. -/
def Avoids (first last : Nat) (shifts : List Shift) (expansions : List (Nat × List Nat)) : Prop :=
  (∀ s ∈ shifts, last < s.target ∨ s.target + (s.span.last - s.span.first) < first) ∧
    ∀ p ∈ expansions, p.2 ≠ [] ∧ ∀ n ∈ p.2, Outside first last n

/-- The upper case leads to no small ASCII letter. -/
theorem avoids_small_upper : Avoids 'a'.toNat 'z'.toNat upperShifts upperExpansions := by
  unfold Avoids
  decide +kernel

/-- The lower case leads to no capital ASCII letter. -/
theorem avoids_capital_lower : Avoids 'A'.toNat 'Z'.toNat lowerShifts lowerExpansions := by
  unfold Avoids
  decide +kernel

/-- A code point of a character is the one that the character has. -/
theorem toNat_ofNat_of_isValidChar {n : Nat} (hvalid : n.isValidChar) :
    (Char.ofNat n).toNat = n := by
  rw [Char.ofNat, dif_pos hvalid]
  rfl

/-- A case mapping moves a character along a run of its tables, expands it, or keeps it. -/
theorem mapCase_cases (shifts : List Shift) (expansions : List (Nat × List Nat)) (c : Char) :
    (∃ s ∈ shifts, s.span.contains c.toNat = true ∧
        mapCase shifts expansions c = [Char.ofNat (s.target + (c.toNat - s.span.first))]) ∨
      (∃ ns, (c.toNat, ns) ∈ expansions ∧ mapCase shifts expansions c = ns.map Char.ofNat) ∨
        mapCase shifts expansions c = [c] := by
  unfold mapCase
  split
  · next n hshift =>
    obtain ⟨s, hs, rfl⟩ := Option.map_eq_some_iff.mp hshift
    have hspan := List.find?_some hs
    exact .inl ⟨s, List.mem_of_find?_eq_some hs, hspan, rfl⟩
  · split
    · next ns hlookup =>
      obtain ⟨before, after, rfl, -⟩ := List.lookup_eq_some_iff.mp hlookup
      exact .inr (.inl ⟨ns, by simp, rfl⟩)
    · exact .inr (.inr rfl)

/-- What a case mapping gives comes from a run or an expansion of its tables, or else is the
character itself. -/
theorem mem_mapCase_cases {shifts : List Shift} {expansions : List (Nat × List Nat)} {c d : Char}
    (hd : d ∈ mapCase shifts expansions c) :
    (∃ s ∈ shifts, s.span.contains c.toNat = true ∧
        d = Char.ofNat (s.target + (c.toNat - s.span.first))) ∨
      (∃ p ∈ expansions, ∃ n ∈ p.2, d = Char.ofNat n) ∨
        mapCase shifts expansions c = [c] ∧ d = c := by
  rcases mapCase_cases shifts expansions c with ⟨s, hs, hspan, heq⟩ | ⟨ns, hns, heq⟩ | heq
  · rw [heq, List.mem_singleton] at hd
    exact .inl ⟨s, hs, hspan, hd⟩
  · rw [heq] at hd
    obtain ⟨n, hn, rfl⟩ := List.mem_map.mp hd
    exact .inr (.inl ⟨(c.toNat, ns), hns, n, hn, rfl⟩)
  · exact .inr (.inr ⟨heq, List.mem_singleton.mp (heq ▸ hd)⟩)

/-- What a case mapping gives, unless it is the character itself, lies outside a range that its
tables avoid. -/
theorem eq_or_outside_of_mem_mapCase {first last : Nat} (hfirst : 0 < first)
    {shifts : List Shift} {expansions : List (Nat × List Nat)}
    (havoids : Avoids first last shifts expansions) {c d : Char}
    (hd : d ∈ mapCase shifts expansions c) :
    d = c ∨ Outside first last d.toNat := by
  have hofNat {n : Nat} (hn : Outside first last n) : Outside first last (Char.ofNat n).toNat := by
    by_cases hvalid : n.isValidChar
    · rwa [toNat_ofNat_of_isValidChar hvalid]
    · rw [Char.ofNat, dif_neg hvalid]
      exact .inl hfirst
  rcases mem_mapCase_cases hd with ⟨s, hs, hspan, rfl⟩ | ⟨p, hp, n, hn, rfl⟩ | ⟨-, rfl⟩
  · refine .inr (hofNat ?_)
    simp only [Span.contains, Bool.and_eq_true, decide_eq_true_eq] at hspan
    rcases havoids.1 s hs with h | h
    · exact .inr (by omega)
    · exact .inl (by omega)
  · exact .inr (hofNat ((havoids.2 p hp).2 n hn))
  · exact .inl rfl

/-- What a case mapping gives lies outside a range of ASCII if its tables avoid the range. -/
theorem outside_of_mem_mapCase {first last : Nat} (hfirst : 0 < first) (hlast : last < 128)
    {shifts : List Shift} {expansions : List (Nat × List Nat)}
    (havoids : Avoids first last shifts expansions) {c : Char} (hc : 128 ≤ c.toNat) {d : Char}
    (hd : d ∈ mapCase shifts expansions c) :
    Outside first last d.toNat := by
  rcases eq_or_outside_of_mem_mapCase hfirst havoids hd with rfl | h
  · exact .inr (by omega)
  · exact h

/-- What holds of all ASCII characters by their code points holds of each. -/
theorem of_forall_ascii {P : Char → Prop} (hall : ∀ n < 128, P (Char.ofNat n)) {c : Char}
    (hc : c.toNat < 128) : P c :=
  Char.ofNat_toNat c ▸ hall c.toNat hc

/-- A capital ASCII letter is a letter. -/
theorem isAlpha_of_isUpper {c : Char} (hc : c.isUpper = true) : c.isAlpha = true :=
  Bool.or_eq_true_iff.mpr (.inl hc)

/-- A small ASCII letter is a letter. -/
theorem isAlpha_of_isLower {c : Char} (hc : c.isLower = true) : c.isAlpha = true :=
  Bool.or_eq_true_iff.mpr (.inr hc)

/-- The letters that `Char.isAlpha` finds are of ASCII. -/
theorem toNat_lt_of_isAlpha {c : Char} (hc : c.isAlpha = true) : c.toNat < 128 := by
  unfold Char.isAlpha Char.isUpper Char.isLower at hc
  simp only [Bool.or_eq_true, Bool.and_eq_true, decide_eq_true_eq, UInt32.le_iff_toNat_le] at hc
  simp only [Char.toNat]
  grind

/-- The digits that `Char.isDigit` finds are of ASCII. -/
theorem toNat_lt_of_isDigit {c : Char} (hc : c.isDigit = true) : c.toNat < 128 := by
  simp only [Char.isDigit, Bool.and_eq_true, decide_eq_true_eq, UInt32.le_iff_toNat_le] at hc
  exact Nat.lt_of_le_of_lt hc.2 (by decide)

/-- No upper case has a small ASCII letter. -/
theorem outside_of_mem_toUpper {c d : Char} (hd : d ∈ toUpper c) :
    Outside 'a'.toNat 'z'.toNat d.toNat := by
  unfold toUpper at hd
  split at hd
  · next hc =>
    rw [List.mem_singleton.mp hd]
    exact of_forall_ascii (P := fun c => Outside 'a'.toNat 'z'.toNat c.toUpper.toNat)
      (by decide) hc
  · next hc =>
    exact outside_of_mem_mapCase (by decide) (by decide) avoids_small_upper (Nat.le_of_not_lt hc) hd

/-- A case mapping without empty expansions gives every character an image. -/
theorem mapCase_ne_nil {shifts : List Shift} {expansions : List (Nat × List Nat)}
    (h : ∀ p ∈ expansions, p.2 ≠ []) (c : Char) : mapCase shifts expansions c ≠ [] := by
  unfold mapCase
  split
  · simp
  · split
    · next ns hlookup =>
      obtain ⟨before, after, heq, -⟩ := List.lookup_eq_some_iff.mp hlookup
      simpa using h (c.toNat, ns) (by simp [heq])
    · simp

/-- Every character has an upper case. -/
theorem toUpper_ne_nil (c : Char) : toUpper c ≠ [] := by
  unfold toUpper
  split
  · simp
  · exact mapCase_ne_nil (fun p hp => (avoids_small_upper.2 p hp).1) c

/-- Every character has a lower case. -/
theorem toLower_ne_nil (c : Char) : toLower c ≠ [] := by
  unfold toLower
  split
  · simp
  · exact mapCase_ne_nil (fun p hp => (avoids_capital_lower.2 p hp).1) c

/-- No lower case has a capital ASCII letter. -/
theorem outside_of_mem_toLower {c d : Char} (hd : d ∈ toLower c) :
    Outside 'A'.toNat 'Z'.toNat d.toNat := by
  unfold toLower at hd
  split at hd
  · next hc =>
    rw [List.mem_singleton.mp hd]
    exact of_forall_ascii (P := fun c => Outside 'A'.toNat 'Z'.toNat c.toLower.toNat)
      (by decide) hc
  · next hc =>
    exact outside_of_mem_mapCase (by decide) (by decide) avoids_capital_lower
      (Nat.le_of_not_lt hc) hd

/-- No text in small letters has a capital ASCII letter. -/
theorem outside_of_mem_lowercase {s : String} {d : Char} (hd : d ∈ (lowercase s).toList) :
    Outside 'A'.toNat 'Z'.toNat d.toNat := by
  have hfrom (before rest : List Char) (hd : d ∈ lowerFrom before rest) :
      Outside 'A'.toNat 'Z'.toNat d.toNat := by
    induction rest generalizing before with
    | nil => cases hd
    | cons c rest ih =>
      rcases List.mem_append.mp hd with hd | hd
      · split at hd
        · rw [List.mem_singleton.mp hd]
          split <;> decide
        · exact outside_of_mem_toLower hd
      · exact ih _ hd
  rw [lowercase, String.toList_ofList] at hd
  exact hfrom [] _ hd

end TableTypes.Unicode
