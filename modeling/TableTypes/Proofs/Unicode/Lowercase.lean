import Mathlib.Data.List.Basic
import TableTypes.Proofs.Unicode.CaseMap
import TableTypes.Unicode.Blank

/-!
# Text in small letters

A text in small letters stays as it is in small letters. Signs and blanks come from the same signs
and blanks only. Parts of a text can be put in small letters one by one as long as no part has a
capital sigma, whose small letter depends on what stands around it.
-/

namespace TableTypes.Unicode

/-! ## The tables -/

/-- No image of a run is in a span: the two lie apart, or all images are even and the span is odd,
or the other way. The test is made for all pairs of entries, so it compares plain numbers. -/
def Shift.misses (s : Shift) (t : Span) : Bool :=
  Nat.blt t.last s.target || Nat.blt (s.target + (s.span.last - s.span.first)) t.first ||
    (s.span.step % 2 == 0 || s.span.first == s.span.last) &&
      (t.step % 2 == 0 || t.first == t.last) && s.target % 2 != t.first % 2

/-- A run that misses a span leads to none of its code points. -/
theorem Shift.not_contains_of_misses {s : Shift} {t : Span} (h : s.misses t = true) {n : Nat}
    (hn : s.span.contains n = true) :
    t.contains (s.target + (n - s.span.first)) = false := by
  simp only [misses, Bool.or_eq_true, Bool.and_eq_true, Nat.blt_eq, beq_iff_eq, bne_iff_ne] at h
  simp only [Span.contains, Bool.and_eq_true, decide_eq_true_eq, beq_iff_eq] at hn
  obtain ⟨⟨hfirst, hlast⟩, hstep⟩ := hn
  by_contra hcontains
  simp only [Span.contains, Bool.not_eq_false, Bool.and_eq_true, decide_eq_true_eq,
    beq_iff_eq] at hcontains
  obtain ⟨⟨hfirst', hlast'⟩, hstep'⟩ := hcontains
  rcases h with (h | h) | ⟨⟨hs, ht⟩, hparity⟩
  · omega
  · omega
  · -- an even step, or a single code point, leads to an even distance from the first
    have heven {u : Span} {k : Nat} (hu : u.step % 2 = 0 ∨ u.first = u.last)
        (hk : k ≤ u.last - u.first) (hstep : k % u.step = 0) : 2 ∣ k := by
      rcases hu with hu | hu
      · exact Nat.dvd_trans (Nat.dvd_of_mod_eq_zero hu) (Nat.dvd_of_mod_eq_zero hstep)
      · rw [show k = 0 by omega]
        exact Nat.dvd_zero 2
    have hsource := heven hs (by omega) hstep
    have himage := heven ht (by omega) hstep'
    omega

/-- The characters from U+0080 on that the tables send to other ones. -/
def capitalSpans : List Span :=
  lowerShifts.map (·.span) ++ lowerExpansions.map fun p => ⟨p.1, p.1, 1⟩

/-- Blanks and the signs of ASCII. -/
def signSpans : List Span :=
  blankSpans ++ [⟨0x1, 0x40, 1⟩, ⟨0x5b, 0x60, 1⟩, ⟨0x7b, 0x7f, 1⟩]

/-- No span of the one list meets a span of the other. -/
def Apart (ts us : List Span) : Prop :=
  ∀ t ∈ ts, ∀ u ∈ us, u.last < t.first ∨ t.last < u.first

instance (ts us : List Span) : Decidable (Apart ts us) :=
  inferInstanceAs (Decidable (∀ _ ∈ _, ∀ _ ∈ _, _))

/-- A code point in one of two lists of spans that are apart is in none of the other. -/
theorem Apart.not_contains {ts us : List Span} (h : Apart ts us) {t u : Span} (ht : t ∈ ts)
    (hu : u ∈ us) {n : Nat} (hn : t.contains n = true) : u.contains n = false := by
  by_contra hcontains
  simp only [Span.contains, Bool.not_eq_false, Bool.and_eq_true, decide_eq_true_eq]
    at hn hcontains
  rcases h t ht u hu with h | h <;> omega

/-- Signs are not sent to other characters, and blanks are not letters. -/
theorem apart_spec :
    Apart (signSpans.filter (128 ≤ ·.last)) capitalSpans ∧
      Apart blankSpans (casedSpans ++ caseIgnorableSpans) := by
  decide +kernel

/-- No other character is sent to the capital sigma, a blank or a sign. -/
theorem avoids_sigma_and_signs :
    ∀ t ∈ ⟨'Σ'.toNat, 'Σ'.toNat, 1⟩ :: signSpans,
      0 < t.first ∧ Avoids t.first t.last lowerShifts lowerExpansions := by
  unfold Avoids
  decide +kernel

/-- The three sigmas: the capital one is cased, and the small ones are their own lower case. -/
theorem sigma_spec :
    isCased 'Σ' = true ∧ toLower 'Σ' = ['σ'] ∧ toLower 'ς' = ['ς'] ∧ toLower 'σ' = ['σ'] := by
  decide +kernel

-- The test of all pairs takes the longest, so it comes behind the other facts about the tables.
/-- What the tables send a character to is not sent to another one. -/
theorem misses_capitalSpans :
    (lowerShifts.all fun s => capitalSpans.all fun t => s.misses t) = true ∧
      ∀ p ∈ lowerExpansions, ∀ n ∈ p.2, ∀ t ∈ capitalSpans, t.contains n = false := by
  decide +kernel

/-! ## Characters -/

/-- What the tables do not send to other characters stays as it is. -/
theorem mapCase_eq_self {c : Char} (hc : ∀ t ∈ capitalSpans, t.contains c.toNat = false) :
    mapCase lowerShifts lowerExpansions c = [c] := by
  have hshift : shift? lowerShifts c.toNat = none := by
    refine Option.map_eq_none_iff.mpr (List.find?_eq_none.mpr fun s hs => ?_)
    simp [hc s.span (by simp only [capitalSpans, List.mem_append, List.mem_map]
                        exact .inl ⟨s, hs, rfl⟩)]
  have hlookup : lowerExpansions.lookup c.toNat = none := by
    refine List.lookup_eq_none_iff.mpr fun p hp => ?_
    have hp' := hc ⟨p.1, p.1, 1⟩ (by simp only [capitalSpans, List.mem_append, List.mem_map]
                                     exact .inr ⟨p, hp, rfl⟩)
    have hne : c.toNat ≠ p.1 := by
      rintro heq
      simp [Span.contains, heq] at hp'
    simpa using hne
  rw [mapCase, hshift, hlookup]

/-- Small letters are their own lower case. -/
theorem toLower_of_mem_toLower {c d : Char} (hd : d ∈ toLower c) : toLower d = [d] := by
  have houtside := outside_of_mem_toLower hd
  by_cases hascii : d.toNat < 128
  · have hself := of_forall_ascii
      (P := fun d => Outside 'A'.toNat 'Z'.toNat d.toNat → d.toLower = d) (by decide) hascii
    rw [toLower, if_pos hascii, hself houtside]
  · rw [toLower, if_neg hascii]
    have hc : ¬c.toNat < 128 := by
      intro hc
      rw [toLower, if_pos hc, List.mem_singleton] at hd
      subst hd
      exact hascii (of_forall_ascii (P := fun c => c.toLower.toNat < 128) (by decide) hc)
    rw [toLower, if_neg hc] at hd
    have hofNat {n : Nat} (hd : ¬(Char.ofNat n).toNat < 128) : (Char.ofNat n).toNat = n := by
      by_cases hvalid : n.isValidChar
      · exact toNat_ofNat_of_isValidChar hvalid
      · rw [Char.ofNat, dif_neg hvalid] at hd
        exact absurd (by decide) hd
    rcases mem_mapCase_cases hd with ⟨s, hs, hspan, rfl⟩ | ⟨p, hp, n, hn, rfl⟩ | ⟨hself, rfl⟩
    · refine mapCase_eq_self fun t ht => ?_
      rw [hofNat hascii]
      have hmisses := List.all_eq_true.mp (List.all_eq_true.mp misses_capitalSpans.1 s hs) t ht
      exact Shift.not_contains_of_misses hmisses hspan
    · refine mapCase_eq_self fun t ht => ?_
      rw [hofNat hascii]
      exact misses_capitalSpans.2 p hp n hn t ht
    · exact hself

/-- A blank or a sign is the lower case of itself only. -/
theorem eq_of_mem_toLower {c d : Char} (hd : d ∈ toLower c) (hsign : covers signSpans d = true) :
    d = c := by
  unfold toLower at hd
  split at hd
  · next hc =>
    have hself := of_forall_ascii
      (P := fun c => covers signSpans c.toLower = true → c.toLower = c) (by decide) hc
    rw [List.mem_singleton.mp hd] at hsign ⊢
    exact hself hsign
  · obtain ⟨t, ht, hcontains⟩ := List.any_eq_true.mp hsign
    obtain ⟨hfirst, havoids⟩ := avoids_sigma_and_signs t (List.mem_cons_of_mem _ ht)
    rcases eq_or_outside_of_mem_mapCase hfirst havoids hd with h | h
    · exact h
    · simp only [Span.contains, Bool.and_eq_true, decide_eq_true_eq] at hcontains
      rcases h with h | h <;> omega

/-- Blanks and signs are their own lower case. -/
theorem toLower_of_sign {d : Char} (hsign : covers signSpans d = true) : toLower d = [d] := by
  unfold toLower
  split
  · next hd =>
    have hself := of_forall_ascii
      (P := fun d => covers signSpans d = true → d.toLower = d) (by decide) hd
    rw [hself hsign]
  · obtain ⟨t, ht, hcontains⟩ := List.any_eq_true.mp hsign
    have hbeyond : 128 ≤ t.last := by
      simp only [Span.contains, Bool.and_eq_true, decide_eq_true_eq] at hcontains
      omega
    exact mapCase_eq_self fun u hu =>
      apart_spec.1.not_contains (List.mem_filter.mpr ⟨ht, by simpa using hbeyond⟩) hu hcontains

/-- A character without case is no capital sigma. -/
theorem ne_sigma_of_isCased {q : Char} (hq : isCased q = false) : q ≠ 'Σ' := by
  rintro rfl
  rw [sigma_spec.1] at hq
  cases hq

/-- No character has a capital sigma for its lower case. -/
theorem sigma_notMem_toLower (c : Char) : 'Σ' ∉ toLower c := by
  intro hd
  by_cases hsigma : c = 'Σ'
  · rw [hsigma, sigma_spec.2.1] at hd
    exact absurd hd (by decide)
  · unfold toLower at hd
    split at hd
    · next hc =>
      have hne := of_forall_ascii (P := fun c => 'Σ' ≠ c.toLower) (by decide) hc
      exact hne (List.mem_singleton.mp hd)
    · obtain ⟨hfirst, havoids⟩ := avoids_sigma_and_signs _ List.mem_cons_self
      rcases eq_or_outside_of_mem_mapCase hfirst havoids hd with h | h
      · exact hsigma h.symm
      · exact absurd h (by decide)

/-! ## Texts -/

/-- The lower case of a text consists of small letters, and its blanks and signs are those of the
text. -/
theorem lowerFrom_cases {before cs : List Char} {d : Char} (hd : d ∈ lowerFrom before cs) :
    d = 'ς' ∨ d = 'σ' ∨ ∃ c ∈ cs, c ≠ 'Σ' ∧ d ∈ toLower c := by
  induction cs generalizing before with
  | nil => cases hd
  | cons c cs ih =>
    rcases List.mem_append.mp hd with hd | hd
    · split at hd
      · split at hd
        · exact .inl (List.mem_singleton.mp hd)
        · exact .inr (.inl (List.mem_singleton.mp hd))
      · next hc => exact .inr (.inr ⟨c, List.mem_cons_self, hc, hd⟩)
    · rcases ih hd with h | h | ⟨c', hc', h⟩
      · exact .inl h
      · exact .inr (.inl h)
      · exact .inr (.inr ⟨c', List.mem_cons_of_mem _ hc', h⟩)

/-- Where no capital sigma is, each character is put in small letters by itself. -/
theorem lowerFrom_eq_flatMap {cs : List Char} (hcs : 'Σ' ∉ cs) (before : List Char) :
    lowerFrom before cs = cs.flatMap toLower := by
  induction cs generalizing before with
  | nil => rfl
  | cons c cs ih =>
    obtain ⟨hc, hcs⟩ := List.ne_and_not_mem_of_not_mem_cons hcs
    rw [lowerFrom, if_neg (Ne.symm hc), ih hcs, List.flatMap_cons]

/-- The characters of a text in small letters are their own lower case. -/
theorem toLower_of_mem_lowercase {s : String} {d : Char} (hd : d ∈ (lowercase s).toList) :
    toLower d = [d] := by
  rw [lowercase, String.toList_ofList] at hd
  rcases lowerFrom_cases hd with rfl | rfl | ⟨c, -, -, hd⟩
  · exact sigma_spec.2.2.1
  · exact sigma_spec.2.2.2
  · exact toLower_of_mem_toLower hd

/-- A text in small letters has no capital sigma. -/
theorem sigma_notMem_lowercase (s : String) : 'Σ' ∉ (lowercase s).toList := by
  intro hd
  rw [lowercase, String.toList_ofList] at hd
  rcases lowerFrom_cases hd with h | h | ⟨c, -, -, hd⟩
  · exact absurd h (by decide)
  · exact absurd h (by decide)
  · exact sigma_notMem_toLower c hd

/-- A blank or a sign in the lower case of a text comes from the text. -/
theorem mem_of_mem_lowercase {s : String} {d : Char} (hd : d ∈ (lowercase s).toList)
    (hsign : covers signSpans d = true) : d ∈ s.toList := by
  rw [lowercase, String.toList_ofList] at hd
  rcases lowerFrom_cases hd with rfl | rfl | ⟨c, hc, -, hd⟩
  · exact absurd hsign (by decide)
  · exact absurd hsign (by decide)
  · exact eq_of_mem_toLower hd hsign ▸ hc

/-- The blanks and signs of a text stay in it. -/
theorem mem_lowercase {s : String} {d : Char} (hd : d ∈ s.toList)
    (hsign : covers signSpans d = true) : d ∈ (lowercase s).toList := by
  have hsigma : d ≠ 'Σ' := by
    rintro rfl
    exact absurd hsign (by decide)
  have hfrom (before cs : List Char) (hd : d ∈ cs) : d ∈ lowerFrom before cs := by
    induction cs generalizing before with
    | nil => cases hd
    | cons c cs ih =>
      rcases List.mem_cons.mp hd with rfl | hd
      · rw [lowerFrom, if_neg hsigma, toLower_of_sign hsign]
        exact List.mem_cons_self
      · exact List.mem_append_right _ (ih (c :: before) hd)
  rw [lowercase, String.toList_ofList]
  exact hfrom [] _ hd

/-- A blank is among the signs. -/
theorem covers_signSpans_of_isBlank {c : Char} (h : isBlank c = true) :
    covers signSpans c = true := by
  rw [covers, signSpans, List.any_append, Bool.or_eq_true]
  exact .inl h

/-- A text has blanks in small letters if it has blanks. -/
theorem noBlank_lowercase_iff {s : String} :
    (∀ c ∈ (lowercase s).toList, isBlank c = false) ↔ ∀ c ∈ s.toList, isBlank c = false := by
  constructor
  · intro h c hc
    by_contra hblank
    rw [Bool.not_eq_false] at hblank
    simp [h c (mem_lowercase hc (covers_signSpans_of_isBlank hblank))] at hblank
  · intro h c hc
    by_contra hblank
    rw [Bool.not_eq_false] at hblank
    simp [h c (mem_of_mem_lowercase hc (covers_signSpans_of_isBlank hblank))] at hblank

/-- Texts without a capital sigma are put in small letters part by part. -/
theorem lowercase_append {s t : String} (hs : 'Σ' ∉ s.toList) (ht : 'Σ' ∉ t.toList) :
    lowercase (s ++ t) = lowercase s ++ lowercase t := by
  have hst : 'Σ' ∉ s.toList ++ t.toList := by simp [hs, ht]
  rw [← String.toList_inj]
  simp only [lowercase, String.toList_append, String.toList_ofList]
  rw [lowerFrom_eq_flatMap hst, lowerFrom_eq_flatMap hs, lowerFrom_eq_flatMap ht,
    List.flatMap_append]

/-- A text in small letters is its own lower case. -/
@[simp] theorem lowercase_lowercase (s : String) : lowercase (lowercase s) = lowercase s := by
  have hself (cs : List Char) (hcs : ∀ c ∈ cs, toLower c = [c]) : cs.flatMap toLower = cs := by
    induction cs with
    | nil => rfl
    | cons c cs ih =>
      rw [List.flatMap_cons, hcs c List.mem_cons_self,
        ih fun c hc => hcs c (List.mem_cons_of_mem _ hc), List.singleton_append]
  rw [lowercase, lowerFrom_eq_flatMap (sigma_notMem_lowercase s),
    hself _ fun c hc => toLower_of_mem_lowercase hc, String.ofList_toList]

/-! ## Text between signs -/

/-- A character that has no lower or upper case ends the text that decides on a sigma, like the end
of the text does. -/
theorem casedNext_append_singleton {q : Char} (hq : isCased q = false) (cs : List Char) :
    casedNext (cs ++ [q]) = casedNext cs := by
  unfold casedNext
  rw [List.dropWhile_append]
  cases cs.dropWhile (covers caseIgnorableSpans) with
  | nil =>
    simp only [List.isEmpty_nil, if_true]
    by_cases hignored : covers caseIgnorableSpans q = true
    · simp [hignored]
    · simp [hignored, hq]
  | cons c cs => rfl

/-- A character without case before a text makes no difference to its small letters. -/
theorem lowerFrom_append_singleton_left {q : Char} (hq : isCased q = false)
    (before cs : List Char) :
    lowerFrom (before ++ [q]) cs = lowerFrom before cs := by
  induction cs generalizing before with
  | nil => rfl
  | cons c cs ih => simp only [lowerFrom, casedNext_append_singleton hq, ← List.cons_append, ih]

/-- A character without case behind a text makes no difference to its small letters. -/
theorem lowerFrom_append_singleton_right {q : Char} (hq : isCased q = false)
    (hself : toLower q = [q]) (before cs : List Char) :
    lowerFrom before (cs ++ [q]) = lowerFrom before cs ++ [q] := by
  induction cs generalizing before with
  | nil =>
    have hsigma := ne_sigma_of_isCased hq
    simp [lowerFrom, hsigma, hself]
  | cons c cs ih =>
    simp only [List.cons_append, lowerFrom, casedNext_append_singleton hq, ih, List.append_assoc]

/-- A text between two signs is put in small letters as if it stood alone. -/
theorem toList_lowercase_enclosed {q : Char} (hq : isCased q = false) (hself : toLower q = [q])
    {s t : String} (hst : t.toList = q :: (s.toList ++ [q])) :
    (lowercase t).toList = q :: ((lowercase s).toList ++ [q]) := by
  have hsigma := ne_sigma_of_isCased hq
  simp only [lowercase, String.toList_ofList, hst]
  rw [lowerFrom, if_neg hsigma, hself, lowerFrom_append_singleton_right hq hself,
    ← List.nil_append [q], lowerFrom_append_singleton_left hq]
  rfl

/-! ## Parts of a text between blanks and signs -/

/-- A character has no case, ends the text that decides on a sigma, and is its own lower case. -/
def PartsCase (q : Char) : Prop :=
  isCased q = false ∧ covers caseIgnorableSpans q = false ∧ toLower q = [q]

instance (q : Char) : Decidable (PartsCase q) :=
  inferInstanceAs (Decidable (_ ∧ _ ∧ _))

/-- A blank parts texts that are put in small letters. -/
theorem partsCase_of_isBlank {q : Char} (hq : isBlank q = true) : PartsCase q := by
  have hapart {u : Span} (hu : u ∈ casedSpans ++ caseIgnorableSpans) :
      u.contains q.toNat = false := by
    obtain ⟨t, ht, hcontains⟩ := List.any_eq_true.mp hq
    exact apart_spec.2.not_contains ht hu hcontains
  refine ⟨?_, ?_, toLower_of_sign (covers_signSpans_of_isBlank hq)⟩
  · unfold isCased
    split
    · next hascii =>
      exact of_forall_ascii (P := fun q => isBlank q = true → q.isAlpha = false) (by decide)
        hascii hq
    · exact List.any_eq_false.mpr fun u hu => by simp [hapart (List.mem_append_left _ hu)]
  · exact List.any_eq_false.mpr fun u hu => by simp [hapart (List.mem_append_right _ hu)]

/-- What parts texts is no capital sigma. -/
theorem PartsCase.ne_sigma {q : Char} (hq : PartsCase q) : q ≠ 'Σ' :=
  ne_sigma_of_isCased hq.1

/-- What parts texts decides on a sigma before it as the end of the text does. -/
theorem casedNext_append_cons {q : Char} (hq : PartsCase q) (cs rest : List Char) :
    casedNext (cs ++ q :: rest) = casedNext cs := by
  unfold casedNext
  rw [List.dropWhile_append]
  cases cs.dropWhile (covers caseIgnorableSpans) with
  | nil => simp [hq.1, hq.2.1]
  | cons c cs => rfl

/-- What stands before such a character makes no difference behind it. -/
theorem lowerFrom_append_cons_left {q : Char} (hq : PartsCase q) (before passed cs : List Char) :
    lowerFrom (before ++ q :: passed) cs = lowerFrom before cs := by
  induction cs generalizing before with
  | nil => rfl
  | cons c cs ih => simp only [lowerFrom, casedNext_append_cons hq, ← List.cons_append, ih]

/-- Around such a character a text is put in small letters part by part. -/
theorem lowerFrom_append_cons {q : Char} (hq : PartsCase q) (before cs rest : List Char) :
    lowerFrom before (cs ++ q :: rest) = lowerFrom before cs ++ q :: lowerFrom [] rest := by
  induction cs generalizing before with
  | nil =>
    rw [List.nil_append, lowerFrom, lowerFrom, if_neg hq.ne_sigma, hq.2.2]
    exact congrArg (q :: ·) (lowerFrom_append_cons_left hq [] before rest)
  | cons c cs ih =>
    simp only [List.cons_append, lowerFrom, casedNext_append_cons hq, ih, List.append_assoc]

/-- A text behind which nothing or such a character comes is put in small letters as if it stood
alone. -/
theorem lowerFrom_append {tail : List Char} (h : ∀ q ∈ tail.head?, PartsCase q) (cs : List Char) :
    lowerFrom [] (cs ++ tail) = lowerFrom [] cs ++ lowerFrom [] tail := by
  cases tail with
  | nil => simp [lowerFrom]
  | cons q rest =>
    have hq : PartsCase q := h q rfl
    rw [lowerFrom_append_cons hq, ← List.nil_append (q :: rest), lowerFrom_append_cons hq []]
    rfl

/-- Characters that part texts stay in small letters. -/
theorem lowerFrom_of_partsCase {cs : List Char} (h : ∀ q ∈ cs, PartsCase q) (before : List Char) :
    lowerFrom before cs = cs := by
  induction cs generalizing before with
  | nil => rfl
  | cons q cs ih =>
    obtain ⟨hq, hcs⟩ := List.forall_mem_cons.mp h
    rw [lowerFrom, if_neg hq.ne_sigma, hq.2.2, ih hcs, List.singleton_append]

/-- A text is not empty in small letters unless it has been so before. -/
theorem lowerFrom_ne_nil {cs : List Char} (h : cs ≠ []) (before : List Char) :
    lowerFrom before cs ≠ [] := by
  obtain ⟨c, rest, rfl⟩ := List.exists_cons_of_ne_nil h
  rw [lowerFrom]
  split
  · simp
  · simp [toLower_ne_nil]

end TableTypes.Unicode
