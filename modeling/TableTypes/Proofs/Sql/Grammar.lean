import Mathlib.Data.List.Forall2
import Mathlib.Data.List.TakeWhile
import TableTypes.Proofs.Sql.EnumText
import TableTypes.Proofs.Unicode.Blank

/-!
# What the readers of canonical text accept

Each reader of a part of a text takes exactly the texts of a form, and leaves what stands behind it:
blanks, a sign, a word in any letter case, a word in quotes, or all that stands before the last
sign.
-/

namespace TableTypes.Sql

/-! ## Blanks, signs and words -/

/-- Blanks, perhaps none. -/
def Blanks (cs : List Char) : Prop :=
  ∀ c ∈ cs, Unicode.isBlank c = true

/-- Text whose first character, if there is one, is none of a kind. -/
def StartsBeside (kind : Char → Bool) (cs : List Char) : Prop :=
  ∀ c ∈ cs.head?, kind c = false

/-- A double quote, a backquote or nothing. -/
def QuoteMark (cs : List Char) : Prop :=
  cs = [] ∨ cs = ['"'] ∨ cs = ['\x60']

/-- A word in some letter case. -/
def SpellsWord (word : String) (cs : List Char) : Prop :=
  List.Forall₂ (fun w c => Unicode.foldEq w c = true) word.toList cs

/-- A text is cut behind its longest beginning of a kind. -/
theorem span_eq_iff {p : Char → Bool} {cs first rest : List Char} :
    cs.span p = (first, rest) ↔
      cs = first ++ rest ∧ (∀ c ∈ first, p c = true) ∧ StartsBeside p rest := by
  rw [List.span_eq_takeWhile_dropWhile, Prod.mk.injEq]
  constructor
  · rintro ⟨rfl, rfl⟩
    refine ⟨List.takeWhile_append_dropWhile.symm, fun c hc => List.mem_takeWhile_imp hc, ?_⟩
    intro c hc
    have h := List.head?_dropWhile_not p cs
    rw [Option.mem_def.mp hc] at h
    simpa using h
  · rintro ⟨rfl, hfirst, hrest⟩
    rw [List.takeWhile_append_of_pos hfirst, List.dropWhile_append_of_pos hfirst]
    cases rest with
    | nil => simp
    | cons c rest => simp [hrest c rfl]

/-- Exactly the blanks at the beginning are dropped. -/
theorem dropWhile_isBlank {before cs : List Char} (hbefore : Blanks before)
    (hcs : StartsBeside Unicode.isBlank cs) :
    (before ++ cs).dropWhile Unicode.isBlank = cs := by
  have h := span_eq_iff.mpr ⟨rfl, hbefore, hcs⟩
  rw [List.span_eq_takeWhile_dropWhile, Prod.mk.injEq] at h
  exact h.2

/-- What is dropped at the beginning are blanks. -/
theorem exists_blanks (cs : List Char) :
    ∃ before, Blanks before ∧ cs = before ++ cs.dropWhile Unicode.isBlank :=
  ⟨cs.takeWhile Unicode.isBlank, fun _ hc => List.mem_takeWhile_imp hc,
    List.takeWhile_append_dropWhile.symm⟩

/-- What begins with characters of no kind begins beside the kind. -/
theorem startsBeside_append {kind : Char → Bool} {gap rest : List Char} (hne : gap ≠ [])
    (hgap : ∀ c ∈ gap, kind c = false) : StartsBeside kind (gap ++ rest) := by
  obtain ⟨c, gap, rfl⟩ := List.exists_cons_of_ne_nil hne
  intro d hd
  obtain rfl := Option.some.inj hd
  exact hgap _ List.mem_cons_self

/-- A sign is read exactly where it stands. -/
theorem sign?_eq_some_iff {sign : Char} {cs rest : List Char} :
    sign? sign cs = some rest ↔ cs = sign :: rest := by
  cases cs with
  | nil => simp [sign?]
  | cons c cs => by_cases hc : c = sign <;> simp [sign?, hc]

/-- A sign behind blanks. -/
theorem sign?_dropWhile_eq_some_iff {sign : Char} (hsign : Unicode.isBlank sign = false)
    {cs rest : List Char} :
    sign? sign (cs.dropWhile Unicode.isBlank) = some rest ↔
      ∃ before, Blanks before ∧ cs = before ++ sign :: rest := by
  rw [sign?_eq_some_iff]
  constructor
  · intro h
    obtain ⟨before, hbefore, hcs⟩ := exists_blanks cs
    exact ⟨before, hbefore, h ▸ hcs⟩
  · rintro ⟨before, hbefore, rfl⟩
    exact dropWhile_isBlank hbefore (by simpa [StartsBeside] using hsign)

/-- A word is read exactly where it stands in any case. -/
theorem word?_eq_some_iff {word cs rest : List Char} :
    word? word cs = some rest ↔
      ∃ written, List.Forall₂ (fun w c => Unicode.foldEq w c = true) word written ∧
        cs = written ++ rest := by
  induction word generalizing cs with
  | nil =>
    rw [word?, Option.some.injEq]
    constructor
    · rintro rfl
      exact ⟨[], .nil, rfl⟩
    · rintro ⟨written, hwritten, rfl⟩
      rw [List.forall₂_nil_left_iff.mp hwritten, List.nil_append]
  | cons w word ih =>
    cases cs with
    | nil =>
      constructor
      · intro h
        cases h
      · rintro ⟨written, hwritten, heq⟩
        rw [(List.append_eq_nil_iff.mp heq.symm).1] at hwritten
        cases hwritten
    | cons c cs =>
      rw [word?]
      constructor
      · intro h
        split at h
        · next hc =>
          obtain ⟨written, hwritten, rfl⟩ := ih.mp h
          exact ⟨c :: written, .cons hc hwritten, rfl⟩
        · cases h
      · rintro ⟨written, hwritten, heq⟩
        obtain ⟨d, written, hd, hrest, rfl⟩ := List.forall₂_cons_left_iff.mp hwritten
        obtain ⟨rfl, rfl⟩ := List.cons_eq_cons.mp heq
        rw [if_pos hd]
        exact ih.mpr ⟨written, hrest, rfl⟩

/-- Blanks are read exactly where there are some, up to the last of them. -/
theorem blanks?_eq_some_iff {cs rest : List Char} :
    blanks? cs = some rest ↔
      ∃ gap, gap ≠ [] ∧ Blanks gap ∧ cs = gap ++ rest ∧ StartsBeside Unicode.isBlank rest := by
  constructor
  · intro h
    cases cs with
    | nil => cases h
    | cons c cs =>
      rw [blanks?] at h
      split at h
      · next hc =>
        obtain rfl := Option.some.inj h
        obtain ⟨-, hgap, hrest⟩ := span_eq_iff.mp
          (List.span_eq_takeWhile_dropWhile (p := Unicode.isBlank) (l := cs))
        refine ⟨c :: cs.takeWhile Unicode.isBlank, by simp, ?_, ?_, hrest⟩
        · exact List.forall_mem_cons.mpr ⟨hc, hgap⟩
        · rw [List.cons_append, List.takeWhile_append_dropWhile]
      · cases h
  · rintro ⟨gap, hne, hgap, rfl, hrest⟩
    obtain ⟨c, gap, rfl⟩ := List.exists_cons_of_ne_nil hne
    obtain ⟨hc, hgap⟩ := List.forall_mem_cons.mp hgap
    rw [List.cons_append, blanks?, if_pos hc, dropWhile_isBlank hgap hrest]

/-- Blanks behind a text make no difference once it is trimmed. -/
theorem trimEnd_append_of_blanks {cs after : List Char} (hafter : Blanks after) :
    Unicode.trimEnd (cs ++ after) = Unicode.trimEnd cs := by
  rw [Unicode.trimEnd, Unicode.trimEnd, List.reverse_append,
    List.dropWhile_append_of_pos fun c hc => hafter c (List.mem_reverse.mp hc)]

/-- Text that does not end with a blank. -/
def EndsVisible (cs : List Char) : Prop :=
  ∃ front c, cs = front ++ [c] ∧ Unicode.isBlank c = false

/-- Text that does not end with a blank does not do so with more before it. -/
theorem EndsVisible.append {cs : List Char} (h : EndsVisible cs) (before : List Char) :
    EndsVisible (before ++ cs) := by
  obtain ⟨front, c, rfl, hc⟩ := h
  exact ⟨before ++ front, c, (List.append_assoc ..).symm, hc⟩

/-- Nothing is trimmed off a text that neither begins nor ends with a blank. -/
theorem trim_eq_self {cs : List Char} (hbegin : Visible cs) (hend : EndsVisible cs) :
    Unicode.trim cs = cs := by
  obtain ⟨first, rest, rfl, hfirst⟩ := hbegin
  obtain ⟨front, c, hend, hc⟩ := hend
  rw [Unicode.trim, List.dropWhile_cons_of_neg (by simp [hfirst]), Unicode.trimEnd, hend]
  simp [hc]

/-- What stands before a sign is read exactly where nothing but blanks follows the sign. -/
theorem beforeLast?_eq_some_iff {sign : Char} (hsign : Unicode.isBlank sign = false)
    {cs front : List Char} :
    beforeLast? sign cs = some front ↔
      ∃ after, Blanks after ∧ cs = front ++ sign :: after := by
  constructor
  · intro h
    obtain ⟨after, hafter, hcs⟩ := exists_blanks cs.reverse
    have heq : cs = Unicode.trimEnd cs ++ after.reverse := by
      rw [← List.reverse_inj, hcs]
      simp [Unicode.trimEnd]
    rw [beforeLast?] at h
    split at h
    · next hlast =>
      obtain rfl := Option.some.inj h
      refine ⟨after.reverse, fun c hc => hafter c (List.mem_reverse.mp hc), ?_⟩
      obtain ⟨front, hfront⟩ := List.getLast?_eq_some_iff.mp hlast
      rw [hfront, List.dropLast_concat]
      rw [hfront] at heq
      simpa using heq
    · cases h
  · rintro ⟨after, hafter, rfl⟩
    have h := beforeLast?_append_singleton hsign front
    rw [← List.singleton_append, ← List.append_assoc]
    unfold beforeLast? at h ⊢
    rwa [trimEnd_append_of_blanks hafter]

/-! ## Words in quotes -/

/-- No character of a word is blank. -/
theorem isBlank_of_word {c : Char} (h : Pattern.CharSet.word.contains c = true) :
    Unicode.isBlank c = false := by
  refine Bool.eq_false_iff.mpr fun hblank => ?_
  have hother : Pattern.CharSet.word.contains c = false :=
    Unicode.of_forall_blank (P := fun c => Pattern.CharSet.word.contains c = false)
      (by decide +kernel) hblank
  rw [h] at hother
  cases hother

/-- A quotation mark is neither blank nor a character of a word. -/
theorem QuoteMark.apart {mark : List Char} (h : QuoteMark mark) :
    ∀ c ∈ mark, Unicode.isBlank c = false ∧ Pattern.CharSet.word.contains c = false := by
  rcases h with rfl | rfl | rfl
  · exact List.forall_mem_nil _
  · exact List.forall_mem_singleton.mpr (by decide +kernel)
  · exact List.forall_mem_singleton.mpr (by decide +kernel)

/-- Whether a character can stand around a word. -/
def marksWord (c : Char) : Bool :=
  c = '"' || c = '\x60'

/-- A character that can stand around a word is a mark of its own. -/
theorem quoteMark_of_marksWord {c : Char} (h : marksWord c = true) : QuoteMark [c] := by
  rcases Bool.or_eq_true_iff.mp h with hc | hc
  · rw [decide_eq_true_eq.mp hc]
    exact .inr (.inl rfl)
  · rw [decide_eq_true_eq.mp hc]
    exact .inr (.inr rfl)

/-- A mark is dropped, and any other character stays. -/
theorem dropQuote_cons (c : Char) (rest : List Char) :
    dropQuote (c :: rest) = if marksWord c then rest else c :: rest := by
  simp [dropQuote, marksWord]

/-- What is dropped before a word is a mark. -/
theorem exists_quoteMark (cs : List Char) : ∃ mark, QuoteMark mark ∧ cs = mark ++ dropQuote cs := by
  cases cs with
  | nil => exact ⟨[], .inl rfl, rfl⟩
  | cons c rest =>
    rw [dropQuote_cons]
    split
    · next hc => exact ⟨[c], quoteMark_of_marksWord hc, rfl⟩
    · exact ⟨[], .inl rfl, rfl⟩

/-- Exactly a mark is dropped before a word that begins with none. -/
theorem dropQuote_append {mark cs : List Char} (hmark : QuoteMark mark)
    (hcs : StartsBeside marksWord cs) : dropQuote (mark ++ cs) = cs := by
  rcases hmark with rfl | rfl | rfl
  · cases cs with
    | nil => rfl
    | cons c cs => simp [dropQuote_cons, hcs c rfl]
  · simp [dropQuote]
  · simp [dropQuote]

/-- No character of a word stands around one. -/
theorem marksWord_of_word {c : Char} (h : Pattern.CharSet.word.contains c = true) :
    marksWord c = false := by
  by_contra hmark
  rw [Bool.not_eq_false] at hmark
  rw [((quoteMark_of_marksWord hmark).apart c List.mem_cons_self).2] at h
  cases h

/-- No blank is a character of a word or stands around one. -/
theorem apart_of_isBlank {c : Char} (h : Unicode.isBlank c = true) :
    Pattern.CharSet.word.contains c = false ∧ marksWord c = false := by
  constructor
  · by_contra hword
    rw [Bool.not_eq_false] at hword
    rw [isBlank_of_word hword] at h
    cases h
  · by_contra hmark
    rw [Bool.not_eq_false] at hmark
    rw [((quoteMark_of_marksWord hmark).apart c List.mem_cons_self).1] at h
    cases h

/-- What is read as a word stands between marks and is of word characters. -/
theorem quotedWord?_eq_some {cs word rest : List Char} (h : quotedWord? cs = some (word, rest)) :
    word ≠ [] ∧ (∀ c ∈ word, Pattern.CharSet.word.contains c = true) ∧
      ∃ mark mark', QuoteMark mark ∧ QuoteMark mark' ∧ cs = mark ++ (word ++ (mark' ++ rest)) := by
  unfold quotedWord? at h
  split at h
  · cases h
  · next first after hne hspan =>
    obtain ⟨rfl, rfl⟩ := Prod.mk.inj (Option.some.inj h)
    obtain ⟨hcs, hword, -⟩ := span_eq_iff.mp hspan
    obtain ⟨mark, hmark, heq⟩ := exists_quoteMark cs
    obtain ⟨mark', hmark', heq'⟩ := exists_quoteMark after
    exact ⟨hne, hword, mark, mark', hmark, hmark', by rw [← heq', ← hcs, ← heq]⟩

/-- A word between marks is read to its end where neither a word nor a mark goes on. -/
theorem quotedWord?_append {mark word mark' rest : List Char} (hmark : QuoteMark mark)
    (hne : word ≠ []) (hword : ∀ c ∈ word, Pattern.CharSet.word.contains c = true)
    (hmark' : QuoteMark mark') (hrest : StartsBeside Pattern.CharSet.word.contains rest)
    (hrest' : StartsBeside marksWord rest) :
    quotedWord? (mark ++ (word ++ (mark' ++ rest))) = some (word, rest) := by
  obtain ⟨first, others, rfl⟩ := List.exists_cons_of_ne_nil hne
  have hbegin : StartsBeside marksWord (first :: others ++ (mark' ++ rest)) := by
    intro c hc
    obtain rfl := Option.some.inj hc
    exact marksWord_of_word (hword _ List.mem_cons_self)
  have hafter : StartsBeside Pattern.CharSet.word.contains (mark' ++ rest) := by
    cases mark' with
    | nil => exact hrest
    | cons q mark' =>
      intro c hc
      obtain rfl := Option.some.inj hc
      exact (hmark'.apart _ List.mem_cons_self).2
  have hspan := span_eq_iff.mpr ⟨rfl, hword, hafter⟩
  rw [quotedWord?, dropQuote_append hmark hbegin, hspan]
  exact congrArg (fun cs => some (first :: others, cs)) (dropQuote_append hmark' hrest')

end TableTypes.Sql
