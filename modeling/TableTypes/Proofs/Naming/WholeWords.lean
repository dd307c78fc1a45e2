import TableTypes.Proofs.Naming.ListedWords
import TableTypes.Proofs.Naming.Words

/-!
# Listed words and the words of a name

A listed word counts as the last whole word of a name if a single look at the characters around its
beginning says so. Main statement: for names of ASCII letters and underscores, this word is the last
one of the words of the name unless capitals deceive it. Either a boundary lies inside the letters
that are matched, or all of them are capitals and one more capital before them belongs to the same
word.
-/

namespace TableTypes.Naming

open Unicode

/-! ## The last word -/

/-- After a letter or number has been read, the word begun ends in it. -/
theorem exists_wordsFrom_cons (word : List Char) (c : Char) (rest : List Char) :
    ∃ done begun, wordsFrom word (c :: rest) = done ++ wordsFrom begun rest ∧
      (isAlphanumeric c = true → begun.head? = some c) := by
  by_cases hc : isAlphanumeric c = true
  · cases word with
    | nil => exact ⟨[], [c], by simp [wordsFrom, hc], fun _ => rfl⟩
    | cons last word =>
      by_cases hends : wordEnds last c rest.head? = true
      · exact ⟨[(last :: word).reverse], [c], by simp [wordsFrom, hc, hends], fun _ => rfl⟩
      · exact ⟨[], c :: last :: word, by simp [wordsFrom, hc, hends], fun _ => rfl⟩
  · exact ⟨finish word, [], wordsFrom_cons_of_gap (Bool.eq_false_iff.mpr hc) word rest,
      fun h => absurd h hc⟩

/-- A letter or number is read into the word begun or into a new one, behind some words that are
done. -/
theorem exists_wordsFrom_append {b : Char} (hb : isAlphanumeric b = true)
    (word front rest : List Char) :
    ∃ done begun, wordsFrom word (front ++ b :: rest) = done ++ wordsFrom (b :: begun) rest := by
  induction front generalizing word with
  | nil =>
    obtain ⟨done, begun, hread, hhead⟩ := exists_wordsFrom_cons word b rest
    obtain ⟨begun, rfl⟩ := List.head?_eq_some_iff.mp (hhead hb)
    exact ⟨done, begun, hread⟩
  | cons c front ih =>
    obtain ⟨done, begun, hread, -⟩ := exists_wordsFrom_cons word c (front ++ b :: rest)
    obtain ⟨more, begun, hrest⟩ := ih begun
    exact ⟨done ++ more, begun, by rw [List.cons_append, hread, hrest, List.append_assoc]⟩

/-- The first word read holds the word begun. -/
theorem exists_first_word (last : Char) (word rest : List Char) :
    ∃ first others, wordsFrom (last :: word) rest = first :: others ∧
      word.length < first.length := by
  induction rest generalizing last word with
  | nil => exact ⟨(last :: word).reverse, [], rfl, by simp⟩
  | cons c rest ih =>
    by_cases hc : isAlphanumeric c = true
    · by_cases hends : wordEnds last c rest.head? = true
      · exact ⟨(last :: word).reverse, wordsFrom [c] rest, by simp [wordsFrom, hc, hends], by simp⟩
      · obtain ⟨first, others, hread, hlength⟩ := ih c (last :: word)
        rw [List.length_cons] at hlength
        refine ⟨first, others, ?_, Nat.lt_of_succ_lt hlength⟩
        simpa [wordsFrom, hc, hends] using hread
    · have hgap := wordsFrom_cons_of_gap (Bool.eq_false_iff.mpr hc) (last :: word) rest
      exact ⟨(last :: word).reverse, words rest, hgap, by simp⟩

/-- If the last word has the length of the text behind `b`, no word goes on from `b` into it. -/
theorem endsBefore_of_length_last_word {front tail last : List Char} {b : Char}
    (hb : isAlphanumeric b = true) (htail : ∀ c ∈ tail, isAlphanumeric c = true)
    (hlast : last ∈ (words (front ++ b :: tail)).getLast?) (hlength : last.length = tail.length) :
    EndsBefore b tail := by
  intro c hc halnum
  obtain ⟨tail, rfl⟩ := List.head?_eq_some_iff.mp hc
  by_contra hends
  obtain ⟨done, begun, hread⟩ := exists_wordsFrom_append hb [] front (c :: tail)
  obtain ⟨first, others, hwords, hfirst⟩ := exists_first_word c (b :: begun) tail
  have hgrown : wordsFrom (b :: begun) (c :: tail) = first :: others := by
    rw [← hwords, wordsFrom, if_neg (by simp [halnum]), if_neg (by simpa using hends)]
  -- the words from the one with `b` and `c` on have more characters than `tail`
  have htotal : first.length + others.flatten.length = begun.length + 2 + tail.length := by
    have hflatten := congrArg List.length (flatten_wordsFrom (c :: b :: begun) tail)
    rw [hwords, List.filter_eq_self.mpr (List.forall_mem_cons.mp htail).2] at hflatten
    simp only [List.flatten_cons, List.length_append, List.length_reverse, List.length_cons]
      at hflatten
    omega
  rw [words, hread, hgrown, List.getLast?_append] at hlast
  simp only [List.length_cons] at hlength hfirst
  rcases List.eq_nil_or_concat others with rfl | ⟨middle, final, rfl⟩
  · obtain rfl : first = last := by simpa using hlast
    simp only [List.flatten_nil, List.length_nil] at htotal
    omega
  · obtain rfl : final = last := by
      rw [List.concat_eq_append, ← List.cons_append, List.getLast?_concat] at hlast
      simpa using hlast
    simp only [List.concat_eq_append, List.flatten_append, List.length_append,
      List.flatten_singleton] at htotal
    omega

/-- If the last word has the length of the whole text, it is the whole text. -/
theorem words_eq_singleton_of_length {cs last : List Char} (hlast : last ∈ (words cs).getLast?)
    (hlength : last.length = cs.length) : words cs = [cs] := by
  obtain ⟨before, hwords⟩ := List.getLast?_eq_some_iff.mp hlast
  have hflatten := flatten_words cs
  have hfilter := List.length_filter_le isAlphanumeric cs
  have hnone : before.flatten = [] := by
    rw [hwords, List.flatten_append, List.flatten_singleton] at hflatten
    have htotal := congrArg List.length hflatten
    rw [List.length_append] at htotal
    exact List.length_eq_zero_iff.mp (by omega)
  have hbefore : before = [] := by
    refine List.eq_nil_iff_forall_not_mem.mpr fun w hw => ?_
    have hmem : w ∈ words cs := hwords ▸ List.mem_append_left [last] hw
    exact ne_nil_of_mem_words hmem (List.flatten_eq_nil_iff.mp hnone w hw)
  rw [hbefore, List.nil_append] at hwords
  rw [hwords, List.flatten_singleton] at hflatten
  have hall : cs.filter isAlphanumeric = cs :=
    List.filter_sublist.eq_of_length (hflatten ▸ hlength)
  rw [hwords, hflatten, hall]

/-! ## Letters of one case -/

/-- No word ends behind `last` or later. -/
def Unbroken : Char → List Char → Prop
  | _, [] => True
  | last, c :: rest => wordEnds last c rest.head? = false ∧ Unbroken c rest

/-- Letters and numbers are read as one word exactly when none ends among them. -/
theorem wordsFrom_eq_singleton_iff {last : Char} {word rest : List Char}
    (hrest : ∀ c ∈ rest, isAlphanumeric c = true) :
    wordsFrom (last :: word) rest = [(last :: word).reverse ++ rest] ↔ Unbroken last rest := by
  induction rest generalizing last word with
  | nil => simp [wordsFrom, Unbroken]
  | cons c rest ih =>
    obtain ⟨hc, hrest⟩ := List.forall_mem_cons.mp hrest
    have hjoin : (last :: word).reverse ++ c :: rest = (c :: last :: word).reverse ++ rest := by
      simp
    rw [wordsFrom, if_neg (by simp [hc]), Unbroken]
    by_cases hends : wordEnds last c rest.head? = true
    · obtain ⟨first, others, hread, -⟩ := exists_first_word c [] rest
      rw [if_pos hends, hread]
      simp [hends]
    · rw [if_neg hends, hjoin, ih hrest]
      simp [hends]

/-- ASCII letters are letters, have one case and are no digits. -/
theorem letter_spec {c : Char} (hc : c.isAlpha = true) :
    isAlphanumeric c = true ∧ c.isDigit = false ∧ isLowercase c = !isUppercase c := by
  have hascii := toNat_lt_of_isAlpha hc
  rw [isAlphanumeric, isAlphabetic, if_pos hascii, hc, Bool.true_or, isLowercase, if_pos hascii,
    isUppercase, if_pos hascii]
  exact ⟨rfl, of_forall_ascii
    (P := fun c => c.isAlpha = true → c.isDigit = false ∧ c.isLower = !c.isUpper)
    (by decide) hascii hc⟩

/-- Between letters a word ends before a capital, unless capitals stand on both sides of it. -/
theorem wordEnds_of_letters {last c : Char} (hlast : last.isAlpha = true) (hc : c.isAlpha = true)
    (next : Option Char) :
    wordEnds last c next =
      (isUppercase c && (!isUppercase last || next.any isLowercase)) := by
  obtain ⟨-, hlastDigit, hlastCase⟩ := letter_spec hlast
  obtain ⟨-, hdigit, -⟩ := letter_spec hc
  rw [wordEnds, hdigit, hlastDigit, hlastCase]
  cases isUppercase c <;> cases isUppercase last <;> simp

/-- Letters are one word if those behind the first are small or all are capitals. -/
theorem unbroken_iff {last : Char} {rest : List Char} (hlast : last.isAlpha = true)
    (hrest : ∀ c ∈ rest, c.isAlpha = true) :
    Unbroken last rest ↔
      (∀ c ∈ rest, isLowercase c = true) ∨ ∀ c ∈ last :: rest, isUppercase c = true := by
  induction rest generalizing last with
  | nil => simp [Unbroken]
  | cons c rest ih =>
    obtain ⟨hc, hrest⟩ := List.forall_mem_cons.mp hrest
    obtain ⟨-, -, hcase⟩ := letter_spec hc
    rw [Unbroken, ih hc hrest, wordEnds_of_letters hlast hc]
    cases hcapital : isUppercase c with
    | false => simp [hcase, hcapital]
    | true =>
      cases rest with
      | nil => simp [hcase, hcapital]
      | cons d rest =>
        obtain ⟨-, -, hnext⟩ := letter_spec (List.forall_mem_cons.mp hrest).1
        grind

/-- Letters by themselves are one word if those behind the first are small or all are capitals. -/
theorem words_eq_singleton_iff {c : Char} {rest : List Char} (hc : c.isAlpha = true)
    (hrest : ∀ d ∈ rest, d.isAlpha = true) :
    words (c :: rest) = [c :: rest] ↔
      (∀ d ∈ rest, isLowercase d = true) ∨ ∀ d ∈ c :: rest, isUppercase d = true := by
  have hread : words (c :: rest) = wordsFrom [c] rest := by
    simp [words, wordsFrom, (letter_spec hc).1]
  rw [hread, ← unbroken_iff hc hrest,
    ← wordsFrom_eq_singleton_iff fun d hd => (letter_spec (hrest d hd)).1]
  rfl

/-! ## Listed words as last words -/

/-- Names of ASCII letters and underscores. -/
def IsLettered (name : List Char) : Prop :=
  ∀ c ∈ name, c.isAlpha = true ∨ c = '_'

instance (name : List Char) : Decidable (IsLettered name) :=
  inferInstanceAs (Decidable (∀ _ ∈ _, _))

/-- A name of ASCII letters and underscores is of ASCII. -/
theorem IsLettered.ascii {name : List Char} (hname : IsLettered name) : Ascii name := by
  intro c hc
  rcases hname c hc with hletter | rfl
  · exact toNat_lt_of_isAlpha hletter
  · decide

/-- No listed word has an underscore, so letters are all that one matches. -/
theorem isAlpha_of_mem_listedWords {tail : List Char} (htail : IsLettered tail)
    (hword : tail.map Char.toLower ∈ listedWords) : ∀ c ∈ tail, c.isAlpha = true := by
  intro c hc
  refine (htail c hc).resolve_right ?_
  rintro rfl
  have hown := (ownSmall_of_mem_listedWords _ hword).2 _ (List.mem_map_of_mem hc)
  exact absurd hown (by decide)

/-- The letters of `tail` are small but for the first, or all are capitals and none stands right
before them. -/
def CasedAsWord (front tail : List Char) : Prop :=
  (∀ c ∈ tail.tail, isLowercase c = true) ∨
    (∀ c ∈ tail, isUppercase c = true) ∧ ∀ b ∈ front.getLast?, isUppercase b = false

instance (front tail : List Char) : Decidable (CasedAsWord front tail) :=
  inferInstanceAs (Decidable (_ ∨ _ ∧ _))

section LastWord

variable {front rest : List Char} {c : Char}

/-- Behind a letter a word is only taken to begin at a capital. -/
theorem isUppercase_of_beginsWord (h : beginsWord front (c :: rest) = true) {b : Char}
    (hb : b ∈ front.getLast?) (hletter : isAlphanumeric b = true) : isUppercase c = true := by
  have hfront : front ≠ [] := by
    rintro rfl
    cases hb
  simpa [beginsWord, hfront, Option.mem_def.mp hb, hletter] using h

/-- The letter before a listed word ends a word there as the letters are cased. -/
theorem endsBefore_iff {b : Char} (hb : b.isAlpha = true) (hc : c.isAlpha = true)
    (hcapital : isUppercase c = true) :
    EndsBefore b (c :: rest) ↔ isUppercase b = false ∨ ∃ d ∈ rest.head?, isLowercase d = true := by
  have hends : EndsBefore b (c :: rest) ↔ wordEnds b c rest.head? = true := by
    simp [EndsBefore, (letter_spec hc).1]
  rw [hends, wordEnds_of_letters hb hc, hcapital]
  simp [Option.any_eq_true]

/-- A letter or number at the end of such a name is an ASCII letter. -/
theorem isAlpha_of_mem_front (hfront : IsLettered front) {b : Char} (hb : b ∈ front.getLast?)
    (hletter : isAlphanumeric b = true) : b.isAlpha = true := by
  refine (hfront b (List.mem_of_getLast? hb)).resolve_right ?_
  rintro rfl
  exact absurd hletter (by decide)

/-- Letters that are cased as a word and begin one are the last word. -/
theorem words_append_of_casedAsWord (hfront : IsLettered front)
    (hletters : ∀ d ∈ c :: rest, d.isAlpha = true) (hrest : rest ≠ [])
    (hbegins : beginsWord front (c :: rest) = true) (hcased : CasedAsWord front (c :: rest)) :
    words (front ++ c :: rest) = words front ++ [c :: rest] := by
  obtain ⟨hc, htail⟩ := List.forall_mem_cons.mp hletters
  have hone : words (c :: rest) = [c :: rest] :=
    (words_eq_singleton_iff hc htail).mpr (hcased.imp_right And.left)
  rw [words_append, hone]
  intro b hb hletter
  rw [endsBefore_iff (isAlpha_of_mem_front hfront hb hletter) hc
    (isUppercase_of_beginsWord hbegins hb hletter)]
  rcases hcased with hsmall | ⟨-, hnone⟩
  · obtain ⟨d, rest, rfl⟩ := List.exists_cons_of_ne_nil hrest
    exact .inr ⟨d, rfl, hsmall d List.mem_cons_self⟩
  · exact .inl (hnone b hb)

/-- If the last word has as many letters as stand behind `front`, they are cased as a word. -/
theorem casedAsWord_of_length_last_word (hfront : IsLettered front)
    (hletters : ∀ d ∈ c :: rest, d.isAlpha = true)
    (hbegins : beginsWord front (c :: rest) = true) {last : List Char}
    (hlast : last ∈ (words (front ++ c :: rest)).getLast?)
    (hlength : last.length = (c :: rest).length) : CasedAsWord front (c :: rest) := by
  obtain ⟨hc, htail⟩ := List.forall_mem_cons.mp hletters
  have halnum : ∀ d ∈ c :: rest, isAlphanumeric d = true := fun d hd =>
    (letter_spec (hletters d hd)).1
  have hends : ∀ b ∈ front.getLast?, isAlphanumeric b = true → EndsBefore b (c :: rest) := by
    intro b hb hletter
    obtain ⟨before, rfl⟩ := List.getLast?_eq_some_iff.mp hb
    rw [List.append_assoc, List.singleton_append] at hlast
    exact endsBefore_of_length_last_word hletter halnum hlast hlength
  have hone : words (c :: rest) = [c :: rest] := by
    refine words_eq_singleton_of_length ?_ hlength
    have hne : words (c :: rest) ≠ [] := by
      intro hnil
      have hflatten := flatten_words (c :: rest)
      rw [hnil, List.filter_eq_self.mpr halnum] at hflatten
      cases hflatten
    rwa [words_append hends, List.getLast?_append_of_ne_nil _ hne] at hlast
  rcases (words_eq_singleton_iff hc htail).mp hone with hsmall | hcapitals
  · exact .inl hsmall
  · refine .inr ⟨hcapitals, fun b hb => ?_⟩
    by_contra hupper
    rw [Bool.not_eq_false] at hupper
    have hletter : isAlphanumeric b = true := by
      rcases hfront b (List.mem_of_getLast? hb) with hb | rfl
      · exact (letter_spec hb).1
      · exact absurd hupper (by decide)
    have hboundary := hends b hb hletter
    rw [endsBefore_iff (isAlpha_of_mem_front hfront hb hletter) hc
      (hcapitals c List.mem_cons_self)] at hboundary
    rcases hboundary with hnone | ⟨d, hd, hsmall⟩
    · rw [hupper] at hnone
      cases hnone
    · have hd := List.mem_of_head? hd
      rw [(letter_spec (htail d hd)).2.2, hcapitals d (List.mem_cons_of_mem c hd)] at hsmall
      cases hsmall

end LastWord

/-- A listed word has two letters at least. -/
theorem length_of_mem_listedWords : ∀ word ∈ listedWords, 2 ≤ word.length := by
  simp [listedWords, uncountables, irregulars]

/-- For a name of ASCII letters and underscores, a listed word that counts as the last whole word is
the last word of the name in small letters exactly if the letters it matches are cased as a word. -/
theorem last_word_iff_casedAsWord {name word : List Char} (hname : IsLettered name)
    (hword : word ∈ listedWords) (hends : endsWithWord name (lowerFrom [] name) word = true) :
    (∃ last, (words name).getLast? = some last ∧ lowerFrom [] last = word) ↔
      CasedAsWord (name.take (name.length - word.length))
        (name.drop (name.length - word.length)) := by
  obtain ⟨front, tail, rfl, hascii, rfl⟩ :=
    exists_tail_of_suffix hword (suffix_of_endsWithWord hends)
  have hstart : (front ++ tail).length - (tail.map Char.toLower).length = front.length := by
    simp
  rw [hstart, List.take_left, List.drop_left]
  have hbegins : beginsWord front tail = true := by
    rw [endsWithWord_append, Bool.and_eq_true] at hends
    exact hends.2
  have hfront : IsLettered front := fun c hc => hname c (List.mem_append_left tail hc)
  have hletters : ∀ c ∈ tail, c.isAlpha = true :=
    isAlpha_of_mem_listedWords (fun c hc => hname c (List.mem_append_right front hc)) hword
  have hlong := length_of_mem_listedWords _ hword
  rw [List.length_map] at hlong
  obtain ⟨c, rest, rfl⟩ : ∃ c rest, tail = c :: rest :=
    List.exists_cons_of_length_pos (Nat.lt_of_lt_of_le Nat.zero_lt_two hlong)
  constructor
  · rintro ⟨last, hlast, hlower⟩
    have hlastAscii : Ascii last := fun d hd =>
      hname.ascii d (mem_of_mem_words (List.mem_of_getLast? hlast) hd)
    have hlength : last.length = (c :: rest).length := by
      rw [lowerFrom_of_ascii hlastAscii] at hlower
      simpa using congrArg List.length hlower
    exact casedAsWord_of_length_last_word hfront hletters hbegins hlast hlength
  · intro hcased
    have hrest : rest ≠ [] := by
      rintro rfl
      simp at hlong
    refine ⟨c :: rest, ?_, lowerFrom_of_ascii hascii []⟩
    rw [words_append_of_casedAsWord hfront hletters hrest hbegins hcased, List.getLast?_concat]

/-- A capitalized plural behind an acronym. -/
theorem last_word_iff_casedAsWord_of_acronym :
    let name := "my_HTTPPeople".toList
    let word := "people".toList
    IsLettered name ∧ word ∈ listedWords ∧ endsWithWord name (lowerFrom [] name) word = true ∧
      ((∃ last, (words name).getLast? = some last ∧ lowerFrom [] last = word) ↔
        CasedAsWord (name.take (name.length - word.length))
          (name.drop (name.length - word.length))) := by
  intro name word
  have hname : IsLettered name := by simp [name, IsLettered]
  have hword : word ∈ listedWords := by simp [word, listedWords, irregulars]
  have hends : endsWithWord name (lowerFrom [] name) word = true := by decide +kernel
  exact ⟨hname, hword, hends, last_word_iff_casedAsWord hname hword hends⟩

/-- In a name of capitals the end of a longer word counts as a whole word, and is replaced by an
irregular singular form. -/
theorem not_last_word_of_specimen :
    let name := "SPECIMEN".toList
    IsLettered name ∧ "men".toList ∈ listedWords ∧
      endsWithWord name (lowerFrom [] name) "men".toList = true ∧
      words name = [name] ∧ lowerFrom [] name ≠ "men".toList ∧
      singularize [] name = "SPECIMan".toList := by
  intro name
  refine ⟨?_, ?_, ?_, ?_, ?_, ?_⟩
  · simp [name, IsLettered]
  · simp [listedWords, irregulars]
  · decide +kernel
  · decide +kernel
  · decide +kernel
  · decide +kernel

end TableTypes.Naming
