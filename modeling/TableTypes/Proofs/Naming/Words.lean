import Mathlib.Data.List.Chain
import TableTypes.Naming.Style
import TableTypes.Naming.Words
import TableTypes.Proofs.Unicode.LetterCase

/-!
# Where words end

A boundary between two characters is decided from both and from the case of what follows. What
follows makes no difference at the end of a word: no word ends before a small letter, unless behind
a digit, where nothing but the digit counts. So a word by itself is one word, and a name can be cut
at any boundary and each part read alone. Main statement: the words of a name have all its letters
and numbers in order, each word being of digits or without them, and joined by underscores they are
read as the same words.
-/

namespace TableTypes.Naming

open Unicode

/-! ## Boundaries -/

/-- Whether a character finds a small letter behind it, which digits do not look for. -/
def seesSmall (c : Char) (next : Option Char) : Bool :=
  !c.isDigit && next.any isLowercase

/-- At the end no small letter is found. -/
@[simp] theorem seesSmall_none (c : Char) : seesSmall c none = false := by
  simp [seesSmall]

/-- All that a boundary before `c` takes from what follows is whether `c` finds a small letter. -/
theorem wordEnds_congr {last c : Char} {next other : Option Char}
    (h : seesSmall c next = seesSmall c other) : wordEnds last c next = wordEnds last c other := by
  unfold wordEnds
  split
  · rfl
  · next hdigit =>
    simp only [seesSmall, Bool.eq_false_iff.mpr hdigit, Bool.not_false, Bool.true_and] at h
    rw [h]

/-- A word has no small letter right behind its last character, unless this is a digit. -/
theorem seesSmall_of_wordEnds {last c : Char} {next : Option Char}
    (h : wordEnds last c next = true) : seesSmall last (some c) = false := by
  by_cases hlast : last.isDigit = true
  · simp [seesSmall, hlast]
  have hsmall : isLowercase c = false := by
    by_contra hsmall
    rw [Bool.not_eq_false] at hsmall
    have hdigit : c.isDigit = false := by
      by_contra hdigit
      rw [isLowercase_of_isDigit (Bool.not_eq_false _ ▸ hdigit)] at hsmall
      cases hsmall
    simp [wordEnds, hlast, hdigit, isUppercase_of_isLowercase hsmall] at h
  simp [seesSmall, hsmall]

/-- What is no letter or number is no small letter. -/
theorem seesSmall_of_gap {last c : Char} (hgap : isAlphanumeric c = false) :
    seesSmall last (some c) = false := by
  have hsmall : isLowercase c = false := by
    by_contra hsmall
    rw [isAlphanumeric_of_isLowercase (Bool.not_eq_false _ ▸ hsmall)] at hgap
    cases hgap
  simp [seesSmall, hsmall]

/-- Where no word ends, both characters are digits or neither is, and no capital follows a small
letter. -/
theorem alike_of_not_wordEnds {a b : Char} {next : Option Char} (h : wordEnds a b next = false) :
    a.isDigit = b.isDigit ∧ (isLowercase a = true → isUppercase b = false) := by
  unfold wordEnds at h
  split at h
  · next hb =>
    have ha : a.isDigit = true := by simpa using h
    exact ⟨ha.trans hb.symm, fun hsmall => by simp [isLowercase_of_isDigit ha] at hsmall⟩
  · next hb =>
    split at h
    · cases h
    · next ha =>
      refine ⟨(Bool.eq_false_iff.mpr ha).trans (Bool.eq_false_iff.mpr hb).symm, fun hsmall => ?_⟩
      by_contra hcapital
      rw [if_pos (Bool.not_eq_false _ ▸ hcapital), hsmall, Bool.true_or] at h
      cases h

/-- No word goes on from `last` into `rest`. -/
def EndsBefore (last : Char) (rest : List Char) : Prop :=
  ∀ c ∈ rest.head?, isAlphanumeric c = true → wordEnds last c rest.tail.head? = true

/-- No word goes on into a gap. -/
theorem endsBefore_of_gap {last c : Char} (hgap : isAlphanumeric c = false) (rest : List Char) :
    EndsBefore last (c :: rest) := by
  intro d hd halnum
  obtain rfl : c = d := Option.some.inj hd
  rw [hgap] at halnum
  cases halnum

/-- Where no word goes on, the last character finds no small letter behind it. -/
theorem EndsBefore.seesSmall {last : Char} {rest : List Char} (h : EndsBefore last rest) :
    seesSmall last rest.head? = false := by
  cases rest with
  | nil => exact seesSmall_none last
  | cons c rest =>
    by_cases hc : isAlphanumeric c = true
    · exact seesSmall_of_wordEnds (h c rfl hc)
    · exact seesSmall_of_gap (Bool.eq_false_iff.mpr hc)

/-! ## Reading a name in parts -/

/-- Without letters there is no word to finish. -/
@[simp] theorem finish_nil : finish [] = [] := rfl

/-- The letters of a word are kept with the last one first. -/
@[simp] theorem finish_cons (c : Char) (word : List Char) :
    finish (c :: word) = [(c :: word).reverse] := rfl

/-- The empty name has no words. -/
@[simp] theorem words_nil : words [] = [] := by
  simp [words, wordsFrom]

/-- At a gap the word begun is finished, and the words of the rest follow. -/
theorem wordsFrom_cons_of_gap {c : Char} (hgap : isAlphanumeric c = false)
    (word rest : List Char) : wordsFrom word (c :: rest) = finish word ++ words rest := by
  unfold wordsFrom
  rw [if_pos (by simp [hgap]), words]

/-- A gap at the beginning makes no difference to the words. -/
theorem words_cons_of_gap {c : Char} (hgap : isAlphanumeric c = false) (rest : List Char) :
    words (c :: rest) = words rest :=
  wordsFrom_cons_of_gap hgap [] rest

/-- The word begun is finished at a boundary. -/
theorem wordsFrom_of_endsBefore {word rest : List Char}
    (h : ∀ last ∈ word.head?, EndsBefore last rest) :
    wordsFrom word rest = finish word ++ words rest := by
  cases rest with
  | nil => simp [words, wordsFrom]
  | cons c rest =>
    by_cases hc : isAlphanumeric c = true
    · cases word with
      | nil => rfl
      | cons last word =>
        have hends : wordEnds last c rest.head? = true := by
          simpa using h last rfl c rfl hc
        simp [words, wordsFrom, hc, hends]
    · have hgap : isAlphanumeric c = false := Bool.eq_false_iff.mpr hc
      rw [wordsFrom_cons_of_gap hgap, words_cons_of_gap hgap]

/-- The characters before a boundary are read the same when what follows it is left out. -/
theorem wordsFrom_append {word cs rest : List Char}
    (h : ∀ last ∈ (word.reverse ++ cs).getLast?, isAlphanumeric last = true → EndsBefore last rest)
    (hword : ∀ last ∈ word.head?, isAlphanumeric last = true) :
    wordsFrom word (cs ++ rest) = wordsFrom word cs ++ words rest := by
  have hlast {c : Char} {cs front : List Char} (hc : c ∈ cs.getLast?) :
      c ∈ (front ++ cs).getLast? := by
    rw [List.getLast?_append, Option.mem_def.mp hc]
    rfl
  -- the last character of `cs` may find more behind it, but no small letter
  have hsees {c : Char} {cs : List Char} (hc : isAlphanumeric c = true)
      (hends : ∀ last ∈ (c :: cs).getLast?, isAlphanumeric last = true → EndsBefore last rest) :
      seesSmall c (cs ++ rest).head? = seesSmall c cs.head? := by
    cases cs with
    | nil => exact (hends c rfl hc).seesSmall.trans (seesSmall_none c).symm
    | cons d cs => rfl
  induction word, cs using wordsFrom.induct with
  | case1 word =>
    have hends : ∀ last ∈ word.head?, EndsBefore last rest := fun last hlast =>
      h last (by simpa using hlast) (hword last hlast)
    rw [List.nil_append, wordsFrom_of_endsBefore hends, wordsFrom]
  | case2 word c cs hgap ih =>
    have hgap' : isAlphanumeric c = false := by simpa using hgap
    have hrest : words (cs ++ rest) = words cs ++ words rest :=
      ih (fun last hmem => h last (List.append_cons word.reverse c cs ▸ hlast hmem)) (by simp)
    rw [List.cons_append, wordsFrom_cons_of_gap hgap', wordsFrom_cons_of_gap hgap', hrest,
      List.append_assoc]
  | case3 c cs hgap ih =>
    have halnum : isAlphanumeric c = true := by simpa using hgap
    rw [List.cons_append, wordsFrom, if_neg hgap, wordsFrom, if_neg hgap]
    exact ih h (by simpa using halnum)
  | case4 c cs hgap last word hends ih =>
    have halnum : isAlphanumeric c = true := by simpa using hgap
    have htail : ∀ d ∈ (c :: cs).getLast?, isAlphanumeric d = true → EndsBefore d rest :=
      fun d hd => h d (hlast hd)
    rw [List.cons_append, wordsFrom, if_neg hgap,
      if_pos ((wordEnds_congr (hsees halnum htail)).trans hends), wordsFrom, if_neg hgap,
      if_pos hends, List.cons_append, ih htail (by simpa using halnum)]
  | case5 c cs hgap last word hends ih =>
    have halnum : isAlphanumeric c = true := by simpa using hgap
    have hsame : wordEnds last c (cs ++ rest).head? = wordEnds last c cs.head? :=
      wordEnds_congr (hsees halnum fun d hd => h d (hlast hd))
    rw [List.cons_append, wordsFrom, if_neg hgap, if_neg (hsame ▸ hends), wordsFrom, if_neg hgap,
      if_neg hends]
    exact ih (by simpa using h) (by simpa using halnum)

/-- A name is read in two parts if no word goes on from one into the other. -/
theorem words_append {cs rest : List Char}
    (h : ∀ last ∈ cs.getLast?, isAlphanumeric last = true → EndsBefore last rest) :
    words (cs ++ rest) = words cs ++ words rest :=
  wordsFrom_append h (by simp)

/-! ## One word by itself -/

section Reading

variable {B : List Char → List Char → Prop} {P : List Char → Prop}

/-- What is so of a word begun, as it grows before the characters to come, is so of each word when
it ends. -/
theorem forall_mem_wordsFrom
    (hstart : ∀ c rest, isAlphanumeric c = true → B [c] rest)
    (hgrow : ∀ c last word rest, B (last :: word) (c :: rest) → isAlphanumeric c = true →
      wordEnds last c rest.head? = false → B (c :: last :: word) rest)
    (hend : ∀ last word rest, B (last :: word) rest → seesSmall last rest.head? = false →
      P (last :: word).reverse)
    {word rest : List Char} (hword : word ≠ [] → B word rest) :
    ∀ w ∈ wordsFrom word rest, P w := by
  have hfinish {word rest : List Char} (hword : word ≠ [] → B word rest)
      (hsees : ∀ last, seesSmall last rest.head? = false) : ∀ w ∈ finish word, P w := by
    cases word with
    | nil => exact List.forall_mem_nil _
    | cons last word =>
      exact List.forall_mem_singleton.mpr (hend last word rest (hword (by simp)) (hsees last))
  induction word, rest using wordsFrom.induct with
  | case1 word =>
    rw [wordsFrom]
    exact hfinish hword seesSmall_none
  | case2 word c rest hgap ih =>
    have hgap' : isAlphanumeric c = false := by simpa using hgap
    rw [wordsFrom_cons_of_gap hgap']
    exact List.forall_mem_append.mpr
      ⟨hfinish hword fun _ => seesSmall_of_gap hgap', ih fun h => absurd rfl h⟩
  | case3 c rest hgap ih =>
    rw [wordsFrom, if_neg hgap]
    exact ih fun _ => hstart c rest (by simpa using hgap)
  | case4 c rest hgap last word hends ih =>
    rw [wordsFrom, if_neg hgap, if_pos hends]
    exact List.forall_mem_cons.mpr
      ⟨hend last word (c :: rest) (hword (by simp)) (seesSmall_of_wordEnds hends),
        ih fun _ => hstart c rest (by simpa using hgap)⟩
  | case5 c rest hgap last word hends ih =>
    rw [wordsFrom, if_neg hgap, if_neg hends]
    exact ih fun _ =>
      hgrow c last word rest (hword (by simp)) (by simpa using hgap) (by simpa using hends)

end Reading

/-- The word begun is read the same from its first character, whatever comes behind `word` instead
of `rest`, as long as the last character of `word` finds the same there. -/
def Resumes (word rest : List Char) : Prop :=
  ∀ more : List Char,
    (∀ last ∈ word.head?, seesSmall last more.head? = seesSmall last rest.head?) →
      words (word.reverse ++ more) = wordsFrom word more

/-- A word of one letter or number is read the same from it. -/
theorem resumes_singleton {c : Char} (hc : isAlphanumeric c = true) (rest : List Char) :
    Resumes [c] rest := by
  intro more _
  simp [words, wordsFrom, hc]

/-- A word resumes with one more character that does not end it. -/
theorem Resumes.grow {last c : Char} {word rest : List Char}
    (h : Resumes (last :: word) (c :: rest)) (hc : isAlphanumeric c = true)
    (hends : wordEnds last c rest.head? = false) : Resumes (c :: last :: word) rest := by
  intro more hmore
  have hsame : wordEnds last c more.head? = false := (wordEnds_congr (hmore c rfl)).trans hends
  calc words ((c :: last :: word).reverse ++ more)
      = words ((last :: word).reverse ++ c :: more) := by simp
    _ = wordsFrom (last :: word) (c :: more) := h (c :: more) fun _ _ => rfl
    _ = wordsFrom (c :: last :: word) more := by simp [wordsFrom, hc, hsame]

/-- Each word of a name is one word by itself. -/
theorem words_of_mem_words {name w : List Char} (hw : w ∈ words name) : words w = [w] := by
  refine forall_mem_wordsFrom (B := Resumes) (P := fun w => words w = [w])
    (fun c rest hc => resumes_singleton hc rest)
    (fun c last word rest h hc hends => h.grow hc hends)
    (fun last word rest h hsees => ?_) (fun h => absurd rfl h) w hw
  have hread := h [] fun d hd => by
    obtain rfl : last = d := Option.some.inj hd
    exact (seesSmall_none last).trans hsees.symm
  simpa [wordsFrom] using hread

/-- A word is not empty. -/
theorem ne_nil_of_mem_words {name w : List Char} (hw : w ∈ words name) : w ≠ [] := by
  rintro rfl
  simpa using words_of_mem_words hw

/-- Words joined by underscores are read as they were. -/
theorem words_intercalate {ws : List (List Char)} (h : ∀ w ∈ ws, words w = [w]) :
    words (['_'].intercalate ws) = ws := by
  have hgap : isAlphanumeric '_' = false := by decide
  induction ws with
  | nil => exact words_nil
  | cons w ws ih =>
    obtain ⟨hw, hws⟩ := List.forall_mem_cons.mp h
    cases ws with
    | nil => rwa [List.intercalate_singleton]
    | cons next ws =>
      rw [List.intercalate_cons_cons, List.append_assoc, List.singleton_append,
        words_append fun _ _ _ => endsBefore_of_gap hgap _, words_cons_of_gap hgap, ih hws, hw,
        List.singleton_append]

/-! ## What the words hold -/

/-- The words read hold the letters and numbers in order. -/
theorem flatten_wordsFrom (word rest : List Char) :
    (wordsFrom word rest).flatten = word.reverse ++ rest.filter isAlphanumeric := by
  have hfinish (word : List Char) : (finish word).flatten = word.reverse := by
    cases word <;> simp
  induction word, rest using wordsFrom.induct with
  | case1 word => simp [wordsFrom, hfinish]
  | case2 word c rest hgap ih => simp_all [wordsFrom]
  | case3 c rest hgap ih => simp_all [wordsFrom]
  | case4 c rest hgap last word hends ih => simp_all [wordsFrom]
  | case5 c rest hgap last word hends ih => simp_all [wordsFrom]

/-- The words of a name hold its letters and numbers in order. -/
theorem flatten_words (name : List Char) : (words name).flatten = name.filter isAlphanumeric :=
  flatten_wordsFrom [] name

/-- What holds of two characters between which no word ends holds along each word. -/
theorem isChain_of_mem_words {R : Char → Char → Prop}
    (hR : ∀ a b next, wordEnds a b next = false → R a b) {name w : List Char}
    (hw : w ∈ words name) : w.IsChain R :=
  forall_mem_wordsFrom (B := fun word _ => word.IsChain (flip R))
    (fun c _ _ => .singleton c)
    (fun c last _ rest h _ hends => .cons_cons (hR last c rest.head? hends) h)
    (fun _ _ _ h _ => List.isChain_reverse.mpr h) (fun h => absurd rfl h) w hw

/-- What neighbours agree on is so for all characters or for none. -/
theorem all_or_none_of_isChain {p : Char → Bool} {w : List Char}
    (h : w.IsChain fun a b => p a = p b) : (∀ c ∈ w, p c = true) ∨ ∀ c ∈ w, p c = false := by
  induction w with
  | nil => exact .inl (List.forall_mem_nil _)
  | cons c w ih =>
    cases w with
    | nil => cases hc : p c <;> simp [hc]
    | cons d w =>
      obtain ⟨hcd, hw⟩ := List.isChain_cons_cons.mp h
      refine (ih hw).imp (fun hall => ?_) (fun hall => ?_)
      · exact List.forall_mem_cons.mpr ⟨hcd.trans (hall d List.mem_cons_self), hall⟩
      · exact List.forall_mem_cons.mpr ⟨hcd.trans (hall d List.mem_cons_self), hall⟩

/-- The words of a name lose none of its letters and numbers, are never empty, are of digits or have
none, and have no capital behind a small letter. Joined by underscores they are read as the same
words. -/
theorem words_lossless_and_stable (name : List Char) :
    (words name).flatten = name.filter isAlphanumeric ∧
      (∀ w ∈ words name, w ≠ [] ∧
        ((∀ c ∈ w, c.isDigit = true) ∨ ∀ c ∈ w, c.isDigit = false) ∧
        ∀ a b, [a, b] <:+: w → isLowercase a = true → isUppercase b = false) ∧
      words (underscored name) = words name := by
  refine ⟨flatten_words name, fun w hw => ⟨ne_nil_of_mem_words hw, ?_, fun a b hab => ?_⟩,
    words_intercalate fun w hw => words_of_mem_words hw⟩
  · exact all_or_none_of_isChain
      (isChain_of_mem_words (fun _ _ _ h => (alike_of_not_wordEnds h).1) hw)
  · have hchain : w.IsChain fun a b => isLowercase a = true → isUppercase b = false :=
      isChain_of_mem_words (fun _ _ _ h => (alike_of_not_wordEnds h).2) hw
    exact List.isChain_pair.mp ( List.IsChain.infix hchain hab)

end TableTypes.Naming
