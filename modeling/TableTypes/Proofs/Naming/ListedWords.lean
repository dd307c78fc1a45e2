import TableTypes.Proofs.Text.Bytes
import TableTypes.Proofs.Unicode.AsciiLetters

/-!
# Listed words at the end of a name

Words without a singular form and irregular plurals are looked up in the lower case of a name, and
then the name itself is cut where as many bytes are left as the word has. Letter case can change the
number of bytes in both directions. Main statement: the cut never fails, because the listed words
are ASCII letters that stand at the end of a lower case only as that of the same letters.
-/

namespace TableTypes.Naming

open Unicode
open Text (cutAtByte?)
open String (utf8Len)

/-- The words that are looked for at the end of a name. -/
def listedWords : List (List Char) :=
  uncountables ++ irregulars.map Prod.fst

/-- The listed words are of small ASCII letters without `k`. -/
theorem ownSmall_of_mem_listedWords :
    ∀ word ∈ listedWords, word ≠ [] ∧ ∀ c ∈ word, OwnSmall c := by
  simp [listedWords, uncountables, irregulars, OwnSmall]

/-- Words without a plural of their own are listed. -/
theorem mem_listedWords_of_mem_uncountables {word : List Char} (h : word ∈ uncountables) :
    word ∈ listedWords :=
  List.mem_append_left _ h

/-- Irregular plurals are listed. -/
theorem mem_listedWords_of_mem_irregulars {entry : List Char × List Char}
    (h : entry ∈ irregulars) : entry.1 ∈ listedWords :=
  List.mem_append_right _ (List.mem_map_of_mem h)

/-- A listed word that the lower case of a name ends in is the lower case of ASCII letters at the
end of the name. -/
theorem exists_tail_of_suffix {name word : List Char} (hword : word ∈ listedWords)
    (hends : word <:+ lowerFrom [] name) :
    ∃ front tail, name = front ++ tail ∧ Ascii tail ∧ tail.map Char.toLower = word :=
  exists_tail_of_suffix_lowerFrom (ownSmall_of_mem_listedWords word hword).2 hends

/-- Whether a word begins between two parts of a name: nothing or no letter or number stands before
it, or its first character is a capital. -/
def beginsWord (front tail : List Char) : Bool :=
  front.isEmpty || front.getLast?.any (fun c => !isAlphanumeric c) || tail.head?.any isUppercase

/-- A listed word is the last whole word if the letters that it matches begin a word. -/
theorem endsWithWord_append (front tail lower : List Char) :
    endsWithWord (front ++ tail) lower (tail.map Char.toLower) =
      ((tail.map Char.toLower).isSuffixOf lower && beginsWord front tail) := by
  have hstart : (front ++ tail).length - (tail.map Char.toLower).length = front.length := by
    simp
  unfold endsWithWord beginsWord
  rw [hstart]
  cases front with
  | nil => rfl
  | cons c front => simp

/-- A name that ends with a word has it at the end of its lower case. -/
theorem suffix_of_endsWithWord {name lower word : List Char}
    (h : endsWithWord name lower word = true) : word <:+ lower := by
  rw [endsWithWord, Bool.and_eq_true] at h
  exact List.isSuffixOf_iff_suffix.mp h.1

/-! ## The steps of the built-in rules -/

/-- Whether the last whole word of a name has no singular form. -/
def isUncountable (name : List Char) : Bool :=
  uncountables.any (endsWithWord name (lowerFrom [] name))

/-- The irregular plural that is the last whole word of a name, with its singular form. -/
def irregular? (name : List Char) : Option (List Char × List Char) :=
  irregulars.find? fun entry => endsWithWord name (lowerFrom [] name) entry.1

/-- A name changed by the first rule for endings that applies. -/
def endingSingular (name : List Char) : List Char :=
  (endingRules.findSome? fun rule => rule.apply? name).getD name

/-- A name that is not counted stays, an irregular plural has its own singular, and an ending
decides on the others. -/
theorem builtinSingular_eq (name : List Char) :
    builtinSingular name =
      if isUncountable name then name
      else
        match irregular? name with
        | some (plural, singular) =>
          name.take (name.length - plural.length) ++
            matchCase (name.drop (name.length - plural.length)) singular
        | none => endingSingular name :=
  rfl

/-- A name that is not counted stays. -/
theorem builtinSingular_of_isUncountable {name : List Char} (h : isUncountable name = true) :
    builtinSingular name = name :=
  if_pos h

/-- The ending of a name decides if it is neither uncounted nor irregular. -/
theorem builtinSingular_of_irregular?_eq_none {name : List Char} (h : isUncountable name = false)
    (hnone : irregular? name = none) : builtinSingular name = endingSingular name := by
  rw [builtinSingular_eq, if_neg (Bool.eq_false_iff.mp h), hnone]

/-- An irregular plural that is found is one of the list and ends the name. -/
theorem exists_tail_of_irregular? {name : List Char} {entry : List Char × List Char}
    (hfound : irregular? name = some entry) :
    entry ∈ irregulars ∧
      ∃ front tail, name = front ++ tail ∧ Ascii tail ∧ tail.map Char.toLower = entry.1 := by
  have hentry := List.mem_of_find?_eq_some hfound
  have hends : endsWithWord name (lowerFrom [] name) entry.1 = true := by
    simpa using List.find?_some hfound
  exact ⟨hentry, exists_tail_of_suffix (mem_listedWords_of_mem_irregulars hentry)
    (suffix_of_endsWithWord hends)⟩

/-- The irregular plural at the end of a name is replaced by its singular form. -/
theorem builtinSingular_of_irregular?_eq_some {front tail singular : List Char}
    (h : isUncountable (front ++ tail) = false)
    (hfound : irregular? (front ++ tail) = some (tail.map Char.toLower, singular)) :
    builtinSingular (front ++ tail) = front ++ matchCase tail singular := by
  have hstart : (front ++ tail).length - (tail.map Char.toLower).length = front.length := by
    simp
  rw [builtinSingular_eq, if_neg (Bool.eq_false_iff.mp h), hfound]
  dsimp only
  rw [hstart, List.take_left, List.drop_left]

/-! ## The same on bytes -/

/-- The parts of a name before the place where as many bytes are left as `word` has and from there
on, or `none` if the name has fewer bytes or a character lies across that place. -/
def cutBefore? (name word : List Char) : Option (List Char × List Char) :=
  if utf8Len word ≤ utf8Len name then cutAtByte? (utf8Len name - utf8Len word) name else none

/-- Whether `word` is the last whole word of a name, or `none` where the name cannot be cut. -/
def endsWithWord? (name lower word : List Char) : Option Bool :=
  if word.isSuffixOf lower then
    (cutBefore? name word).map fun (front, tail) => beginsWord front tail
  else some false

/-- The singular form by the built-in rules, or `none` where the name cannot be cut. -/
def builtinSingular? (name : List Char) : Option (List Char) := do
  let lower := lowerFrom [] name
  if ← uncountables.anyM (endsWithWord? name lower) then return name
  match ← irregulars.findM? fun entry => endsWithWord? name lower entry.1 with
  | some (plural, singular) =>
    let (front, tail) ← cutBefore? name plural
    return front ++ matchCase tail singular
  | none => return endingSingular name

/-- The singular form of a name, or `none` where the name cannot be cut. -/
def singularize? (rules : List SingularRule) (name : List Char) : Option (List Char) :=
  match rules.findSome? fun rule => rule.pattern.replaceFirst? rule.replacement name with
  | some singular => some singular
  | none => builtinSingular? name

/-! ## No cut fails -/

/-- ASCII characters have one byte each. -/
theorem utf8Len_of_ascii {cs : List Char} (hcs : Ascii cs) : utf8Len cs = cs.length := by
  induction cs with
  | nil => rfl
  | cons c cs ih =>
    obtain ⟨hc, hcs⟩ := ascii_cons.mp hcs
    have hsize : c.utf8Size = 1 :=
      Char.utf8Size_eq_one_iff.mpr (UInt32.le_iff_toNat_le.mpr (Nat.le_of_lt_succ hc))
    rw [String.utf8Len_cons, ih hcs, hsize, List.length_cons]

/-- A name is cut before ASCII letters by the bytes of their lower case. -/
theorem cutBefore?_append (front : List Char) {tail : List Char} (htail : Ascii tail) :
    cutBefore? (front ++ tail) (tail.map Char.toLower) = some (front, tail) := by
  have hlower : Ascii (tail.map Char.toLower) := by
    refine List.forall_mem_map.mpr fun c hc => ?_
    exact of_forall_ascii (P := fun c => c.toLower.toNat < 128) (by decide) (htail c hc)
  have hbytes : utf8Len (tail.map Char.toLower) = utf8Len tail := by
    rw [utf8Len_of_ascii hlower, utf8Len_of_ascii htail, List.length_map]
  rw [cutBefore?, hbytes, String.utf8Len_append, if_pos (Nat.le_add_left _ _),
    Nat.add_sub_cancel, Text.cutAtByte?_append]

/-- The test for a listed word never fails, and gives what the test on characters gives. -/
theorem endsWithWord?_eq {name word : List Char} (hword : word ∈ listedWords) :
    endsWithWord? name (lowerFrom [] name) word =
      some (endsWithWord name (lowerFrom [] name) word) := by
  unfold endsWithWord?
  split
  · next hends =>
    obtain ⟨front, tail, rfl, hascii, rfl⟩ :=
      exists_tail_of_suffix hword (List.isSuffixOf_iff_suffix.mp hends)
    rw [cutBefore?_append front hascii, endsWithWord_append, hends]
    rfl
  · next hends => rw [endsWithWord, Bool.eq_false_iff.mpr hends, Bool.false_and]

/-- The search with cuts is the one without them if no cut fails. -/
theorem anyM_eq_some {α : Type} {p : α → Option Bool} {q : α → Bool} {xs : List α}
    (h : ∀ x ∈ xs, p x = some (q x)) : xs.anyM p = some (xs.any q) := by
  induction xs with
  | nil => rfl
  | cons x xs ih =>
    obtain ⟨hx, hxs⟩ := List.forall_mem_cons.mp h
    rw [List.anyM_cons, hx, List.any_cons, ih hxs]
    cases q x <;> rfl

/-- A search whose tests do not fail gives what the plain search gives. -/
theorem findM?_eq_some {α : Type} {p : α → Option Bool} {q : α → Bool} {xs : List α}
    (h : ∀ x ∈ xs, p x = some (q x)) : xs.findM? p = some (xs.find? q) := by
  induction xs with
  | nil => rfl
  | cons x xs ih =>
    obtain ⟨hx, hxs⟩ := List.forall_mem_cons.mp h
    rw [List.findM?, hx, List.find?_cons, ih hxs]
    cases q x <;> rfl

/-- The built-in singular by byte positions never fails, and is the one by characters. -/
theorem builtinSingular?_eq (name : List Char) :
    builtinSingular? name = some (builtinSingular name) := by
  have hany : uncountables.anyM (endsWithWord? name (lowerFrom [] name)) =
      some (isUncountable name) :=
    anyM_eq_some fun word h => endsWithWord?_eq (mem_listedWords_of_mem_uncountables h)
  have hfind : irregulars.findM? (fun entry => endsWithWord? name (lowerFrom [] name) entry.1) =
      some (irregular? name) :=
    findM?_eq_some fun entry h => endsWithWord?_eq (mem_listedWords_of_mem_irregulars h)
  simp only [builtinSingular?, hany, hfind, Option.bind_eq_bind, Option.bind_some, Option.pure_def]
  cases hcount : isUncountable name with
  | true => rw [if_pos rfl, builtinSingular_of_isUncountable hcount]
  | false =>
    rw [if_neg Bool.false_ne_true]
    cases hfound : irregular? name with
    | none => rw [builtinSingular_of_irregular?_eq_none hcount hfound]
    | some entry =>
      obtain ⟨plural, singular⟩ := entry
      obtain ⟨-, front, tail, rfl, hascii, rfl⟩ := exists_tail_of_irregular? hfound
      rw [builtinSingular_of_irregular?_eq_some hcount hfound]
      simp only [cutBefore?_append front hascii, Option.bind_some]

/-- Making a name singular by byte positions never fails, and gives what doing so by characters
gives. -/
theorem singularize?_eq (rules : List SingularRule) (name : List Char) :
    singularize? rules name = some (singularize rules name) := by
  unfold singularize? singularize
  split
  · next singular hfound => rw [hfound, Option.getD_some]
  · next hnone => rw [hnone, Option.getD_none, builtinSingular?_eq]

/-- If the lower case of a name ends in a listed word, the name has as many bytes as the word, a
character begins where as many are left, and from there the name is the word up to the case of ASCII
letters. So no test for such a word and no singular form fails to cut the name. -/
theorem listed_words_cut_safely (name : List Char) :
    (∀ word ∈ listedWords, word <:+ lowerFrom [] name →
      utf8Len word ≤ utf8Len name ∧
        ∃ front tail,
          cutAtByte? (utf8Len name - utf8Len word) name = some (front, tail) ∧
            tail.map Char.toLower = word) ∧
      (∀ word ∈ listedWords,
        endsWithWord? name (lowerFrom [] name) word =
          some (endsWithWord name (lowerFrom [] name) word)) ∧
      ∀ rules, singularize? rules name = some (singularize rules name) := by
  refine ⟨fun word hword hends => ?_, fun word hword => endsWithWord?_eq hword,
    fun rules => singularize?_eq rules name⟩
  obtain ⟨front, tail, rfl, hascii, rfl⟩ := exists_tail_of_suffix hword hends
  have hcut := cutBefore?_append front hascii
  rw [cutBefore?] at hcut
  split at hcut
  · next hle => exact ⟨hle, front, tail, hcut, rfl⟩
  · cases hcut

end TableTypes.Naming
