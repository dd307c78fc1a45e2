import Mathlib.Data.List.Induction
import Mathlib.Data.Option.Basic
import TableTypes.Proofs.Database.DecoratedTypes

/-!
# What decoration makes of a data type

Array marks are taken away from the end of a type one by one, then the parameters from behind its
words, and what is left are the words in small letters. So decoration makes no difference to the
catalog name that is read, and the array marks alone say whether the type is an array.
-/

namespace TableTypes

open Sql (Blanks Visible EndsVisible)

namespace CatalogType

/-! ## Array marks -/

/-- Parameters end with the closing parenthesis. -/
theorem Parameters.getLast?_append_chars (p : Parameters) (cs : List Char) :
    (cs ++ p.chars).getLast? = some ')' := by
  have hlast : cs ++ p.chars = (cs ++ p.blanks ++ '(' :: p.inside) ++ [')'] := by simp [chars]
  rw [hlast, List.getLast?_concat]

/-- A word is not empty. -/
theorem Word.chars_ne_nil (w : Word) : w.chars ≠ [] :=
  List.append_ne_nil_of_left_ne_nil w.nonempty _

/-- A word does not end with a bracket. -/
theorem Word.getLast?_ne_bracket (w : Word) : w.chars.getLast? ≠ some ']' := by
  obtain ⟨letters, parameters, hne, hplain⟩ := w
  cases parameters with
  | none =>
    intro hlast
    have hmem : ']' ∈ letters := by simpa [chars] using List.mem_of_getLast? hlast
    exact absurd (hplain _ hmem) (by decide)
  | some p =>
    rw [chars, Option.elim_some, p.getLast?_append_chars]
    decide

/-- Only a word without parameters can end as an array does. -/
theorem Word.chars_of_arrayWord_suffix {w : Word} {cs : List Char}
    (h : arrayWord <:+ cs ++ w.chars) : w.chars = w.letters := by
  obtain ⟨letters, parameters, hne, hplain⟩ := w
  cases parameters with
  | none => simp [chars]
  | some p =>
    obtain ⟨before, heq⟩ := h
    have hlast := congrArg List.getLast? heq
    rw [chars, Option.elim_some, ← List.append_assoc, p.getLast?_append_chars,
      List.getLast?_append_of_ne_nil _ (by decide)] at hlast
    exact absurd hlast (by decide)

/-- A word has no space in it. -/
theorem Word.space_notMem (w : Word) : ' ' ∉ w.letters := fun h =>
  absurd (w.noBlank ' ' h) (by decide)

/-- A type has no array mark if its last word is not the word for one. -/
theorem arrayElement?_elementChars (first : Word) {rest : List Word}
    (h : ∀ w ∈ rest.getLast?, ' ' :: w.letters ≠ arrayWord) :
    arrayElement? (elementChars first rest) = none := by
  rcases List.eq_nil_or_concat' rest with rfl | ⟨rest, w, rfl⟩
  · have helement : elementChars first [] = first.chars := by simp [elementChars]
    rw [helement]
    refine arrayElement?_eq_none first.getLast?_ne_bracket fun hword => ?_
    have hsuffix : arrayWord <:+ [] ++ first.chars := hword
    rw [first.chars_of_arrayWord_suffix hsuffix] at hword
    exact first.space_notMem (hword.subset (by decide))
  · have helement : elementChars first (rest ++ [w]) =
        elementChars first rest ++ [' '] ++ w.chars := by simp [elementChars_concat]
    rw [helement]
    refine arrayElement?_eq_none ?_ fun hword => ?_
    · rw [List.getLast?_append_of_ne_nil _ w.chars_ne_nil]
      exact w.getLast?_ne_bracket
    · rw [w.chars_of_arrayWord_suffix hword, List.append_assoc, List.singleton_append] at hword
      obtain ⟨before, heq⟩ := hword
      have hcut := congrArg (Text.cutLast? ' ') heq
      rw [arrayWord, Text.cutLast?_append_cons (by decide),
        Text.cutLast?_append_cons w.space_notMem, Option.some.injEq, Prod.mk.injEq] at hcut
      refine h w (by simp) ?_
      rw [← hcut.2, arrayWord]

/-- Nothing is trimmed off an end that is no blank. -/
theorem trimEnd_eq_self {cs : List Char} (h : EndsVisible cs) : Unicode.trimEnd cs = cs := by
  simpa [Unicode.trimEnd] using Sql.trimEnd_append h []

/-- The last mark is taken away. -/
theorem arrayElement?_append_mark {cs : List Char} (h : EndsVisible cs) (m : ArrayMark) :
    arrayElement? (cs ++ m.smallChars) = some cs := by
  cases m with
  | brackets inside noOpen =>
    have hlast : (cs ++ '[' :: (small inside ++ [']'])).getLast? = some ']' := by
      simp [List.getLast?_cons]
    have hopen : '[' ∉ small inside ++ [']'] := by
      intro hmem
      rcases List.mem_append.mp hmem with hmem | hmem
      · exact noOpen (mem_of_mem_small hmem (by decide))
      · exact absurd hmem (by decide)
    rw [ArrayMark.smallChars, arrayElement?, beforeBrackets?, if_pos hlast,
      Text.cutLast?_append_cons hopen]
    simp [trimEnd_eq_self h]
  | word letters isArray =>
    have hlast : (cs ++ arrayWord).getLast? ≠ some ']' := by simp [arrayWord]
    have hsuffix : arrayWord.isSuffixOf (cs ++ arrayWord) = true :=
      List.isSuffixOf_iff_suffix.mpr (List.suffix_append _ _)
    rw [ArrayMark.smallChars, arrayElement?, beforeBrackets?, if_neg hlast, beforeArrayWord?,
      if_pos hsuffix]
    simp [trimEnd_eq_self h]

/-- A mark in small letters ends with no blank. -/
theorem ArrayMark.endsVisible_smallChars (m : ArrayMark) : EndsVisible m.smallChars := by
  cases m with
  | brackets inside noOpen => exact ⟨'[' :: small inside, ']', by simp [smallChars], by decide⟩
  | word letters isArray => exact ⟨[' ', 'a', 'r', 'r', 'a'], 'y', rfl, by decide⟩

/-- A mark ends with no blank. -/
theorem ArrayMark.endsVisible_chars (m : ArrayMark) : EndsVisible m.chars := by
  cases m with
  | brackets inside noOpen => exact ⟨'[' :: inside, ']', by simp [chars], by decide⟩
  | word letters isArray =>
    have hsmall : small letters = ['a', 'r', 'r', 'a', 'y'] := (List.cons.inj isArray).2
    have hne : letters ≠ [] := by
      rintro rfl
      cases hsmall
    have hblank : ∀ c ∈ letters, Unicode.isBlank c = false := by
      intro c hc
      by_contra hblank
      rw [Bool.not_eq_false] at hblank
      have hmem : c ∈ ['a', 'r', 'r', 'a', 'y'] :=
        hsmall ▸ mem_small hc (Unicode.covers_signSpans_of_isBlank hblank)
      have hnone : (['a', 'r', 'r', 'a', 'y'].any Unicode.isBlank) = false := by decide
      exact List.any_eq_false.mp hnone c hmem hblank
    exact (Sql.visible_of_noBlank hne hblank).2.append [' ']

/-- Texts that end with no blank, put behind such a text, end with none together. -/
theorem endsVisible_append_flatMap {α : Type} {f : α → List Char} (hf : ∀ a, EndsVisible (f a))
    {cs : List Char} (h : EndsVisible cs) (as : List α) : EndsVisible (cs ++ as.flatMap f) := by
  rcases List.eq_nil_or_concat' as with rfl | ⟨as, a, rfl⟩
  · simpa using h
  · simpa using (hf a).append (cs ++ as.flatMap f)

/-- All marks are taken away, and whether there were any is known. -/
theorem stripArrays_append_marks {cs : List Char} (hends : EndsVisible cs)
    (h : arrayElement? cs = none) (marks : List ArrayMark) :
    stripArrays (cs ++ marks.flatMap ArrayMark.smallChars) = (cs, decide (0 < marks.length)) := by
  induction marks using List.reverseRecOn with
  | nil => simpa using stripArrays_of_none h
  | append_singleton marks m ih =>
    have hlast : arrayElement? (cs ++ (marks ++ [m]).flatMap ArrayMark.smallChars) =
        some (cs ++ marks.flatMap ArrayMark.smallChars) := by
      rw [List.flatMap_append, List.flatMap_singleton, ← List.append_assoc]
      have hcs := endsVisible_append_flatMap ArrayMark.endsVisible_smallChars hends marks
      exact arrayElement?_append_mark hcs m
    rw [stripArrays_of_some hlast, ih]
    simp

/-! ## Parameters -/

/-- What is to be skipped is left out. -/
theorem stripParametersFrom_skip (passed rest : List Char) :
    stripParametersFrom passed.length (passed ++ rest) = stripParametersFrom 0 rest := by
  induction passed with
  | nil => rfl
  | cons c passed ih => rw [List.length_cons, List.cons_append, stripParametersFrom, ih]

/-- Dropping as many characters as there are at the front is dropping those. -/
theorem drop_takeWhile (p : Char → Bool) (cs : List Char) :
    cs.drop (cs.takeWhile p).length = cs.dropWhile p := by
  have hdrop : (cs.takeWhile p ++ cs.dropWhile p).drop (cs.takeWhile p).length =
      cs.dropWhile p := List.drop_left
  rwa [List.takeWhile_append_dropWhile] at hdrop

/-- A character stays unless parameters begin at it. -/
theorem stripParametersFrom_cons {c : Char} {rest : List Char}
    (h : ((c :: rest).dropWhile Unicode.isBlank).head? ≠ some '(') :
    stripParametersFrom 0 (c :: rest) = c :: stripParametersFrom 0 rest := by
  rw [stripParametersFrom, drop_takeWhile]
  split
  · next inside hinside => exact absurd (congrArg List.head? hinside) h
  · rfl

/-- Parameters are taken away with the blanks before them. -/
theorem stripParametersFrom_parameters (p : Parameters) (rest : List Char) :
    stripParametersFrom 0 (p.chars ++ rest) = stripParametersFrom 0 rest := by
  have hinside : p.chars ++ rest = p.blanks ++ '(' :: (p.inside ++ ')' :: rest) := by
    simp [Parameters.chars]
  have hblanks : (p.chars ++ rest).takeWhile Unicode.isBlank = p.blanks := by
    rw [hinside, List.takeWhile_append_of_pos p.isBlank, List.takeWhile_cons_of_neg (by decide),
      List.append_nil]
  obtain ⟨c, passed, hchars⟩ : ∃ c passed, p.chars = c :: passed := by
    cases hp : p.chars with
    | nil => simp [Parameters.chars] at hp
    | cons c passed => exact ⟨c, passed, rfl⟩
  have hlength : p.blanks.length + p.inside.length + 1 = passed.length := by
    have h := congrArg List.length hchars
    simp only [Parameters.chars, List.length_append, List.length_cons, List.length_nil] at h
    omega
  have hdrop : (p.chars ++ rest).drop p.blanks.length = '(' :: (p.inside ++ ')' :: rest) := by
    rw [hinside, List.drop_left]
  rw [hchars, List.cons_append] at hblanks hdrop ⊢
  rw [stripParametersFrom]
  simp only [hblanks, hdrop, Text.cut?_append_cons p.noClose, hlength]
  exact stripParametersFrom_skip passed rest

/-- What parts no words is neither a blank nor the opening parenthesis. -/
theorem not_blank_and_not_open {c : Char} (hc : partsWords c = false) :
    Unicode.isBlank c = false ∧ c ≠ '(' := by
  rw [partsWords, Bool.or_eq_false_iff] at hc
  refine ⟨hc.1, ?_⟩
  rintro rfl
  exact absurd hc.2 (by decide)

/-- The letters of a word stay. -/
theorem stripParametersFrom_letters {letters : List Char} (h : ∀ c ∈ letters, partsWords c = false)
    (rest : List Char) :
    stripParametersFrom 0 (letters ++ rest) = letters ++ stripParametersFrom 0 rest := by
  induction letters with
  | nil => rfl
  | cons c letters ih =>
    obtain ⟨hc, hletters⟩ := List.forall_mem_cons.mp h
    obtain ⟨hblank, hopen⟩ := not_blank_and_not_open hc
    rw [List.cons_append, stripParametersFrom_cons (by simp [hblank, hopen]), ih hletters,
      List.cons_append]

/-- A word stays without its parameters. -/
theorem stripParametersFrom_word (w : Word) (rest : List Char) :
    stripParametersFrom 0 (w.chars ++ rest) = w.letters ++ stripParametersFrom 0 rest := by
  obtain ⟨letters, parameters, hne, hplain⟩ := w
  rw [Word.chars, List.append_assoc, stripParametersFrom_letters hplain]
  cases parameters with
  | none => rfl
  | some p => rw [Option.elim_some, stripParametersFrom_parameters]

/-- A word behind a space stays with the space and without its parameters. -/
theorem stripParametersFrom_spacedWord (w : Word) (rest : List Char) :
    stripParametersFrom 0 (' ' :: (w.chars ++ rest)) =
      ' ' :: w.letters ++ stripParametersFrom 0 rest := by
  obtain ⟨c, letters, hletters⟩ := List.exists_cons_of_ne_nil w.nonempty
  obtain ⟨hblank, hopen⟩ := not_blank_and_not_open (w.plain c (by simp [hletters]))
  have hhead : ((' ' :: (w.chars ++ rest)).dropWhile Unicode.isBlank).head? ≠ some '(' := by
    rw [List.dropWhile_cons_of_pos (by decide), Word.chars, hletters]
    simp [hblank, hopen]
  rw [stripParametersFrom_cons hhead, stripParametersFrom_word, List.cons_append]

/-- The words of a type are left without their parameters. -/
theorem stripParameters_elementChars (first : Word) (rest : List Word) :
    stripParameters (elementChars first rest) = plainChars first rest := by
  rw [stripParameters, elementChars, stripParametersFrom_word, plainChars]
  congr 1
  induction rest with
  | nil => rfl
  | cons w rest ih =>
    rw [List.flatMap_cons, List.cons_append, stripParametersFrom_spacedWord, ih, List.flatMap_cons]

/-! ## Reading a type with decoration -/

/-- A type in small letters without the blanks around it and without its array marks, and whether it
had any. -/
def unmarked (text : String) : List Char × Bool :=
  stripArrays (Unicode.lowercase (Unicode.trimText text)).toList

/-- Blanks around a text are trimmed off, and no more. -/
theorem trim_around {front cs back : List Char} (hfront : Blanks front) (hback : Blanks back)
    (hbegin : Visible cs) (hend : EndsVisible cs) : Unicode.trim (front ++ cs ++ back) = cs := by
  have hnone : Unicode.trimEnd ([] ++ back) = [] := Sql.trimEnd_append_of_blanks hback
  have hdrop : Unicode.trim (front ++ (cs ++ back)) = Unicode.trim (cs ++ back) := by
    rw [Unicode.trim, List.dropWhile_append_of_pos hfront, ← Unicode.trim]
  rw [List.nil_append] at hnone
  rw [List.append_assoc, hdrop, Sql.trim_append hbegin hend, hnone, List.append_nil]

/-- A type in small letters, without the blanks around it. -/
theorem toList_lowercase_trimText (t : Decorated) :
    (Unicode.lowercase (Unicode.trimText t.text)).toList =
      elementChars t.first.small (t.rest.map Word.small) ++
        t.marks.flatMap ArrayMark.smallChars := by
  have hbegin := (visible_elementChars t.first t.rest).append (t.marks.flatMap ArrayMark.chars)
  have hend := endsVisible_append_flatMap ArrayMark.endsVisible_chars
    (endsVisible_elementChars t.first t.rest) t.marks
  rw [Unicode.trimText, Decorated.text, String.toList_ofList,
    trim_around t.blank_front t.blank_back hbegin hend, toList_lowercase_ofList,
    small_append_marks, small_elementChars]

/-- The array marks of a type are taken away. -/
theorem stripArrays_text (t : Decorated) :
    unmarked t.text =
      (elementChars t.first.small (t.rest.map Word.small), decide (0 < t.marks.length)) := by
  have hlast : ∀ w ∈ (t.rest.map Word.small).getLast?, ' ' :: w.letters ≠ arrayWord := by
    intro w hw
    rw [List.getLast?_map] at hw
    obtain ⟨v, hv, rfl⟩ := Option.mem_map.mp hw
    exact t.last_ne_array v hv
  rw [unmarked, toList_lowercase_trimText]
  exact stripArrays_append_marks (endsVisible_elementChars _ _)
    (arrayElement?_elementChars t.first.small hlast) t.marks

/-- What is left of a type without its marks and its parameters are its words in small letters. -/
theorem stripParameters_text (t : Decorated) :
    stripParameters (unmarked t.text).1 = (Unicode.lowercase t.plain).toList := by
  rw [stripArrays_text, stripParameters_elementChars, Decorated.plain, toList_lowercase_ofList,
    small_plainChars]

/-- Small letters stay small letters. -/
theorem small_small (cs : List Char) : small (small cs) = small cs := by
  have htwice := Unicode.lowercase_lowercase (String.ofList cs)
  rw [← String.toList_inj, toList_lowercase_ofList] at htwice
  rwa [← String.ofList_toList (s := Unicode.lowercase (String.ofList cs)), toList_lowercase_ofList,
    toList_lowercase_ofList] at htwice

/-- The words of a type alone, in small letters. -/
def Decorated.bare (t : Decorated) : Decorated where
  front := []
  first := t.first.small.bare
  rest := t.rest.map fun w => w.small.bare
  marks := []
  back := []
  blank_front := by simp [Blanks]
  blank_back := by simp [Blanks]
  last_ne_array := by
    intro w hw
    rw [List.getLast?_map] at hw
    obtain ⟨v, hv, rfl⟩ := Option.mem_map.mp hw
    have hletters : small v.small.bare.letters = small v.letters := small_small v.letters
    rw [hletters]
    exact t.last_ne_array v hv

/-- Without its parameters a word keeps its letters. -/
@[simp] theorem Word.letters_bare (w : Word) : w.bare.letters = w.letters :=
  rfl

/-- A word without parameters is written with its letters alone. -/
@[simp] theorem Word.chars_bare (w : Word) : w.bare.chars = w.letters :=
  List.append_nil w.letters

/-- The bare type has the words in small letters. -/
theorem plain_bare (t : Decorated) : t.bare.plain = Unicode.lowercase t.plain := by
  rw [← String.toList_inj, Decorated.plain, Decorated.plain, toList_lowercase_ofList,
    small_plainChars, String.toList_ofList]
  simp [plainChars, Decorated.bare, List.flatMap_map]

/-- The bare type is written with its words alone. -/
theorem text_bare (t : Decorated) : t.bare.text = t.bare.plain := by
  simp [Decorated.text, Decorated.plain, elementChars, plainChars, Decorated.bare,
    List.flatMap_map]

/-- What is read of a type is known from what is left of it, apart from whether it is an array. -/
theorem read_congr {dialect : Dialect} {text text' : String}
    (h : stripParameters (unmarked text).1 = stripParameters (unmarked text').1) :
    read dialect text = { read dialect text' with isArray := (unmarked text).2 } := by
  unfold unmarked at h ⊢
  unfold read
  dsimp only
  rw [h]

/-- A type is read as its words are, apart from whether it is an array. -/
theorem read_text (dialect : Dialect) (t : Decorated) :
    read dialect t.text = { read dialect (Unicode.lowercase t.plain) with
      isArray := decide (0 < t.marks.length) } := by
  have hbare : Unicode.lowercase t.plain = t.bare.text := by rw [text_bare, plain_bare]
  have hsame : stripParameters (unmarked t.text).1 = stripParameters (unmarked t.bare.text).1 := by
    rw [stripParameters_text, stripParameters_text, plain_bare, Unicode.lowercase_lowercase]
  rw [read_congr hsame, stripArrays_text, hbare]

/-- A type is read as an array if it has had a mark. -/
theorem isArray_read (dialect : Dialect) (text : String) :
    (read dialect text).isArray = (unmarked text).2 :=
  rfl

/-- No dot is left of a type, so it is read without a schema. -/
theorem schema_read (dialect : Dialect) (t : Decorated) : (read dialect t.text).schema = none := by
  have hwords : '.' ∉ plainChars t.first t.rest := by
    have hword (w : Word) : '.' ∉ w.letters := fun h => absurd (w.plain '.' h) (by decide)
    simp [plainChars, hword]
  have hplain : '.' ∉ plainText dialect t.text := by
    have hstrip := stripParameters_text t
    unfold unmarked at hstrip
    unfold plainText
    dsimp only
    rw [hstrip, Decorated.plain, toList_lowercase_ofList]
    intro hdot
    have hsmall : '.' ∈ small (plainChars t.first t.rest) := by
      rcases mem_joinWords hdot with h | h
      · exact absurd h (by decide)
      · split at h
        · exact foldl_erase_subset mysqlModifiers _ h
        · exact h
    exact hwords (mem_of_mem_small hsmall (by decide))
  rcases read_cases dialect t.text with ⟨schema, name, hcut, -, -⟩ | ⟨-, hschema, -⟩
  · exact absurd (Text.cutLast?_eq_some hcut ▸ by simp) hplain
  · exact hschema

/-! ## The end of the reading -/

/-- From a text array marks are taken away one by one, until there is none, in no more steps than
the text has characters. -/
theorem exists_steps_stripArrays (cs : List Char) :
    ∃ n ≤ cs.length, (Option.bind · arrayElement?)^[n] (some cs) = some (stripArrays cs).1 ∧
      arrayElement? (stripArrays cs).1 = none ∧ ((stripArrays cs).2 = true ↔ 0 < n) := by
  induction cs using stripArrays.induct with
  | case1 cs element h ih =>
    obtain ⟨n, hn, hsteps, hend, -⟩ := ih
    have hshorter := length_arrayElement? h
    rw [stripArrays_of_some h]
    refine ⟨n + 1, by omega, ?_, hend, by simp⟩
    rw [Function.iterate_succ_apply, Option.bind_some, h]
    exact hsteps
  | case2 cs h =>
    rw [stripArrays_of_none h]
    exact ⟨0, Nat.zero_le _, rfl, h, by simp⟩

/-- **Decoration makes no difference to a type.** A type with parameters, array marks and blanks, in
any letter case, is read as its words in small letters are, without a schema, and it is an array
exactly when it has a mark. Whatever a text is, its array marks come to an end. -/
theorem read_decorated (dialect : Dialect) :
    (∀ t : Decorated,
      (read dialect (Unicode.lowercase t.plain)).schema = none ∧
      (read dialect (Unicode.lowercase t.plain)).isArray = false ∧
      read dialect t.text = { read dialect (Unicode.lowercase t.plain) with
        isArray := decide (0 < t.marks.length) }) ∧
    ∀ text : String,
      let cs := (Unicode.lowercase (Unicode.trimText text)).toList
      ∃ n ≤ cs.length, (Option.bind · arrayElement?)^[n] (some cs) = some (stripArrays cs).1 ∧
        arrayElement? (stripArrays cs).1 = none ∧
        ((read dialect text).isArray = true ↔ 0 < n) := by
  refine ⟨fun t => ?_, fun text => ?_⟩
  · have htext := read_text dialect t
    have hbare : t.bare.text = Unicode.lowercase t.plain := by rw [text_bare, plain_bare]
    refine ⟨?_, ?_, htext⟩
    · rw [← hbare]
      exact schema_read dialect t.bare
    · rw [← hbare, isArray_read, stripArrays_text]
      rfl
  · rw [isArray_read]
    exact exists_steps_stripArrays _

/-- The words `Double PRECISION` with blanks around them, parameters behind the first word, and an
array mark of each kind. -/
def decoratedDouble : Decorated where
  front := [' ']
  first :=
    { letters := ['D', 'o', 'u', 'b', 'l', 'e']
      parameters := some
        { blanks := [' '], inside := ['8']
          isBlank := by simpa [Blanks] using by decide
          noClose := by decide }
      nonempty := by decide
      plain := by simpa using by decide }
  rest :=
    [{ letters := ['P', 'R', 'E', 'C', 'I', 'S', 'I', 'O', 'N'], parameters := none
       nonempty := by decide
       plain := by simpa using by decide }]
  marks :=
    [.brackets [] (by decide), .brackets ['4'] (by decide),
      .word ['A', 'R', 'R', 'A', 'Y'] (by decide)]
  back := ['\n']
  blank_front := by simpa [Blanks] using by decide
  blank_back := by simpa [Blanks] using by decide
  last_ne_array := by simpa using by decide

/-- Decoration of every kind is ignored at once, and three marks make an array. -/
theorem read_decorated_of_double_precision :
    decoratedDouble.text = " Double (8) PRECISION[][4] ARRAY\n" ∧
    decoratedDouble.plain = "Double PRECISION" ∧
    read .postgres decoratedDouble.text = { name := "float8", isArray := true } := by
  obtain ⟨-, -, htext⟩ := (read_decorated .postgres).1 decoratedDouble
  have hsmall : Unicode.lowercase decoratedDouble.plain = "double precision" := by decide
  have hplain : read .postgres "double precision" = { name := "float8" } := by decide +kernel
  refine ⟨rfl, rfl, ?_⟩
  rw [htext, hsmall, hplain]
  rfl

end CatalogType

end TableTypes
