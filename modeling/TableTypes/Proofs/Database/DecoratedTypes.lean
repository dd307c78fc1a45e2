import TableTypes.Proofs.Database.CatalogNames
import TableTypes.Proofs.Sql.DomainText

/-!
# How data types are written

A type can have parameters behind any of its words, array marks behind all of them, blanks around
itself and letters of either case. Its parts between blanks and signs are put in small letters one
by one.
-/

namespace TableTypes

open Sql (Blanks Visible EndsVisible)

namespace CatalogType

/-! ## Words, parameters and array marks -/

/-- The characters of a text in small letters. -/
def small (cs : List Char) : List Char :=
  Unicode.lowerFrom [] cs

/-- Whether a character is no part of a word of a type: a blank, a dot, a bracket or a
parenthesis. -/
def partsWords (c : Char) : Bool :=
  Unicode.isBlank c || ['.', '[', ']', '(', ')'].contains c

/-- Parameters of a type: a text in parentheses, with blanks before it. -/
structure Parameters where
  blanks : List Char
  inside : List Char
  isBlank : Blanks blanks
  noClose : ')' ∉ inside

/-- A word of a type, with parameters behind it or without. -/
structure Word where
  letters : List Char
  parameters : Option Parameters
  nonempty : letters ≠ []
  plain : ∀ c ∈ letters, partsWords c = false

/-- A mark that makes a type an array: a text in brackets, or the word `array` in any letter case
behind a space. -/
inductive ArrayMark where
  | brackets (inside : List Char) (noOpen : '[' ∉ inside)
  | word (letters : List Char) (isArray : ' ' :: small letters = arrayWord)

/-- A type as it can be written: words with single spaces between them, array marks behind the
words, and blanks around all of it. The last of several words is not the word `array`, which would
be a mark. -/
structure Decorated where
  front : List Char
  first : Word
  rest : List Word
  marks : List ArrayMark
  back : List Char
  blank_front : Blanks front
  blank_back : Blanks back
  last_ne_array : ∀ w ∈ rest.getLast?, ' ' :: small w.letters ≠ arrayWord

/-- The parameters with their blanks and parentheses. -/
def Parameters.chars (p : Parameters) : List Char :=
  p.blanks ++ '(' :: (p.inside ++ [')'])

/-- A word and its parameters. -/
def Word.chars (w : Word) : List Char :=
  w.letters ++ w.parameters.elim [] Parameters.chars

/-- A mark as it is written. -/
def ArrayMark.chars : ArrayMark → List Char
  | brackets inside _ => '[' :: (inside ++ [']'])
  | word letters _ => ' ' :: letters

/-- Words and their parameters with single spaces between them. -/
def elementChars (first : Word) (rest : List Word) : List Char :=
  first.chars ++ rest.flatMap fun w => ' ' :: w.chars

/-- Words without their parameters with single spaces between them. -/
def plainChars (first : Word) (rest : List Word) : List Char :=
  first.letters ++ rest.flatMap fun w => ' ' :: w.letters

/-- The text of a type. -/
def Decorated.text (t : Decorated) : String :=
  String.ofList
    (t.front ++ (elementChars t.first t.rest ++ t.marks.flatMap ArrayMark.chars) ++ t.back)

/-- The words of a type, with nothing around them. -/
def Decorated.plain (t : Decorated) : String :=
  String.ofList (plainChars t.first t.rest)

/-! ## Small letters -/

/-- The characters of a text in small letters are put so together. -/
theorem toList_lowercase_ofList (cs : List Char) :
    (Unicode.lowercase (String.ofList cs)).toList = small cs := by
  simp [Unicode.lowercase, small]

/-- A sign among small letters has been there before. -/
theorem mem_of_mem_small {cs : List Char} {d : Char} (hd : d ∈ small cs)
    (hsign : Unicode.covers Unicode.signSpans d = true) : d ∈ cs := by
  rw [← toList_lowercase_ofList] at hd
  simpa using Unicode.mem_of_mem_lowercase hd hsign

/-- A sign is kept among small letters. -/
theorem mem_small {cs : List Char} {d : Char} (hd : d ∈ cs)
    (hsign : Unicode.covers Unicode.signSpans d = true) : d ∈ small cs := by
  rw [← toList_lowercase_ofList]
  exact Unicode.mem_lowercase (by simpa using hd) hsign

/-- What parts words is a blank or a sign. -/
theorem covers_of_partsWords {c : Char} (hc : partsWords c = true) :
    Unicode.covers Unicode.signSpans c = true := by
  rcases Bool.or_eq_true_iff.mp hc with hblank | hsign
  · exact Unicode.covers_signSpans_of_isBlank hblank
  · have hall : (['.', '[', ']', '(', ')'].all (Unicode.covers Unicode.signSpans)) = true := by
      decide
    exact List.all_eq_true.mp hall c (List.contains_iff_mem.mp hsign)

/-- Parameters in small letters. -/
def Parameters.small (p : Parameters) : Parameters :=
  { p with
    inside := CatalogType.small p.inside
    noClose := fun h => p.noClose (mem_of_mem_small h (by decide)) }

/-- A word in small letters, with its parameters. -/
def Word.small (w : Word) : Word where
  letters := CatalogType.small w.letters
  parameters := w.parameters.map Parameters.small
  nonempty := Unicode.lowerFrom_ne_nil w.nonempty []
  plain := fun c hc => by
    by_contra hparts
    rw [Bool.not_eq_false] at hparts
    simp [w.plain c (mem_of_mem_small hc (covers_of_partsWords hparts))] at hparts

/-- A word without its parameters. -/
def Word.bare (w : Word) : Word :=
  { w with parameters := none }

/-- A mark in small letters. -/
def ArrayMark.smallChars : ArrayMark → List Char
  | brackets inside _ => '[' :: (small inside ++ [']'])
  | word _ _ => arrayWord

/-- Where a blank or a sign comes, a text is put in small letters part by part. -/
theorem small_append {tail : List Char} (h : ∀ c ∈ tail.head?, Unicode.PartsCase c)
    (cs : List Char) : small (cs ++ tail) = small cs ++ small tail :=
  Unicode.lowerFrom_append h cs

/-- Small letters are put behind a sign as they are without it. -/
theorem small_cons {c : Char} (hc : Unicode.PartsCase c) (cs : List Char) :
    small (c :: cs) = c :: small cs := by
  simpa [small, Unicode.lowerFrom] using Unicode.lowerFrom_append_cons hc [] [] cs

/-- A text between two signs is put in small letters as if it stood alone. -/
theorem small_enclosed {a b : Char} (ha : Unicode.PartsCase a) (hb : Unicode.PartsCase b)
    (cs : List Char) : small (a :: (cs ++ [b])) = a :: (small cs ++ [b]) := by
  have hend : ∀ c ∈ [b].head?, Unicode.PartsCase c := by simpa using hb
  rw [small_cons ha, small_append hend, small_cons hb]
  rfl

/-- Spaces, brackets and parentheses part the letters of a type. -/
theorem partsCase_of_mem {c : Char} (hc : c ∈ [' ', '(', ')', '[', ']']) : Unicode.PartsCase c := by
  have hall : ([' ', '(', ')', '[', ']'].all fun c => decide (Unicode.PartsCase c)) = true := by
    decide +kernel
  simpa using List.all_eq_true.mp hall c hc

/-- Parameters in small letters are written so. -/
theorem Parameters.small_chars (p : Parameters) : CatalogType.small p.chars = p.small.chars := by
  have hblanks : CatalogType.small p.blanks = p.blanks :=
    Unicode.lowerFrom_of_partsCase (fun c hc => Unicode.partsCase_of_isBlank (p.isBlank c hc)) []
  have hopen : Unicode.PartsCase '(' := partsCase_of_mem (by decide)
  have hclose : Unicode.PartsCase ')' := partsCase_of_mem (by decide)
  rw [chars, small_append (by simpa using hopen), hblanks, small_enclosed hopen hclose]
  rfl

/-- Parameters begin with a blank or a sign. -/
theorem Parameters.partsCase_head (p : Parameters) :
    ∀ c ∈ p.chars.head?, Unicode.PartsCase c := by
  obtain ⟨blanks, inside, hblanks, hinside⟩ := p
  cases blanks with
  | nil =>
    have hopen : Unicode.PartsCase '(' := partsCase_of_mem (by decide)
    simpa [chars] using hopen
  | cons b blanks =>
    have hb : Unicode.PartsCase b := Unicode.partsCase_of_isBlank (hblanks b List.mem_cons_self)
    simpa [chars] using hb

/-- A word in small letters is written so, with its parameters. -/
theorem Word.small_chars (w : Word) : CatalogType.small w.chars = w.small.chars := by
  obtain ⟨letters, parameters, hne, hplain⟩ := w
  cases parameters with
  | none => simp [chars, small]
  | some p =>
    simp only [chars, small, Option.elim_some, Option.map_some]
    rw [small_append p.partsCase_head, p.small_chars]

/-- A mark in small letters is written so. -/
theorem ArrayMark.small_chars (m : ArrayMark) : small m.chars = m.smallChars := by
  cases m with
  | brackets inside noOpen =>
    exact small_enclosed (partsCase_of_mem (by decide)) (partsCase_of_mem (by decide)) inside
  | word letters isArray =>
    rw [chars, small_cons (partsCase_of_mem (by decide)), isArray]
    rfl

/-- Texts that each begin with a blank or a sign are put in small letters one by one. -/
theorem small_append_flatMap {α : Type} {f : α → List Char}
    (hf : ∀ a, ∀ c ∈ (f a).head?, Unicode.PartsCase c) (hne : ∀ a, f a ≠ [])
    (cs : List Char) (as : List α) :
    small (cs ++ as.flatMap f) = small cs ++ as.flatMap fun a => small (f a) := by
  induction as generalizing cs with
  | nil => simp
  | cons a as ih =>
    have hhead : ∀ c ∈ (f a ++ as.flatMap f).head?, Unicode.PartsCase c := by
      intro c hc
      rw [List.head?_append_of_ne_nil _ (hne a)] at hc
      exact hf a c hc
    rw [List.flatMap_cons, List.flatMap_cons, small_append hhead, ih]

/-- A space parts words whose letters are put in small ones. -/
theorem partsCase_space : Unicode.PartsCase ' ' :=
  partsCase_of_mem (by decide)

/-- Words are put in small letters one by one. -/
theorem small_append_spaced {α : Type} (f : α → List Char) (cs : List Char) (as : List α) :
    small (cs ++ as.flatMap fun a => ' ' :: f a) =
      small cs ++ as.flatMap fun a => ' ' :: small (f a) := by
  rw [small_append_flatMap (fun a => by simpa using partsCase_space) (fun a => by simp)]
  simp only [small_cons partsCase_space]

/-- Words with parameters are put in small letters one by one. -/
theorem small_elementChars (first : Word) (rest : List Word) :
    small (elementChars first rest) = elementChars first.small (rest.map Word.small) := by
  simp only [elementChars, small_append_spaced, Word.small_chars, List.flatMap_map]

/-- Words without parameters are put in small letters one by one. -/
theorem small_plainChars (first : Word) (rest : List Word) :
    small (plainChars first rest) = plainChars first.small (rest.map Word.small) := by
  simp only [plainChars, small_append_spaced, Word.small, List.flatMap_map]

/-- A mark begins with a bracket or a space. -/
theorem ArrayMark.partsCase_head (m : ArrayMark) : ∀ c ∈ m.chars.head?, Unicode.PartsCase c := by
  cases m with
  | brackets inside noOpen =>
    have hopen : Unicode.PartsCase '[' := partsCase_of_mem (by decide)
    simpa [chars] using hopen
  | word letters isArray => simpa [chars] using partsCase_space

/-- A type and its marks are put in small letters part by part. -/
theorem small_append_marks (cs : List Char) (marks : List ArrayMark) :
    small (cs ++ marks.flatMap ArrayMark.chars) =
      small cs ++ marks.flatMap ArrayMark.smallChars := by
  have hne (m : ArrayMark) : m.chars ≠ [] := by cases m <;> simp [ArrayMark.chars]
  rw [small_append_flatMap ArrayMark.partsCase_head hne]
  simp only [ArrayMark.small_chars]

/-! ## Where the words end -/

/-- A word has no blanks. -/
theorem Word.noBlank (w : Word) : ∀ c ∈ w.letters, Unicode.isBlank c = false := by
  intro c hc
  have hplain := w.plain c hc
  rw [partsWords, Bool.or_eq_false_iff] at hplain
  exact hplain.1

/-- A word begins with a character that is no blank. -/
theorem Word.visible (w : Word) : Visible w.chars :=
  (Sql.visible_of_noBlank w.nonempty w.noBlank).1.append _

/-- A word ends with a character that is no blank, with parameters or without. -/
theorem Word.endsVisible (w : Word) : EndsVisible w.chars := by
  obtain ⟨letters, parameters, hne, hplain⟩ := w
  cases parameters with
  | none =>
    simpa [chars] using (Sql.visible_of_noBlank hne (noBlank ⟨letters, none, hne, hplain⟩)).2
  | some p =>
    refine ⟨letters ++ p.blanks ++ '(' :: p.inside, ')', ?_, by decide⟩
    simp [chars, Parameters.chars]

/-- Words begin with a character that is no blank. -/
theorem visible_elementChars (first : Word) (rest : List Word) :
    Visible (elementChars first rest) :=
  first.visible.append _

/-- One more word stands behind a space. -/
theorem elementChars_concat (first : Word) (rest : List Word) (w : Word) :
    elementChars first (rest ++ [w]) = elementChars first rest ++ ' ' :: w.chars := by
  simp [elementChars]

/-- Words end with a character that is no blank. -/
theorem endsVisible_elementChars (first : Word) (rest : List Word) :
    EndsVisible (elementChars first rest) := by
  rcases List.eq_nil_or_concat' rest with rfl | ⟨rest, w, rfl⟩
  · simpa [elementChars] using first.endsVisible
  · rw [elementChars_concat, ← List.singleton_append, ← List.append_assoc]
    exact w.endsVisible.append _

end CatalogType

end TableTypes
