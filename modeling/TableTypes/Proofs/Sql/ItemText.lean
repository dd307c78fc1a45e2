import TableTypes.Proofs.Sql.DomainText
import TableTypes.Proofs.Sql.CheckText
import TableTypes.Proofs.Text.Cut

/-!
# The words in the items of a view

The items of a view are cut at the commas, and each item that can be read has one word or three, of
which the second is `AS`. So where a list of items goes on behind its last word with a keyword other
than `AS`, it can no longer be read.
-/

namespace TableTypes

/-! ## Pieces -/

/-- A text is cut at each separator on both sides of one of them. -/
theorem Text.splitOn_append (sep : Char) (before after : List Char) :
    splitOn sep (before ++ sep :: after) = splitOn sep before ++ splitOn sep after := by
  induction before with
  | nil => simp [splitOn]
  | cons c before ih =>
    rw [List.cons_append, splitOn, splitOn, ih]
    split
    · rfl
    · cases hpieces : splitOn sep before with
      | nil => exact absurd hpieces (splitOn_ne_nil sep before)
      | cons piece pieces => rfl

/-- The piece in which two texts meet: all of the first text behind its last separator, and all of
the second one before its first separator. -/
theorem Text.exists_piece_across (sep : Char) (before after : List Char) :
    ∃ last first, last ++ first ∈ splitOn sep (before ++ after) ∧
      (before = last ∨ ∃ front, before = front ++ sep :: last) ∧
      (after = first ∨ ∃ rest, after = first ++ sep :: rest) ∧ sep ∉ last ∧ sep ∉ first := by
  obtain ⟨front, last, hlast, hbefore, hmem⟩ : ∃ front last, sep ∉ last ∧
      (before = last ∨ before = front ++ sep :: last) ∧
      ∀ cs, ∀ piece ∈ splitOn sep (last ++ cs), piece ∈ splitOn sep (before ++ cs) := by
    cases hcut : cutLast? sep before with
    | none => exact ⟨[], before, cutLast?_eq_none_iff.mp hcut, .inl rfl, fun _ _ h => h⟩
    | some parts =>
      have hbefore := cutLast?_eq_some hcut
      refine ⟨parts.1, parts.2, notMem_of_cutLast? hcut, .inr hbefore, fun cs piece h => ?_⟩
      rw [hbefore, List.append_assoc, List.cons_append, splitOn_append]
      exact List.mem_append_right _ h
  cases hcut : cut? sep after with
  | none =>
    have hafter := cut?_eq_none_iff.mp hcut
    have hnone : sep ∉ last ++ after := by simp [hlast, hafter]
    refine ⟨last, after, hmem after _ ?_, hbefore.imp_right fun h => ⟨front, h⟩, .inl rfl, hlast,
      hafter⟩
    rw [splitOn_of_notMem hnone]
    exact List.mem_singleton_self _
  | some parts =>
    have hafter := cut?_eq_some hcut
    have hfirst := notMem_of_cut? hcut
    have hnone : sep ∉ last ++ parts.1 := by simp [hlast, hfirst]
    refine ⟨last, parts.1, hmem after _ ?_, hbefore.imp_right fun h => ⟨front, h⟩,
      .inr ⟨parts.2, hafter⟩, hlast, hfirst⟩
    rw [hafter, ← List.append_assoc, splitOn_append, splitOn_of_notMem hnone]
    exact List.mem_cons_self

namespace Sql

/-! ## Words -/

/-- Whether a character stands between the words of items: a blank or a comma. -/
def isGap (c : Char) : Bool :=
  Unicode.isBlank c || c = ','

/-- The words of a text, between blanks and commas. -/
def words (cs : List Char) : List (List Char) :=
  (cs.splitOnP isGap).filter (!·.isEmpty)

/-- A blank stands between words. -/
theorem isGap_of_isBlank {c : Char} (h : Unicode.isBlank c = true) : isGap c = true := by
  simp [isGap, h]

/-- What does not stand between words is no blank. -/
theorem isBlank_of_not_isGap {c : Char} (h : isGap c = false) : Unicode.isBlank c = false :=
  (Bool.or_eq_false_iff.mp h).1

/-- The words before a gap and behind it are those of the text. -/
theorem words_append_cons {c : Char} (hc : isGap c = true) (before after : List Char) :
    words (before ++ c :: after) = words before ++ words after := by
  rw [words, List.splitOnP_append_cons before after hc, List.filter_append]
  rfl

/-- Several gaps part words as one does. -/
theorem words_append_gap {gap : List Char} (hne : gap ≠ []) (hgap : ∀ c ∈ gap, isGap c = true)
    (before after : List Char) :
    words (before ++ (gap ++ after)) = words before ++ words after := by
  induction gap generalizing before with
  | nil => exact absurd rfl hne
  | cons c gap ih =>
    obtain ⟨hc, hgap⟩ := List.forall_mem_cons.mp hgap
    rw [List.cons_append, words_append_cons hc]
    cases gap with
    | nil => rfl
    | cons d gap => rw [← List.nil_append (d :: gap ++ after), ih (by simp) hgap]; rfl

/-- Gaps at the beginning make no difference to the words. -/
theorem words_gap_append {gap : List Char} (hgap : ∀ c ∈ gap, isGap c = true) (cs : List Char) :
    words (gap ++ cs) = words cs := by
  cases gap with
  | nil => rfl
  | cons c gap => exact words_append_gap (List.cons_ne_nil c gap) hgap [] cs

/-- Gaps at the end make no difference to the words. -/
theorem words_append_of_gap {gap : List Char} (hgap : ∀ c ∈ gap, isGap c = true) (cs : List Char) :
    words (cs ++ gap) = words cs := by
  cases gap with
  | nil => rw [List.append_nil]
  | cons c gap =>
    have h := words_append_gap (List.cons_ne_nil c gap) hgap cs []
    rwa [List.append_nil, show words [] = [] from rfl, List.append_nil] at h

/-- A text without gaps is a word. -/
theorem words_eq_singleton {cs : List Char} (hne : cs ≠ []) (h : ∀ c ∈ cs, isGap c = false) :
    words cs = [cs] := by
  rw [words, List.splitOnP_eq_singleton h]
  simp [hne]

/-- The first word of a text that does not begin with a gap. -/
theorem exists_words_cons {c : Char} (hc : isGap c = false) (rest : List Char) :
    ∃ word after, rest = word ++ after ∧ (∀ d ∈ word, isGap d = false) ∧
      (∀ d ∈ after.head?, isGap d = true) ∧ words (c :: rest) = (c :: word) :: words after := by
  obtain ⟨hrest, hword, hafter⟩ := span_eq_iff.mp
    (List.span_eq_takeWhile_dropWhile (p := (!isGap ·)) (l := rest))
  generalize rest.takeWhile (!isGap ·) = word at hrest hword
  generalize rest.dropWhile (!isGap ·) = after at hrest hafter
  have hword : ∀ d ∈ word, isGap d = false := by simpa using hword
  have hafter : ∀ d ∈ after.head?, isGap d = true := by simpa [StartsBeside] using hafter
  have hfirst : words (c :: word) = [c :: word] :=
    words_eq_singleton (List.cons_ne_nil c word) (List.forall_mem_cons.mpr ⟨hc, hword⟩)
  refine ⟨word, after, hrest, hword, hafter, ?_⟩
  rw [hrest, ← List.cons_append]
  cases after with
  | nil => rw [List.append_nil, hfirst]; rfl
  | cons d after =>
    have hd : ∀ e ∈ [d], isGap e = true := List.forall_mem_singleton.mpr (hafter d rfl)
    rw [words_append_cons (hafter d rfl), hfirst, ← words_gap_append hd after]
    rfl

/-- A text with anything but gaps in it has a word. -/
theorem words_ne_nil {cs : List Char} {c : Char} (hc : c ∈ cs) (hgap : isGap c = false) :
    words cs ≠ [] := by
  induction cs with
  | nil => cases hc
  | cons d cs ih =>
    cases hd : isGap d with
    | true =>
      have hmem : c ∈ cs := by
        refine (List.mem_cons.mp hc).resolve_left ?_
        rintro rfl
        rw [hd] at hgap
        cases hgap
      rw [← List.singleton_append, words_gap_append (List.forall_mem_singleton.mpr hd)]
      exact ih hmem
    | false =>
      obtain ⟨word, after, -, -, -, hwords⟩ := exists_words_cons hd cs
      rw [hwords]
      exact List.cons_ne_nil _ _

/-- Blanks at the beginning make no difference to the words. -/
theorem words_dropWhile (cs : List Char) : words (cs.dropWhile Unicode.isBlank) = words cs := by
  obtain ⟨before, hbefore, hcs⟩ := exists_blanks cs
  conv_rhs => rw [hcs]
  exact (words_gap_append (fun c hc => isGap_of_isBlank (hbefore c hc)) _).symm

/-- Blanks around a text make no difference to its words. -/
theorem words_trim (cs : List Char) : words (Unicode.trim cs) = words cs := by
  rw [Unicode.trim, ← words_dropWhile cs]
  generalize cs.dropWhile Unicode.isBlank = cs
  obtain ⟨after, hafter, hcs⟩ := exists_blanks cs.reverse
  have heq : cs = Unicode.trimEnd cs ++ after.reverse := by
    rw [← List.reverse_inj, hcs]
    simp [Unicode.trimEnd]
  conv_rhs => rw [heq]
  refine (words_append_of_gap (fun c hc => isGap_of_isBlank (hafter c ?_)) _).symm
  exact List.mem_reverse.mp hc

/-! ## Keywords -/

/-- The keywords of a view that is read. -/
def viewKeywords : List String :=
  ["AS", "FROM", "WHERE"]

/-- However a keyword is spelled, there is no gap in it. -/
theorem SpellsWord.noGap {keyword : String} (hkeyword : keyword ∈ viewKeywords) {cs : List Char}
    (h : SpellsWord keyword cs) : ∀ c ∈ cs, isGap c = false := by
  have hforms : ∀ keyword ∈ viewKeywords, ∀ w ∈ keyword.toList,
      ∀ c ∈ w :: Unicode.otherForms w, isGap c = false := by
    have hall : (viewKeywords.all fun keyword => keyword.toList.all fun w =>
        (w :: Unicode.otherForms w).all fun c => !isGap c) = true := by decide +kernel
    simpa using hall
  intro c hc
  obtain ⟨w, hw, hfold⟩ : ∃ w ∈ keyword.toList, Unicode.foldEq w c = true := by
    unfold SpellsWord at h
    generalize keyword.toList = letters at h
    induction h with
    | nil => cases hc
    | cons hfold _ ih =>
      rcases List.mem_cons.mp hc with rfl | hc
      · exact ⟨_, List.mem_cons_self, hfold⟩
      · obtain ⟨w, hw, hfold⟩ := ih hc
        exact ⟨w, List.mem_cons_of_mem _ hw, hfold⟩
  rw [Unicode.foldEq, Bool.or_eq_true, decide_eq_true_eq, List.contains_iff_mem] at hfold
  exact hforms keyword hkeyword w hw c (List.mem_cons.mpr (hfold.imp_left Eq.symm))

/-- What spells a keyword is not empty. -/
theorem SpellsWord.ne_nil {keyword : String} (hkeyword : keyword ∈ viewKeywords) {cs : List Char}
    (h : SpellsWord keyword cs) : cs ≠ [] := by
  rintro rfl
  have hempty : ∀ keyword ∈ viewKeywords, keyword.toList ≠ [] := by decide
  exact hempty keyword hkeyword (List.forall₂_nil_right_iff.mp h)

/-! ## Items -/

/-- A word that is read, with what may stand around it. -/
theorem exists_quotedWord {cs word rest : List Char} (h : quotedWord? cs = some (word, rest)) :
    ∃ written, written ≠ [] ∧ (∀ c ∈ written, isGap c = false) ∧ cs = written ++ rest := by
  have hcomma : Pattern.CharSet.word.contains ',' = false := by decide +kernel
  have hmark {mark : List Char} (h : QuoteMark mark) : ∀ c ∈ mark, isGap c = false := by
    rcases h with rfl | rfl | rfl
    · exact List.forall_mem_nil _
    · exact List.forall_mem_singleton.mpr (by decide)
    · exact List.forall_mem_singleton.mpr (by decide)
  obtain ⟨hne, hword, mark, mark', hopen, hclose, rfl⟩ := quotedWord?_eq_some h
  refine ⟨mark ++ (word ++ mark'), by simp [hne], ?_, by simp⟩
  intro c hc
  simp only [List.mem_append] at hc
  rcases hc with hc | hc | hc
  · exact hmark hopen c hc
  · have hother : c ≠ ',' := by
      rintro rfl
      rw [hword _ hc] at hcomma
      cases hcomma
    simp [isGap, isBlank_of_word (hword c hc), hother]
  · exact hmark hclose c hc

/-- Reads what may stand behind the column of an item: the name that it gets. -/
def readNewName? (column rest : List Char) : Option (String × Option String) := do
  if rest.isEmpty then return (String.ofList column, none)
  let (newName, rest) ← quotedWord? (← phrase? ["AS"] (← blanks? rest))
  if rest.isEmpty then return (String.ofList column, some (String.ofList newName)) else none

/-- An item that is read begins with a column, which is one word. -/
theorem exists_column_of_readItem? {item : List Char} {read : String × Option String}
    (h : readItem? item = some read) :
    ∃ written rest column, written ≠ [] ∧ (∀ c ∈ written, isGap c = false) ∧
      item = written ++ rest ∧ readNewName? column rest = some read := by
  rw [readItem?, Option.bind_eq_bind, Option.bind_eq_some_iff] at h
  obtain ⟨⟨first, rest⟩, hfirst, h⟩ := h
  obtain ⟨written, hne, hwritten, rfl⟩ := exists_quotedWord hfirst
  dsimp only at h
  split at h
  · next after hdot =>
    obtain rfl := sign?_eq_some_iff.mp hdot
    rw [Option.bind_eq_bind, Option.bind_eq_some_iff] at h
    obtain ⟨⟨column, rest⟩, hcolumn, hrest⟩ := h
    obtain ⟨second, -, hsecond, rfl⟩ := exists_quotedWord hcolumn
    refine ⟨written ++ '.' :: second, rest, column, by simp [hne], ?_, by simp, hrest⟩
    intro c hc
    rcases List.mem_append.mp hc with hc | hc
    · exact hwritten c hc
    · rcases List.mem_cons.mp hc with rfl | hc
      · decide
      · exact hsecond c hc
  · exact ⟨written, rest, first, hne, hwritten, rfl, h⟩

/-- An item that is read has one word, or three of which the second is `AS`. -/
theorem words_of_readItem? {item : List Char} {read : String × Option String}
    (h : readItem? item = some read) :
    (∃ name, words item = [name]) ∨
      ∃ name keyword newName, SpellsWord "AS" keyword ∧ words item = [name, keyword, newName] := by
  have has : "AS" ∈ viewKeywords := by decide
  obtain ⟨name, rest, column, hne, hname, rfl, hread⟩ := exists_column_of_readItem? h
  unfold readNewName? at hread
  split at hread
  · next hempty =>
    obtain rfl := List.isEmpty_iff.mp hempty
    exact .inl ⟨name, by rw [List.append_nil, words_eq_singleton hne hname]⟩
  · -- behind the name come `AS` and another name
    simp only [phrase?, Option.bind_eq_bind, Option.bind_eq_some_iff, Option.some.injEq] at hread
    obtain ⟨_, hblanks, _, ⟨_, hword, _, hblanks', rfl⟩, ⟨newName, last⟩, hnew, hlast⟩ := hread
    obtain ⟨gap, hgapne, hgap, rfl, -⟩ := blanks?_eq_some_iff.mp hblanks
    obtain ⟨keyword, hspells, rfl⟩ := word?_eq_some_iff.mp hword
    obtain ⟨gap', hgapne', hgap', rfl, -⟩ := blanks?_eq_some_iff.mp hblanks'
    obtain ⟨second, hne', hsecond, rfl⟩ := exists_quotedWord hnew
    have hkeyword : SpellsWord "AS" keyword := hspells
    have hend : last = [] := by
      by_contra hne
      simp [hne] at hlast
    refine .inr ⟨name, keyword, second, hkeyword, ?_⟩
    rw [hend, List.append_nil, words_append_gap hgapne fun c hc => isGap_of_isBlank (hgap c hc),
      words_append_gap hgapne' fun c hc => isGap_of_isBlank (hgap' c hc),
      words_eq_singleton hne hname,
      words_eq_singleton (hkeyword.ne_nil has) (hkeyword.noGap has),
      words_eq_singleton hne' hsecond]
    rfl

/-! ## Lists of items -/

/-- All pieces of a text between commas are items that can be read. -/
def ReadsAsItems (cs : List Char) : Prop :=
  ∀ piece ∈ Text.splitOn ',' cs,
    Unicode.trim piece = ['*'] ∨ (readItem? (Unicode.trim piece)).isSome = true

instance (cs : List Char) : Decidable (ReadsAsItems cs) :=
  inferInstanceAs (Decidable (∀ piece ∈ Text.splitOn ',' cs, _))

/-- A piece that can be read has one word, or three of which the second is `AS`. -/
theorem ReadsAsItems.words_of_mem {cs piece : List Char} (h : ReadsAsItems cs)
    (hpiece : piece ∈ Text.splitOn ',' cs) :
    (∃ name, words piece = [name]) ∨
      ∃ name keyword newName, SpellsWord "AS" keyword ∧ words piece = [name, keyword, newName] := by
  rw [← words_trim]
  rcases h piece hpiece with hstar | hread
  · exact .inl ⟨['*'], by rw [hstar]; decide⟩
  · obtain ⟨read, hread⟩ := Option.isSome_iff_exists.mp hread
    exact words_of_readItem? hread

/-- A text in which items can end: its last character is neither a blank nor a comma, and its last
word is not `AS`. -/
structure EndsItems (cs : List Char) : Prop where
  visible : ∃ c ∈ cs.getLast?, isGap c = false
  word : ∀ w ∈ (words cs).getLast?, ¬SpellsWord "AS" w

/-- The words behind the last comma of a text in which items can end are its last words. -/
theorem EndsItems.words_last {cs last : List Char} (h : EndsItems cs)
    (hlast : cs = last ∨ ∃ front, cs = front ++ ',' :: last) :
    words last ≠ [] ∧ (words last).getLast? = (words cs).getLast? := by
  obtain ⟨c, hc, hgap⟩ := h.visible
  rcases hlast with rfl | ⟨front, rfl⟩
  · exact ⟨words_ne_nil (List.mem_of_getLast? hc) hgap, rfl⟩
  · have hmem : c ∈ last := by
      rw [List.getLast?_append, List.getLast?_cons] at hc
      obtain rfl : last.getLast?.getD ',' = c := by simpa using hc
      cases hend : last.getLast? with
      | none =>
        rw [hend] at hgap
        exact absurd hgap (by decide)
      | some d => exact List.mem_of_getLast? hend
    have hne := words_ne_nil hmem hgap
    refine ⟨hne, ?_⟩
    rw [words_append_cons (by decide), List.getLast?_append]
    cases hend : (words last).getLast? with
    | none => exact absurd (List.getLast?_eq_none_iff.mp hend) hne
    | some w => rfl

/-- Items that go on behind a blank with a word that does not begin like `AS` cannot be read. -/
theorem not_readsAsItems_append {cs : List Char} (h : EndsItems cs) {c : Char}
    (hgap : isGap c = false) (hc : Unicode.foldEq 'A' c = false) (rest : List Char) :
    ¬ReadsAsItems (cs ++ ' ' :: c :: rest) := by
  intro hread
  obtain ⟨last, first, hmem, hlast, hfirst, -, -⟩ :=
    Text.exists_piece_across ',' cs (' ' :: c :: rest)
  obtain ⟨hne, hend⟩ := h.words_last hlast
  obtain ⟨more, rfl⟩ : ∃ more, first = ' ' :: c :: more := by
    rcases hfirst with rfl | ⟨behind, hfirst⟩
    · exact ⟨rest, rfl⟩
    · match first, hfirst with
      | [], hfirst => simp at hfirst
      | [_], hfirst =>
        obtain ⟨-, rfl, -⟩ : _ ∧ c = ',' ∧ _ := by simpa using hfirst
        exact absurd hgap (by decide)
      | a :: b :: more, hfirst =>
        obtain ⟨rfl, rfl, -⟩ : ' ' = a ∧ c = b ∧ _ := by simpa using hfirst
        exact ⟨more, rfl⟩
  -- the words of the piece in which items and keyword meet
  obtain ⟨word, after, -, -, -, hfirst⟩ := exists_words_cons hgap more
  have hwords : words (last ++ ' ' :: c :: more) = words last ++ (c :: word) :: words after := by
    rw [words_append_cons (by decide), hfirst]
  obtain ⟨first, others, hcons⟩ := List.exists_cons_of_ne_nil hne
  rcases hread.words_of_mem hmem with ⟨name, hname⟩ | ⟨name, keyword, newName, hkeyword, hname⟩
  · rw [hwords, hcons] at hname
    simp at hname
  · rw [hwords, hcons] at hname
    match others, hcons, hname with
    | [], _, hname =>
      obtain ⟨-, rfl, -⟩ : first = name ∧ c :: word = keyword ∧ _ := by simpa using hname
      have hforms : List.Forall₂ (fun w c => Unicode.foldEq w c = true) ['A', 'S'] (c :: word) :=
        hkeyword
      rw [(List.forall₂_cons.mp hforms).1] at hc
      cases hc
    | [second], hcons, hname =>
      obtain ⟨-, rfl, -⟩ : first = name ∧ second = keyword ∧ _ := by simpa using hname
      refine h.word second ?_ hkeyword
      rw [← hend, hcons]
      rfl
    | second :: third :: others, _, hname => simp at hname

end Sql

end TableTypes
