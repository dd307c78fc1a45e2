import TableTypes.Proofs.Sql.Grammar

/-!
# The canonical text of a domain

The text of `CREATE DOMAIN name AS type` is read back: the name as it is written and the type before
the words that can follow it. For this the name must have no blanks, and the type none of these
words.
-/

namespace TableTypes.Sql

/-! ## Text behind a type -/

/-- Text that is empty or begins with a space, so that no word goes on in it. -/
def StandsApart (cs : List Char) : Prop :=
  cs = [] ∨ ∃ rest, cs = ' ' :: rest

/-- The word `NULL` behind a type stands apart. -/
theorem standsApart_null : StandsApart " NULL".toList :=
  .inr ⟨['N', 'U', 'L', 'L'], by decide⟩

/-- Text that stands apart makes no difference to where a word ends. -/
theorem endsWord_append {tail : List Char} (htail : StandsApart tail) (cs : List Char) :
    endsWord (cs ++ tail) = endsWord cs := by
  have hspace : Pattern.CharSet.word.contains ' ' = false := by decide +kernel
  cases cs with
  | cons c cs => rfl
  | nil => rcases htail with rfl | ⟨rest, rfl⟩ <;> simp [endsWord, hspace]

/-- No word is found beyond the end of a text. -/
theorem word?_append_of_standsApart {word tail : List Char}
    (hword : ∀ w ∈ word, Unicode.foldEq w ' ' = false) (htail : StandsApart tail) (cs : List Char) :
    word? word (cs ++ tail) = (word? word cs).map (· ++ tail) := by
  induction word generalizing cs with
  | nil => rfl
  | cons w word ih =>
    obtain ⟨hw, hword⟩ := List.forall_mem_cons.mp hword
    cases cs with
    | nil =>
      rcases htail with rfl | ⟨rest, rfl⟩
      · rfl
      · simp [word?, hw]
    | cons c cs =>
      rw [List.cons_append, word?, word?]
      split
      · exact ih hword cs
      · rfl

/-- What does not end with a blank has no part at its end that does. -/
theorem EndsVisible.of_append {before cs : List Char} (h : EndsVisible (before ++ cs))
    (hne : cs ≠ []) : EndsVisible cs := by
  obtain ⟨front, c, heq, hc⟩ := h
  obtain ⟨first, last, rfl⟩ := (List.eq_nil_or_concat' cs).resolve_left hne
  rw [← List.append_assoc] at heq
  obtain ⟨-, hlast⟩ := List.append_inj' heq rfl
  obtain rfl := List.singleton_inj.mp hlast
  exact ⟨first, last, rfl, hc⟩

/-- The blanks that a text begins with are over before it ends. -/
theorem blanks?_append {cs : List Char} (h : EndsVisible cs) (tail : List Char) :
    blanks? (cs ++ tail) = (blanks? cs).map (· ++ tail) := by
  cases cs with
  | nil =>
    obtain ⟨front, c, heq, -⟩ := h
    simp at heq
  | cons c cs =>
    rw [List.cons_append, blanks?, blanks?]
    split
    · next hc =>
      -- as the text ends with another character, one remains behind its blanks
      have hne : cs.dropWhile Unicode.isBlank ≠ [] := by
        intro hnil
        obtain ⟨front, d, heq, hd⟩ := h
        have hall := List.dropWhile_eq_nil_iff.mp hnil
        have hmem : d ∈ c :: cs := heq ▸ by simp
        rcases List.mem_cons.mp hmem with rfl | hmem
        · simp [hd] at hc
        · simp [hall d hmem] at hd
      rw [List.dropWhile_append, if_neg (by simpa using hne)]
      rfl
    · rfl

/-- The words that can follow a type, or begin such a phrase. -/
def tailWords : List String :=
  ["COLLATE", "DEFAULT", "CONSTRAINT", "NULL", "CHECK", "NOT"]

/-- No letter of a word behind a type is a space in any form. -/
theorem foldEq_space_of_tailWords :
    ∀ word ∈ tailWords, ∀ w ∈ word.toList, Unicode.foldEq w ' ' = false := by
  have hall :
      (tailWords.all fun word => word.toList.all fun w => !Unicode.foldEq w ' ') = true := by
    decide +kernel
  simpa using hall

/-- A word stands at the beginning of a text whatever follows the text. -/
theorem any_endsWord_word?_append {word : String} (hword : word ∈ tailWords) {tail : List Char}
    (htail : StandsApart tail) (cs : List Char) :
    (word? word.toList (cs ++ tail)).any endsWord = (word? word.toList cs).any endsWord := by
  rw [word?_append_of_standsApart (foldEq_space_of_tailWords word hword) htail, Option.any_map]
  simp only [endsWord_append htail]

/-- A text of `NOT NULL` begins in a text whatever follows it, unless `NULL` is what follows. -/
theorem any_endsWord_notNull_append {cs tail : List Char} (hcs : cs = [] ∨ EndsVisible cs)
    (htail : StandsApart tail)
    (h : ((phrase? ["NOT"] (cs ++ tail)).bind (word? "NULL".toList)).any endsWord = true) :
    ((phrase? ["NOT"] (cs ++ " NULL".toList)).bind (word? "NULL".toList)).any endsWord = true := by
  have hphrase {t : List Char} (ht : StandsApart t) :
      phrase? ["NOT"] (cs ++ t) = (word? "NOT".toList cs).bind fun rest => blanks? (rest ++ t) := by
    rw [phrase?, word?_append_of_standsApart (foldEq_space_of_tailWords "NOT" (by decide)) ht]
    cases word? "NOT".toList cs <;> simp [phrase?]
  rw [hphrase htail] at h
  rw [hphrase standsApart_null]
  cases hnot : word? "NOT".toList cs with
  | none =>
    rw [hnot] at h
    cases h
  | some rest =>
    rw [hnot, Option.bind_some] at h
    rw [Option.bind_some]
    by_cases hne : rest = []
    · rw [hne]
      decide +kernel
    · obtain ⟨written, -, hwritten⟩ := word?_eq_some_iff.mp hnot
      have hrest : EndsVisible rest := by
        refine EndsVisible.of_append (hwritten ▸ hcs.resolve_left ?_) hne
        simp [hwritten, hne]
      rw [blanks?_append hrest] at h ⊢
      cases hblanks : blanks? rest with
      | none => simp [hblanks] at h
      | some after =>
        rw [hblanks, Option.map_some, Option.bind_some] at h
        rw [Option.map_some, Option.bind_some]
        have hword : "NULL" ∈ tailWords := by decide
        rwa [any_endsWord_word?_append hword standsApart_null,
          ← any_endsWord_word?_append hword htail]

/-- Behind a text in which a type ends the words that follow a type do not begin before its end. -/
theorem startsTail_append {cs tail : List Char} (hcs : EndsVisible cs) (htail : StandsApart tail)
    (h : startsTail (cs ++ tail) = true) : startsTail (cs ++ " NULL".toList) = true := by
  unfold startsTail at h ⊢
  rw [blanks?_append hcs] at h ⊢
  cases hrest : blanks? cs with
  | none =>
    rw [hrest] at h
    exact h
  | some rest =>
    rw [hrest] at h
    simp only [Option.map_some, Bool.or_eq_true, List.any_eq_true] at h ⊢
    refine h.imp ?_ (any_endsWord_notNull_append ?_ htail)
    · rintro ⟨word, hword, hstands⟩
      have hmem : word ∈ tailWords := List.mem_append_left ["NOT"] hword
      refine ⟨word, hword, ?_⟩
      rwa [any_endsWord_word?_append hmem standsApart_null, ← any_endsWord_word?_append hmem htail]
    · obtain ⟨gap, -, -, hgap, -⟩ := blanks?_eq_some_iff.mp hrest
      by_cases hne : rest = []
      · exact .inl hne
      · exact .inr (EndsVisible.of_append (hgap ▸ hcs) hne)

/-! ## Domains -/

/-- The text of a type: it has no blanks around it, and in front of `NULL` it ends where that
begins, so that none of the words that follow a type is found in it. -/
structure IsTypeText (text : String) : Prop where
  begins : Visible text.toList
  ends : EndsVisible text.toList
  noTail : beforeTail (text.toList ++ " NULL".toList) = text.toList

/-- A word of a type: it is not empty, has no blanks, and does not begin with a word that can follow
a type. -/
structure IsTypeWord (word : String) : Prop where
  nonempty : word ≠ ""
  noBlank : ∀ c ∈ word.toList, Unicode.isBlank c = false
  noTail : ∀ tailWord ∈ tailWords, word? tailWord.toList word.toList = none

instance (word : String) : Decidable (IsTypeWord word) :=
  decidable_of_iff (word ≠ "" ∧ (word.toList.all fun c => !Unicode.isBlank c) = true ∧
    (tailWords.all fun tailWord => (word? tailWord.toList word.toList).isNone) = true)
    ⟨fun ⟨hne, hblank, htail⟩ => ⟨hne, by simpa using hblank, by simpa using htail⟩,
      fun h => ⟨h.nonempty, by simpa using h.noBlank, by simpa using h.noTail⟩⟩

/-- Text without blanks neither begins nor ends with one. -/
theorem visible_of_noBlank {cs : List Char} (hne : cs ≠ [])
    (h : ∀ c ∈ cs, Unicode.isBlank c = false) : Visible cs ∧ EndsVisible cs := by
  refine ⟨.of_noBlank hne h, ?_⟩
  obtain ⟨front, last, heq⟩ := (List.eq_nil_or_concat' cs).resolve_left hne
  exact ⟨front, last, heq, h last (heq ▸ by simp)⟩

/-- No word that follows a type begins in a text without blanks. -/
theorem beforeTail_append_of_noBlank {cs : List Char} (h : ∀ c ∈ cs, Unicode.isBlank c = false)
    (rest : List Char) : beforeTail (cs ++ rest) = cs ++ beforeTail rest := by
  induction cs with
  | nil => rfl
  | cons c cs ih =>
    obtain ⟨hc, hcs⟩ := List.forall_mem_cons.mp h
    have hnone : ¬startsTail (c :: (cs ++ rest)) = true := by simp [startsTail, blanks?, hc]
    rw [List.cons_append, beforeTail, if_neg hnone, ih hcs, List.cons_append]

/-- A word of a type is none of those that follow a type. -/
theorem IsTypeWord.startsTail {word : String} (h : IsTypeWord word) {rest : List Char}
    (hrest : StandsApart rest) : startsTail (' ' :: (word.toList ++ rest)) = false := by
  have hvisible := (visible_of_noBlank (mt String.toList_eq_nil_iff.mp h.nonempty) h.noBlank).1
  have hnone {tailWord : String} (hword : tailWord ∈ tailWords) :
      word? tailWord.toList (word.toList ++ rest) = none := by
    rw [word?_append_of_standsApart (foldEq_space_of_tailWords tailWord hword) hrest,
      h.noTail tailWord hword, Option.map_none]
  have hnot : word? "NOT".toList (word.toList ++ rest) = none := hnone (by decide)
  unfold Sql.startsTail
  rw [blanks?_space (hvisible.append rest)]
  simp only [Bool.or_eq_false_iff, List.any_eq_false, phrase?, hnot, Option.bind_eq_bind,
    Option.bind_none, Option.any_none]
  refine ⟨fun tailWord hword => ?_, trivial⟩
  rw [hnone (List.mem_append_left ["NOT"] hword)]
  exact Bool.false_ne_true

/-- Words with one space before each. -/
def spacedWords (words : List String) : List Char :=
  words.flatMap fun w => ' ' :: w.toList

/-- Before the word `NULL` the words of a type are read to their end. -/
theorem beforeTail_spacedWords {words : List String} (h : ∀ w ∈ words, IsTypeWord w) :
    beforeTail (spacedWords words ++ " NULL".toList) = spacedWords words := by
  induction words with
  | nil => decide +kernel
  | cons w words ih =>
    obtain ⟨hw, hwords⟩ := List.forall_mem_cons.mp h
    let rest := spacedWords words ++ " NULL".toList
    have hrest : StandsApart rest := by
      cases words with
      | nil => exact standsApart_null
      | cons other words => exact .inr ⟨_, rfl⟩
    have hsplit : spacedWords (w :: words) ++ " NULL".toList = ' ' :: (w.toList ++ rest) := by
      simp [spacedWords, rest]
    have hnone : ¬startsTail (' ' :: (w.toList ++ rest)) = true := by simp [hw.startsTail hrest]
    rw [hsplit, beforeTail, if_neg hnone, beforeTail_append_of_noBlank hw.noBlank, ih hwords]
    rfl

/-- Words behind a text do not end with a blank. -/
theorem EndsVisible.append_spacedWords {cs : List Char} (hcs : EndsVisible cs)
    {words : List String} (h : ∀ w ∈ words, IsTypeWord w) :
    EndsVisible (cs ++ spacedWords words) := by
  induction words generalizing cs with
  | nil => rwa [spacedWords, List.flatMap_nil, List.append_nil]
  | cons w words ih =>
    obtain ⟨hw, hwords⟩ := List.forall_mem_cons.mp h
    have hends := (visible_of_noBlank (mt String.toList_eq_nil_iff.mp hw.nonempty) hw.noBlank).2
    have hword : EndsVisible (cs ++ ' ' :: w.toList) := (hends.append [' ']).append cs
    simpa [spacedWords] using ih hword hwords

/-- A word without blanks and words of a type behind it, with one space before each, are the text of
a type. -/
theorem isTypeText_of_words {text first : String} {words : List String} (hne : first ≠ "")
    (hfirst : ∀ c ∈ first.toList, Unicode.isBlank c = false) (hwords : ∀ w ∈ words, IsTypeWord w)
    (htext : text.toList = first.toList ++ spacedWords words) : IsTypeText text := by
  obtain ⟨hbegins, hends⟩ := visible_of_noBlank (mt String.toList_eq_nil_iff.mp hne) hfirst
  refine ⟨htext ▸ hbegins.append _, htext ▸ hends.append_spacedWords hwords, ?_⟩
  rw [htext, List.append_assoc, beforeTail_append_of_noBlank hfirst, beforeTail_spacedWords hwords]

/-- A type ends where a word that follows a type begins. -/
theorem beforeTail_append {cs tail : List Char} (hcs : cs = [] ∨ EndsVisible cs)
    (hfree : beforeTail (cs ++ " NULL".toList) = cs) (htail : StandsApart tail)
    (hstarts : tail = [] ∨ startsTail tail = true) : beforeTail (cs ++ tail) = cs := by
  induction cs with
  | nil =>
    rcases hstarts with rfl | hstarts
    · rfl
    · cases tail with
      | nil => rfl
      | cons c tail => rw [List.nil_append, beforeTail, if_pos hstarts]
  | cons c cs ih =>
    have hends : EndsVisible (c :: cs) := hcs.resolve_left (List.cons_ne_nil c cs)
    rw [List.cons_append, beforeTail] at hfree ⊢
    split at hfree
    · cases hfree
    · next hnone =>
      have hcs : cs = [] ∨ EndsVisible cs := by
        by_cases hne : cs = []
        · exact .inl hne
        · exact .inr (@EndsVisible.of_append [c] cs hends hne)
      have hnone' : ¬startsTail (c :: (cs ++ tail)) = true :=
        fun h => hnone (startsTail_append hends htail h)
      rw [if_neg hnone', ih hcs ((List.cons_inj_right c).mp hfree)]

/-- The words that follow a type in a domain. -/
def followers : List String :=
  ["COLLATE", "DEFAULT", "CONSTRAINT", "CHECK"]

/-- A word that follows a type neither begins nor ends with a blank. -/
theorem visible_of_mem_followers {word : String} (hword : word ∈ followers) :
    Visible word.toList ∧ EndsVisible word.toList := by
  have hall : (followers.all fun word => word.toList ≠ [] &&
      word.toList.all fun c => !Unicode.isBlank c) = true := by decide +kernel
  obtain ⟨hne, hblank⟩ := Bool.and_eq_true_iff.mp (List.all_eq_true.mp hall word hword)
  exact visible_of_noBlank (by simpa using hne) (by simpa using hblank)

/-- A word behind a type begins the text that follows the type. -/
theorem startsTail_word {word : String} (hword : word ∈ followers) {rest : List Char}
    (hrest : StandsApart rest) :
    startsTail (' ' :: (word.toList ++ rest)) = true := by
  have hvisible : Visible (word.toList ++ rest) := (visible_of_mem_followers hword).1.append rest
  have hends : endsWord rest = true := endsWord_append hrest []
  have hlisted : followers ⊆ ["COLLATE", "DEFAULT", "CONSTRAINT", "NULL", "CHECK"] := by
    simp [followers]
  unfold startsTail
  rw [blanks?_space hvisible]
  refine Bool.or_eq_true_iff.mpr (.inl (List.any_eq_true.mpr ⟨word, hlisted hword, ?_⟩))
  rw [word?_append, Option.any_some, hends]

/-- Blanks are taken away behind a text only. -/
theorem trimEnd_append {cs : List Char} (hend : EndsVisible cs) (tail : List Char) :
    Unicode.trimEnd (cs ++ tail) = cs ++ Unicode.trimEnd tail := by
  obtain ⟨front, last, rfl, hlast⟩ := hend
  rw [Unicode.trimEnd, Unicode.trimEnd, List.reverse_append, List.dropWhile_append]
  split
  · next hnil =>
    rw [List.isEmpty_iff] at hnil
    simp [hnil, hlast]
  · simp

/-- Of a text with something visible at its ends only what follows it is trimmed. -/
theorem trim_append {cs : List Char} (hbegin : Visible cs) (hend : EndsVisible cs)
    (tail : List Char) : Unicode.trim (cs ++ tail) = cs ++ Unicode.trimEnd tail := by
  rw [← trimEnd_append hend]
  obtain ⟨first, rest, rfl, hfirst⟩ := hbegin
  rw [Unicode.trim, List.cons_append, List.dropWhile_cons_of_neg (by simp [hfirst])]

/-- Trimmed at its end, text that begins with a space still stands apart. -/
theorem standsApart_trimEnd (rest : List Char) : StandsApart (Unicode.trimEnd (' ' :: rest)) := by
  rw [Unicode.trimEnd, List.reverse_cons, List.dropWhile_append]
  split
  · exact .inl (by simp [isBlank_space])
  · exact .inr ⟨(rest.reverse.dropWhile Unicode.isBlank).reverse, by simp⟩

/-- What follows a type is nothing or begins with a word and a space. -/
def FollowsType (tail : List Char) : Prop :=
  tail = [] ∨ ∃ word ∈ followers, ∃ rest, tail = ' ' :: (word.toList ++ ' ' :: rest)

/-- What begins with such a word follows a type. -/
theorem followsType_word {word : String} (hword : word ∈ followers) (rest : List Char) :
    FollowsType (' ' :: (word.toList ++ ' ' :: rest)) :=
  .inr ⟨word, hword, rest, rfl⟩

/-- Without the blanks at its end it still begins with that word. -/
theorem FollowsType.trimEnd {tail : List Char} (h : FollowsType tail) :
    StandsApart (Unicode.trimEnd tail) ∧
      (Unicode.trimEnd tail = [] ∨ startsTail (Unicode.trimEnd tail) = true) := by
  rcases h with rfl | ⟨word, hword, rest, rfl⟩
  · exact ⟨.inl rfl, .inl rfl⟩
  · have hends : EndsVisible (' ' :: word.toList) := (visible_of_mem_followers hword).2.append [' ']
    rw [← List.cons_append, trimEnd_append hends, List.cons_append]
    have hrest := standsApart_trimEnd rest
    exact ⟨.inr ⟨_, rfl⟩, .inr (startsTail_word hword hrest)⟩

/-- A domain is a type with a collation, a default and checks behind it. -/
def IsDomain (d : DomainDefinition) : Prop :=
  ∀ c ∈ d.constraints, ∃ name condition enforced, c = .check name condition enforced

/-- The text of a domain behind its type. -/
def DomainDefinition.behindType (d : DomainDefinition) : String :=
  (match d.collation with
    | none => ""
    | some c => " COLLATE " ++ c.render) ++
  (match d.default with
    | none => ""
    | some e => " DEFAULT " ++ e.render) ++
  String.join (d.constraints.map fun c => " " ++ c.render)

/-- The text of a domain is its name, its type and what stands behind the type. -/
theorem DomainDefinition.render_eq (d : DomainDefinition) :
    d.render =
      "CREATE DOMAIN " ++ renderPath d.name ++ " AS " ++ d.type.render ++ d.behindType := by
  unfold DomainDefinition.render behindType
  cases d.collation <;> cases d.default <;> simp only [String.append_assoc]

/-- A check follows a type. -/
theorem followsType_check (name : Option Name) (condition : Expr) (enforced : Option Bool)
    (others : String) :
    FollowsType
      (" " ++ (TableConstraint.check name condition enforced).render ++ others).toList := by
  cases name with
  | none =>
    have hrest := followsType_word (by decide : "CHECK" ∈ followers)
      ("(" ++ condition.render ++ ")" ++ renderEnforced enforced ++ others).toList
    simpa [TableConstraint.render, renderConstraintName] using hrest
  | some label =>
    have hrest := followsType_word (by decide : "CONSTRAINT" ∈ followers)
      (label.render ++ " CHECK (" ++ condition.render ++ ")" ++ renderEnforced enforced ++
        others).toList
    simpa [TableConstraint.render, renderConstraintName] using hrest

/-- A collation, a default and checks follow a type. -/
theorem followsType_behindType {d : DomainDefinition} (hd : IsDomain d) :
    FollowsType d.behindType.toList := by
  unfold DomainDefinition.behindType
  cases d.collation with
  | some c =>
    have hcollation (a b : String) : FollowsType (" COLLATE " ++ c.render ++ a ++ b).toList := by
      simpa using followsType_word (by decide : "COLLATE" ∈ followers)
        (c.render ++ a ++ b).toList
    exact hcollation _ _
  | none =>
    cases d.default with
    | some e =>
      have hdefault (a : String) : FollowsType ("" ++ (" DEFAULT " ++ e.render) ++ a).toList := by
        simpa using followsType_word (by decide : "DEFAULT" ∈ followers)
          (e.render ++ a).toList
      exact hdefault _
    | none =>
      cases hconstraints : d.constraints with
      | nil => exact .inl rfl
      | cons c cs =>
        obtain ⟨label, condition, enforced, rfl⟩ := hd c (hconstraints ▸ List.mem_cons_self)
        have hcheck := followsType_check label condition enforced
          (String.join (cs.map fun c => " " ++ c.render))
        simpa using hcheck

/-- The name and the type of a domain are read off its canonical text. -/
theorem readDomain?_render {d : DomainDefinition} (hd : IsDomain d) (hne : renderPath d.name ≠ "")
    (hblank : ∀ c ∈ (renderPath d.name).toList, Unicode.isBlank c = false)
    (htype : IsTypeText d.type.render) :
    readDomain? d.render = some (renderPath d.name, d.type.render) := by
  have hname : (renderPath d.name).toList ≠ [] := mt String.toList_eq_nil_iff.mp hne
  have hvisible : Visible (renderPath d.name).toList := by
    obtain ⟨c, cs, hcs⟩ := List.exists_cons_of_ne_nil hname
    exact ⟨c, cs, hcs, hblank c (hcs ▸ List.mem_cons_self)⟩
  have htail := followsType_behindType hd
  have hbody := htype.begins.append d.behindType.toList
  have hparts : d.render.toList = "CREATE".toList ++ ' ' :: ("DOMAIN".toList ++ ' ' ::
      ((renderPath d.name).toList ++ ' ' :: ("AS".toList ++ ' ' ::
        (d.type.render.toList ++ d.behindType.toList)))) := by
    rw [d.render_eq]
    simp
  have hcut : beforeTail (d.type.render.toList ++ Unicode.trimEnd d.behindType.toList) =
      d.type.render.toList :=
    beforeTail_append (.inr htype.ends) htype.noTail htail.trimEnd.1 htail.trimEnd.2
  have hdomain (cs : List Char) : Visible ("DOMAIN".toList ++ cs) := ⟨'D', _, rfl, by decide⟩
  have has (cs : List Char) : Visible ("AS".toList ++ cs) := ⟨'A', _, rfl, by decide⟩
  have hnonempty : (d.type.render.toList ++ d.behindType.toList).isEmpty = false := by
    obtain ⟨c, cs, hcs, -⟩ := hbody
    rw [hcs]
    rfl
  rw [readDomain?, hparts, phrase?_cons (hdomain _), phrase?_cons (hvisible.append _)]
  simp only [phrase?, Option.bind_eq_bind, Option.bind_some, run?_append_space hname hblank,
    blanks?_space (has _), optionalPhrase, word?_append, blanks?_space hbody, Option.getD_some,
    hnonempty, trim_append htype.begins htype.ends, hcut,
    trim_eq_self htype.begins htype.ends, String.ofList_toList]
  rfl

end TableTypes.Sql
