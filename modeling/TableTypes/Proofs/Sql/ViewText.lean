import TableTypes.Proofs.Sql.ItemText

/-!
# The canonical text of a view

A view is read off its text if this has the form `CREATE VIEW name AS SELECT items FROM source`, and
behind the source only a condition is allowed, with anything behind it. If what stands before the
source is to be a list of items, the source is the one behind the items of the first selection, and
it is all that stands there.
-/

namespace TableTypes.Sql

/-! ## Sources -/

/-- Whether a keyword comes next behind blanks, and a text of some kind behind it. -/
def startsKeyword (keyword : String) (ends : List Char → Bool) (cs : List Char) : Bool :=
  ((blanks? cs).bind (word? keyword.toList)).any ends

/-- Whether a condition comes next behind blanks. -/
def startsWhere (cs : List Char) : Bool :=
  startsKeyword "WHERE" endsWord cs

/-- Whether the word `FROM` comes next behind blanks. -/
def startsFrom (cs : List Char) : Bool :=
  startsKeyword "FROM" (fun rest => rest.head?.all Unicode.isBlank) cs

/-- A source is what stands behind `FROM`, if nothing or a condition follows. -/
theorem readSource?_from {cs : List Char} (h : Visible cs) :
    readSource? (" FROM ".toList ++ cs) =
      (run? cs).bind fun (source, rest) =>
        if rest.isEmpty || startsWhere rest then some source else none := by
  have hfrom : blanks? (" FROM ".toList ++ cs) = some ("FROM".toList ++ ' ' :: cs) :=
    blanks?_space ⟨'F', _, rfl, by decide⟩
  have hphrase : phrase? ["FROM"] ("FROM".toList ++ ' ' :: cs) = some cs := phrase?_cons h
  rw [readSource?, hfrom, Option.bind_eq_bind, Option.bind_some, hphrase]
  refine congrArg (Option.bind (run? cs)) (funext fun (source, rest) => ?_)
  cases rest with
  | nil => rfl
  | cons c rest =>
    have hwhere := Option.bind_assoc (blanks? (c :: rest)) (word? "WHERE".toList) fun after =>
      if endsWord after then some source else none
    refine hwhere.symm.trans ?_
    simp only [List.isEmpty_cons, Bool.false_or, startsWhere, startsKeyword]
    cases (blanks? (c :: rest)).bind (word? "WHERE".toList) <;> rfl

/-- A text in which sources can stand: it begins and ends with characters that are not blank, and
behind its first run of such characters no condition comes. -/
structure IsSourceText (cs : List Char) : Prop where
  visible : Visible cs
  ends : EndsVisible cs
  noWhere : startsWhere (cs.dropWhile (!Unicode.isBlank ·)) = false

/-- A source without blanks can be read. -/
theorem isSourceText_of_noBlank {cs : List Char} (hne : cs ≠ [])
    (h : ∀ c ∈ cs, Unicode.isBlank c = false) : IsSourceText cs := by
  obtain ⟨hvisible, hends⟩ := visible_of_noBlank hne h
  have hnone : cs.dropWhile (!Unicode.isBlank ·) = [] := by simpa using h
  exact ⟨hvisible, hends, by rw [hnone]; rfl⟩

/-- No letter of a keyword of a view is a space in any form. -/
theorem foldEq_space_of_viewKeywords :
    ∀ word ∈ viewKeywords, ∀ w ∈ word.toList, Unicode.foldEq w ' ' = false := by
  have hall :
      (viewKeywords.all fun word => word.toList.all fun w => !Unicode.foldEq w ' ') = true := by
    decide +kernel
  simpa using hall

/-- Whether a keyword comes next in a text that ends with another character than a blank does not
depend on what stands behind the text. -/
theorem startsKeyword_append {keyword : String} (hkeyword : keyword ∈ viewKeywords)
    {ends : List Char → Bool} {cs tail : List Char} (hcs : EndsVisible cs)
    (htail : StandsApart tail) (hends : ∀ rest, ends (rest ++ tail) = ends rest) :
    startsKeyword keyword ends (cs ++ tail) = startsKeyword keyword ends cs := by
  rw [startsKeyword, startsKeyword, blanks?_append hcs]
  cases blanks? cs with
  | none => rfl
  | some rest =>
    rw [Option.map_some, Option.bind_some, Option.bind_some, word?_append_of_standsApart
      (foldEq_space_of_viewKeywords keyword hkeyword) htail, Option.any_map]
    simp only [hends]

/-- Text that stands apart makes no difference to whether a condition comes next. -/
theorem startsWhere_append {cs tail : List Char} (hcs : EndsVisible cs) (htail : StandsApart tail) :
    startsWhere (cs ++ tail) = startsWhere cs :=
  startsKeyword_append (by decide) hcs htail (endsWord_append htail)

/-- Text that stands apart makes no difference to whether sources come next. -/
theorem startsFrom_append {cs tail : List Char} (hcs : EndsVisible cs) (htail : StandsApart tail) :
    startsFrom (cs ++ tail) = startsFrom cs := by
  refine startsKeyword_append (by decide) hcs htail fun rest => ?_
  cases rest with
  | cons c rest => rfl
  | nil => rcases htail with rfl | ⟨rest, rfl⟩ <;> simp [isBlank_space]

/-- A source is read off the text of all sources exactly when this text has no blanks and nothing or
a condition stands behind it, and then the source is all of it. -/
theorem readSource?_from_iff {cs tail source : List Char} (hcs : IsSourceText cs)
    (htail : StandsApart tail) :
    readSource? (" FROM ".toList ++ (cs ++ tail)) = some source ↔
      source = cs ∧ (∀ c ∈ cs, Unicode.isBlank c = false) ∧
        (tail = [] ∨ startsWhere tail = true) := by
  have hvisible := hcs.visible
  have hends := hcs.ends
  obtain ⟨hsplit, hrun, hrest⟩ := span_eq_iff.mp
    (List.span_eq_takeWhile_dropWhile (p := (!Unicode.isBlank ·)) (l := cs))
  have hnoWhere := hcs.noWhere
  generalize cs.takeWhile (!Unicode.isBlank ·) = run at hsplit hrun
  generalize cs.dropWhile (!Unicode.isBlank ·) = behind at hsplit hrest hnoWhere
  have hrun : ∀ c ∈ run, Unicode.isBlank c = false := by simpa using hrun
  have hrest : ∀ c ∈ behind.head?, Unicode.isBlank c = true := by simpa [StartsBeside] using hrest
  have hne : run ≠ [] := by
    rintro rfl
    obtain ⟨c, rest, heq, hc⟩ := hvisible
    rw [List.nil_append] at hsplit
    rw [← hsplit, heq] at hrest
    rw [hrest c rfl] at hc
    cases hc
  have htail' : ∀ c ∈ tail.head?, Unicode.isBlank c = true := by
    rcases htail with rfl | ⟨rest, rfl⟩
    · simp
    · simp [isBlank_space]
  rw [readSource?_from (hvisible.append tail)]
  cases behind with
  | nil =>
    rw [List.append_nil] at hsplit
    subst hsplit
    rw [run?_append hne hrun htail', Option.bind_some]
    simp only [Bool.or_eq_true, List.isEmpty_iff, Option.ite_none_right_eq_some, Option.some.injEq]
    constructor
    · rintro ⟨htail, rfl⟩
      exact ⟨rfl, hrun, htail⟩
    · rintro ⟨rfl, -, htail⟩
      exact ⟨htail, rfl⟩
  | cons b behind =>
    have hblank : Unicode.isBlank b = true := hrest b rfl
    have hbehind : EndsVisible (b :: behind) :=
      (hsplit ▸ hends).of_append (List.cons_ne_nil b behind)
    subst hsplit
    have hrest' : ∀ c ∈ (b :: behind ++ tail).head?, Unicode.isBlank c = true := by
      simpa using hblank
    rw [List.append_assoc, run?_append hne hrun hrest', Option.bind_some]
    dsimp only
    rw [startsWhere_append hbehind htail, hnoWhere]
    refine iff_of_false (by simp) ?_
    rintro ⟨-, hall, -⟩
    rw [hall b (by simp)] at hblank
    cases hblank

/-! ## The source behind the items -/

/-- A source is read only where `FROM` comes next. -/
theorem startsFrom_of_readSource? {cs source : List Char} (h : readSource? cs = some source) :
    startsFrom cs = true := by
  rw [readSource?] at h
  simp only [phrase?, Option.bind_eq_bind, Option.bind_eq_some_iff] at h
  obtain ⟨rest, hrest, _, ⟨after, hafter, gap, hgap, -⟩, -⟩ := h
  rw [startsFrom, startsKeyword, hrest, Option.bind_some, hafter, Option.any_some]
  cases after with
  | nil => rfl
  | cons c after =>
    rw [blanks?] at hgap
    split at hgap
    · next hc => simpa using hc
    · cases hgap

/-- What is found in a text is the first source that can be read in it. -/
theorem untilSource?_eq_some_iff {cs before source : List Char} :
    untilSource? cs = some (before, source) ↔
      ∃ rest, cs = before ++ rest ∧ readSource? rest = some source ∧
        ∀ front back, before = front ++ back → back ≠ [] → readSource? (back ++ rest) = none := by
  induction cs generalizing before with
  | nil =>
    refine iff_of_false (by simp [untilSource?]) ?_
    rintro ⟨rest, hsplit, hread, -⟩
    obtain ⟨-, rfl⟩ := List.append_eq_nil_iff.mp hsplit.symm
    cases hread
  | cons c cs ih =>
    rw [untilSource?]
    cases hhere : readSource? (c :: cs) with
    | some found =>
      rw [Option.some.injEq, Prod.mk.injEq]
      constructor
      · rintro ⟨rfl, rfl⟩
        refine ⟨c :: cs, rfl, hhere, fun front back hnil hne => ?_⟩
        exact absurd (List.append_eq_nil_iff.mp hnil.symm).2 hne
      · rintro ⟨rest, hsplit, hread, hfirst⟩
        have hbefore : before = [] := by
          by_contra hne
          have hnone := hfirst [] before rfl hne
          rw [← hsplit, hhere] at hnone
          cases hnone
        subst hbefore
        rw [List.nil_append] at hsplit
        rw [← hsplit, hhere] at hread
        exact ⟨rfl, Option.some.inj hread⟩
    | none =>
      simp only [Option.map_eq_some_iff, Prod.exists, Prod.mk.injEq]
      constructor
      · rintro ⟨items, found, h, rfl, rfl⟩
        obtain ⟨rest, rfl, hread, hfirst⟩ := ih.mp h
        refine ⟨rest, rfl, hread, fun front back hsplit hne => ?_⟩
        rcases List.cons_eq_append_iff.mp hsplit with ⟨-, rfl⟩ | ⟨front', -, hsplit'⟩
        · exact hhere
        · exact hfirst front' back hsplit' hne
      · rintro ⟨rest, hsplit, hread, hfirst⟩
        cases before with
        | nil =>
          rw [List.nil_append] at hsplit
          rw [← hsplit, hhere] at hread
          cases hread
        | cons d before =>
          obtain ⟨rfl, rfl⟩ := List.cons_eq_cons.mp hsplit
          have hcs : untilSource? (before ++ rest) = some (before, source) := by
            refine ih.mpr ⟨rest, rfl, hread, fun front back hsplit' hne => ?_⟩
            exact hfirst (c :: front) back (by rw [hsplit']; rfl) hne
          exact ⟨before, source, hcs, rfl, rfl⟩

/-- Text behind items: it is empty, or begins with a space and a word that does not begin like
`AS`. -/
def FollowsItems (cs : List Char) : Prop :=
  cs = [] ∨ ∃ c rest, cs = ' ' :: c :: rest ∧ isGap c = false ∧ Unicode.foldEq 'A' c = false

/-- What follows items stands apart. -/
theorem FollowsItems.standsApart {cs : List Char} (h : FollowsItems cs) : StandsApart cs := by
  rcases h with rfl | ⟨c, rest, rfl, -⟩
  · exact .inl rfl
  · exact .inr ⟨_, rfl⟩

/-- Text that follows items does so with more such text behind it. -/
theorem FollowsItems.append {cs tail : List Char} (hcs : FollowsItems cs)
    (htail : FollowsItems tail) : FollowsItems (cs ++ tail) := by
  rcases hcs with rfl | ⟨c, rest, rfl, hc⟩
  · exact htail
  · exact .inr ⟨c, rest ++ tail, rfl, hc⟩

/-- The text of items: it begins and ends as items do, and where `FROM` stands between blanks in it,
neither what is before that can be read as items nor the whole text. -/
structure IsItemText (cs : List Char) : Prop where
  visible : Visible cs
  ends : EndsItems cs
  source : ∀ front back, cs = front ++ back → startsFrom back = true →
    ¬ReadsAsItems front ∧ ¬ReadsAsItems cs

/-- Where `FROM` comes next between blanks, it is a word of the text. -/
theorem exists_word_of_startsFrom (front : List Char) {back : List Char}
    (h : startsFrom back = true) :
    ∃ w ∈ words (front ++ back), SpellsWord "FROM" w := by
  have hfrom : "FROM" ∈ viewKeywords := by decide
  unfold startsFrom startsKeyword at h
  cases hbehind : (blanks? back).bind (word? "FROM".toList) with
  | none =>
    rw [hbehind] at h
    cases h
  | some after =>
    rw [hbehind, Option.any_some] at h
    obtain ⟨rest, hblanks, hword⟩ := Option.bind_eq_some_iff.mp hbehind
    obtain ⟨gap, hgapne, hgap, rfl, -⟩ := blanks?_eq_some_iff.mp hblanks
    obtain ⟨w, hspells, rfl⟩ := word?_eq_some_iff.mp hword
    have hspells : SpellsWord "FROM" w := hspells
    have hw : words w = [w] := words_eq_singleton (hspells.ne_nil hfrom) (hspells.noGap hfrom)
    refine ⟨w, ?_, hspells⟩
    rw [words_append_gap hgapne fun c hc => isGap_of_isBlank (hgap c hc)]
    refine List.mem_append_right _ ?_
    cases after with
    | nil => simp [hw]
    | cons b after => simp [words_append_cons (isGap_of_isBlank h), hw]

/-- Items among whose words there is no `FROM` are the text of items. -/
theorem isItemText_of_words {cs : List Char} (hvisible : Visible cs) (hends : EndsItems cs)
    (hwords : ∀ w ∈ words cs, ¬SpellsWord "FROM" w) : IsItemText cs where
  visible := hvisible
  ends := hends
  source := fun front back hsplit hfrom => by
    obtain ⟨w, hw, hspells⟩ := exists_word_of_startsFrom front hfrom
    exact absurd hspells (hwords w (hsplit ▸ hw))

/-- Text in which items can end does not end with a blank. -/
theorem EndsItems.endsVisible {cs : List Char} (h : EndsItems cs) : EndsVisible cs := by
  obtain ⟨c, hc, hgap⟩ := h.visible
  obtain ⟨front, rfl⟩ := List.getLast?_eq_some_iff.mp hc
  exact ⟨front, c, rfl, isBlank_of_not_isGap hgap⟩

/-- If what stands before the first source is to be read as items, it is all the items, and the
source is the one that follows them. -/
theorem untilSource?_items_iff {c : Char} {items rest before source : List Char}
    (hitems : IsItemText (c :: items)) (hrest : FollowsItems rest) :
    untilSource? (items ++ rest) = some (before, source) ∧ ReadsAsItems (c :: before) ↔
      before = items ∧ ReadsAsItems (c :: items) ∧ readSource? rest = some source := by
  have hend {front back : List Char} (hsplit : items = front ++ back) (hne : back ≠ [])
      {found : List Char} (hread : readSource? (back ++ rest) = some found) :
      ¬ReadsAsItems (c :: front) ∧ ¬ReadsAsItems (c :: items) := by
    have hends : EndsVisible ((c :: front) ++ back) := by
      rw [List.cons_append, ← hsplit]
      exact hitems.ends.endsVisible
    have hback : EndsVisible back := hends.of_append hne
    refine hitems.source (c :: front) back (by rw [hsplit]; rfl) ?_
    rw [← startsFrom_append hback hrest.standsApart]
    exact startsFrom_of_readSource? hread
  constructor
  · rintro ⟨hfound, hreads⟩
    obtain ⟨after, hsplit, hread, -⟩ := untilSource?_eq_some_iff.mp hfound
    suffices hbefore : before = items by
      subst hbefore
      exact ⟨rfl, hreads, List.append_cancel_left hsplit ▸ hread⟩
    rcases List.append_eq_append_iff.mp hsplit with ⟨more, rfl, hmore⟩ | ⟨back, hback, rfl⟩
    · -- the items go on behind their end
      rcases hrest with hnil | ⟨d, others, heq, hgap, hd⟩
      · rw [hnil] at hmore
        rw [(List.append_eq_nil_iff.mp hmore.symm).1, List.append_nil]
      · rw [heq] at hmore
        match more, hmore, hreads with
        | [], _, _ => rw [List.append_nil]
        | [_], hmore, _ =>
          obtain ⟨-, rfl⟩ := List.cons_eq_cons.mp hmore
          simp [readSource?, blanks?, isBlank_of_not_isGap hgap] at hread
        | b :: e :: more, hmore, hreads =>
          obtain ⟨rfl, hnext⟩ := List.cons_eq_cons.mp hmore
          obtain ⟨rfl, -⟩ := List.cons_eq_cons.mp hnext
          exact absurd hreads (not_readsAsItems_append hitems.ends hgap hd more)
    · -- the items end before their end
      by_cases hne : back = []
      · rw [hback, hne, List.append_nil]
      · exact absurd hreads (hend hback hne hread).1
  · rintro ⟨rfl, hreads, hread⟩
    refine ⟨untilSource?_eq_some_iff.mpr ⟨rest, rfl, hread, ?_⟩, hreads⟩
    intro front back hsplit hne
    cases hfound : readSource? (back ++ rest) with
    | none => rfl
    | some found => exact absurd hreads (hend hsplit hne hfound).2

end TableTypes.Sql
