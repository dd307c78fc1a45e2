import TableTypes.Proofs.Sql.Grammar

/-!
# The canonical text of a check

Of a check nothing but its text is read, and the text counts as a list of labels if it begins like
one and ends with a parenthesis. What the reader accepts is stated here as a grammar: the reader
takes exactly the texts of the grammar, so what stands between the first and the last parenthesis
can be anything.
-/

namespace TableTypes.Sql

/-! ## Lists -/

/-- The text of a list: a word that may stand in quotes, `IN`, and a body in parentheses. -/
inductive ListText : List Char → List Char → List Char → Prop where
  | mk {before mark column mark' gap word gap' body after : List Char} :
    Blanks before → QuoteMark mark → column ≠ [] →
    (∀ c ∈ column, Pattern.CharSet.word.contains c = true) → QuoteMark mark' →
    gap ≠ [] → Blanks gap → SpellsWord "IN" word → Blanks gap' → Blanks after →
    ListText (before ++ (mark ++ (column ++ (mark' ++ (gap ++ (word ++ (gap' ++
      '(' :: (body ++ ')' :: after)))))))) column body

/-- The word and the body of a list. -/
def readList? (cs : List Char) : Option (List Char × List Char) := do
  let (column, rest) ← quotedWord? (cs.dropWhile Unicode.isBlank)
  let rest ← sign? '(' ((← word? "IN".toList (← blanks? rest)).dropWhile Unicode.isBlank)
  return (column, ← beforeLast? ')' rest)

/-- No form of a letter of `IN` is a blank. -/
theorem otherForms_apart_from_blanks :
    ∀ w ∈ "IN".toList, ∀ c ∈ w :: Unicode.otherForms w, Unicode.isBlank c = false := by
  have hall : ("IN".toList.all fun w =>
      (w :: Unicode.otherForms w).all fun c => !Unicode.isBlank c) = true := by decide +kernel
  simpa using hall

/-- What is written for a list begins with no blank behind the gap. -/
theorem SpellsWord.startsBeside {cs rest : List Char} (h : SpellsWord "IN" cs) :
    StartsBeside Unicode.isBlank (cs ++ rest) := by
  have hforms : List.Forall₂ (fun w c => Unicode.foldEq w c = true) ['I', 'N'] cs := h
  cases hforms with
  | cons hc _ =>
    intro d hd
    rw [← Option.some.inj hd]
    rw [Unicode.foldEq, Bool.or_eq_true, decide_eq_true_eq, List.contains_iff_mem] at hc
    exact otherForms_apart_from_blanks 'I' (by simp) _ (List.mem_cons.mpr (hc.imp_left Eq.symm))

/-- The texts of lists are what is read as a list. -/
theorem readList?_eq_some_iff {cs column body : List Char} :
    readList? cs = some (column, body) ↔ ListText cs column body := by
  have hopen : Unicode.isBlank '(' = false := by decide
  have hclose : Unicode.isBlank ')' = false := by decide
  constructor
  · intro h
    simp only [readList?, Option.bind_eq_bind, Option.bind_eq_some_iff, Option.pure_def,
      Option.some.injEq, Prod.mk.injEq, Prod.exists] at h
    obtain ⟨_, rest, hword, _, hgap, _, hin, _, hsign, _, hbody, rfl, rfl⟩ := h
    obtain ⟨before, hbefore, hcs⟩ := exists_blanks cs
    obtain ⟨hne, hcolumn, mark, mark', hmark, hmark', heq⟩ := quotedWord?_eq_some hword
    obtain ⟨gap, hgapne, hblank, rfl, -⟩ := blanks?_eq_some_iff.mp hgap
    obtain ⟨written, hwritten, rfl⟩ := word?_eq_some_iff.mp hin
    obtain ⟨gap', hgap', rfl⟩ := (sign?_dropWhile_eq_some_iff hopen).mp hsign
    obtain ⟨after, hafter, rfl⟩ := (beforeLast?_eq_some_iff hclose).mp hbody
    rw [hcs, heq]
    exact .mk hbefore hmark hne hcolumn hmark' hgapne hblank hwritten hgap' hafter
  · rintro ⟨hbefore, hmark, hne, hcolumn, hmark', hgapne, hgap, hin, hgap', hafter⟩
    next before mark mark' gap word gap' after =>
    -- From the end to the beginning, so that each step passes over one part and leaves the rest.
    have hbody : beforeLast? ')' (body ++ ')' :: after) = some body :=
      (beforeLast?_eq_some_iff hclose).mpr ⟨after, hafter, rfl⟩
    generalize body ++ ')' :: after = inner at hbody ⊢
    have hsign : sign? '(' ((gap' ++ '(' :: inner).dropWhile Unicode.isBlank) = some inner :=
      (sign?_dropWhile_eq_some_iff hopen).mpr ⟨gap', hgap', rfl⟩
    generalize gap' ++ '(' :: inner = opened at hsign ⊢
    have hskip : word? "IN".toList (word ++ opened) = some opened :=
      word?_eq_some_iff.mpr ⟨word, hin, rfl⟩
    have hblanks : blanks? (gap ++ (word ++ opened)) = some (word ++ opened) :=
      blanks?_eq_some_iff.mpr ⟨gap, hgapne, hgap, rfl, hin.startsBeside⟩
    have hword : quotedWord? (mark ++ (column ++ (mark' ++ (gap ++ (word ++ opened))))) =
        some (column, gap ++ (word ++ opened)) :=
      quotedWord?_append hmark hne hcolumn hmark'
        (startsBeside_append hgapne fun c hc => (apart_of_isBlank (hgap c hc)).1)
        (startsBeside_append hgapne fun c hc => (apart_of_isBlank (hgap c hc)).2)
    have hbegin : StartsBeside Unicode.isBlank
        (mark ++ column ++ (mark' ++ (gap ++ (word ++ opened)))) := by
      refine startsBeside_append (by simp [hne]) fun c hc => ?_
      rcases List.mem_append.mp hc with hc | hc
      · exact (hmark.apart c hc).1
      · exact isBlank_of_word (hcolumn c hc)
    rw [List.append_assoc] at hbegin
    rw [readList?, dropWhile_isBlank hbefore hbegin, hword]
    simp only [Option.bind_eq_bind, Option.bind_some, hblanks, hskip, hsign, hbody, Option.pure_def]

/-! ## Checks -/

/-- There are no blanks behind a text that ends with another character. -/
theorem Blanks.eq_nil {cs before after : List Char} {c : Char} (hafter : Blanks after)
    (hc : Unicode.isBlank c = false) (h : cs ++ [c] = before ++ after) : after = [] := by
  rcases List.eq_nil_or_concat after with hnil | ⟨rest, last, rfl⟩
  · exact hnil
  · rw [List.concat_eq_append, ← List.append_assoc] at h
    have hblank := hafter last (by simp)
    rw [← List.singleton_inj.mp (List.append_inj' h rfl).2, hc] at hblank
    cases hblank

/-- A list ends with a parenthesis, apart from blanks. -/
theorem ListText.exists_end {cs column body : List Char} (h : ListText cs column body) :
    ∃ front after, cs = front ++ ')' :: after ∧ Blanks after := by
  obtain ⟨-, -, -, -, -, -, -, -, -, hafter⟩ := h
  next before mark mark' gap word gap' after =>
  refine ⟨before ++ (mark ++ (column ++ (mark' ++ (gap ++ (word ++ (gap' ++ '(' :: body)))))),
    after, ?_, hafter⟩
  simp

/-- Behind a list there is nothing but blanks. -/
theorem ListText.eq_of_append_singleton {cs column body : List Char} {c : Char}
    (h : ListText (cs ++ [c]) column body) (hc : Unicode.isBlank c = false) : c = ')' := by
  obtain ⟨front, after, heq, hafter⟩ := h.exists_end
  have hclosed : cs ++ [c] = front ++ [')'] ++ after := heq.trans (by simp)
  rw [hafter.eq_nil hc hclosed, List.append_nil] at hclosed
  exact List.singleton_inj.mp (List.append_inj' hclosed rfl).2

/-- A list whose body ends with a parenthesis has its own closing parenthesis at the end. -/
theorem listText_closed_iff {cs column body : List Char} :
    (∃ after, Blanks after ∧ ListText (cs ++ [')']) column (body ++ ')' :: after)) ↔
      ListText cs column body := by
  constructor
  · rintro ⟨after, hafter, h⟩
    generalize htext : cs ++ [')'] = text at h
    generalize hinner : body ++ ')' :: after = inner at h
    obtain ⟨hbefore, hmark, hne, hcolumn, hmark', hgapne, hgap, hin, hgap', hend⟩ := h
    next before mark mark' gap word gap' behind =>
    have hclosed : cs ++ [')'] = before ++ (mark ++ (column ++ (mark' ++ (gap ++ (word ++
        (gap' ++ '(' :: inner)))))) ++ [')'] ++ behind := by
      rw [htext]
      simp
    rw [hend.eq_nil (by decide) hclosed, List.append_nil] at hclosed
    rw [List.append_cancel_right hclosed, ← hinner]
    exact .mk hbefore hmark hne hcolumn hmark' hgapne hgap hin hgap' hafter
  · rintro ⟨hbefore, hmark, hne, hcolumn, hmark', hgapne, hgap, hin, hgap', hafter⟩
    next before mark mark' gap word gap' after =>
    have hlist := @ListText.mk before mark column mark' gap word gap' (body ++ ')' :: after) []
      hbefore hmark hne hcolumn hmark' hgapne hgap hin hgap' (by simp [Blanks])
    refine ⟨after, hafter, ?_⟩
    simpa only [List.append_assoc, List.cons_append, List.nil_append] using hlist

/-- The text behind the opening parenthesis of a check, as it is read. -/
def readInside? (cs : List Char) : Option (String × List String) :=
  (readList? cs).bind fun (column, inner) =>
    (beforeLast? ')' inner).map fun body => (String.ofList column, labelsOf body)

/-- What is read inside a check is a list, its labels being what stands before the last parenthesis.
-/
theorem readInside?_eq_some_iff {cs : List Char} {column : String} {labels : List String} :
    readInside? cs = some (column, labels) ↔
      ∃ word body after, Blanks after ∧ ListText cs word (body ++ ')' :: after) ∧
        column = String.ofList word ∧ labels = labelsOf body := by
  have hclose : Unicode.isBlank ')' = false := by decide
  constructor
  · intro h
    obtain ⟨⟨word, inner⟩, hlist, h⟩ := Option.bind_eq_some_iff.mp h
    obtain ⟨body, hbody, heq⟩ := Option.map_eq_some_iff.mp h
    obtain ⟨after, hafter, rfl⟩ := (beforeLast?_eq_some_iff hclose).mp hbody
    obtain ⟨rfl, rfl⟩ := Prod.mk.inj heq
    exact ⟨word, body, after, hafter, readList?_eq_some_iff.mp hlist, rfl, rfl⟩
  · rintro ⟨word, body, after, hafter, hlist, rfl, rfl⟩
    have hbody : beforeLast? ')' (body ++ ')' :: after) = some body :=
      (beforeLast?_eq_some_iff hclose).mpr ⟨after, hafter, rfl⟩
    rw [readInside?, readList?_eq_some_iff.mpr hlist, Option.bind_some]
    dsimp only
    rw [hbody, Option.map_some]

/-- The text of a check begins with its keyword. -/
theorem visible_check (cs : List Char) : Visible ("CHECK (".toList ++ cs) :=
  ⟨'C', _, rfl, by decide⟩

/-- Behind its name, if it has one, a check is read from its opening parenthesis on. -/
theorem readCheck?_eq_readInside? {text : String} {cs : List Char}
    (hheader : (match phrase? ["CONSTRAINT"] (Unicode.trim text.toList) with
      | some rest => (run? rest).bind fun (_, rest) => blanks? rest
      | none => some (Unicode.trim text.toList)) = some ("CHECK (".toList ++ cs)) :
    readCheck? text = readInside? cs := by
  have hcheck : word? "CHECK".toList ("CHECK (".toList ++ cs) = some (' ' :: '(' :: cs) :=
    word?_append "CHECK".toList (' ' :: '(' :: cs)
  have hopen : Unicode.isBlank '(' = false := by decide
  have hsign : sign? '(' ((' ' :: '(' :: cs).dropWhile Unicode.isBlank) = some cs := by
    simp [isBlank_space, hopen, sign?]
  have hinside : readInside? cs = (do
      let (column, rest) ← quotedWord? (cs.dropWhile Unicode.isBlank)
      let rest ← sign? '(' ((← word? "IN".toList (← blanks? rest)).dropWhile Unicode.isBlank)
      let labels ← beforeLast? ')' (← beforeLast? ')' rest)
      return (String.ofList column, labelsOf labels)) := by
    simp only [readInside?, readList?, Option.bind_eq_bind, Option.pure_def, Option.bind_assoc,
      Option.bind_some, Option.map_eq_bind, Function.comp_def]
  rw [hinside]
  cases hname : phrase? ["CONSTRAINT"] (Unicode.trim text.toList) with
  | some rest =>
    rw [hname] at hheader
    simp only [readCheck?, hname, Option.bind_eq_bind, hheader, Option.bind_some, hcheck, hsign]
  | none =>
    rw [hname] at hheader
    have htrim := Option.some.inj hheader
    rw [htrim] at hname
    simp only [readCheck?, htrim, hname, Option.bind_eq_bind, Option.bind_some, hcheck, hsign]

/-- A check without a name is read off what stands behind its opening parenthesis. -/
theorem readCheck?_check {cs : List Char} (hend : EndsVisible cs) :
    readCheck? (String.ofList ("CHECK (".toList ++ cs)) = readInside? cs := by
  refine readCheck?_eq_readInside? ?_
  have hunnamed : phrase? ["CONSTRAINT"] ("CHECK (".toList ++ cs) = none := by
    have hletter : Unicode.foldEq 'O' 'H' = false := by decide +kernel
    simp [phrase?, word?, hletter]
  rw [String.toList_ofList, trim_eq_self (visible_check cs) (hend.append _), hunnamed]

/-- A name without blanks before a check is passed over. -/
theorem readCheck?_constraint {name cs : List Char} (hne : name ≠ [])
    (hname : ∀ c ∈ name, Unicode.isBlank c = false) (hend : EndsVisible cs) :
    readCheck? (String.ofList
        ("CONSTRAINT".toList ++ ' ' :: (name ++ ' ' :: ("CHECK (".toList ++ cs)))) =
      readInside? cs := by
  refine readCheck?_eq_readInside? ?_
  have hvisible : Visible (name ++ ' ' :: ("CHECK (".toList ++ cs)) := by
    obtain ⟨c, rest, rfl⟩ := List.exists_cons_of_ne_nil hne
    exact ⟨c, _, rfl, hname c List.mem_cons_self⟩
  have hends := ((hend.append "CHECK (".toList).append (name ++ [' '])).append
    ("CONSTRAINT".toList ++ [' '])
  simp only [List.append_assoc, List.singleton_append] at hends
  have hbegin : Visible ("CONSTRAINT".toList ++ ' ' :: (name ++ ' ' :: ("CHECK (".toList ++ cs))) :=
    ⟨'C', _, rfl, by decide⟩
  rw [String.toList_ofList, trim_eq_self hbegin hends, phrase?_cons hvisible]
  simp only [phrase?, run?_append_space hne hname, Option.bind_some,
    blanks?_space (visible_check cs)]

/-- The text behind a condition ends with its parenthesis only if nothing is said about when it is
enforced. -/
theorem exists_last_renderEnforced (enforced : Option Bool) :
    ∃ front c, ')' :: (renderEnforced enforced).toList = front ++ [c] ∧
      Unicode.isBlank c = false ∧ (c = ')' → enforced = none ∧ front = []) := by
  cases enforced with
  | none => exact ⟨[], ')', rfl, by decide, fun _ => ⟨rfl, rfl⟩⟩
  | some b =>
    cases b with
    | true => exact ⟨") ENFORCE".toList, 'D', rfl, by decide, fun h => absurd h (by decide)⟩
    | false => exact ⟨") NOT ENFORCE".toList, 'D', rfl, by decide, fun h => absurd h (by decide)⟩

/-- The text of a check is read as a list exactly when its condition is the text of one, unless it
says behind the condition whether it is enforced. -/
theorem readCheck?_render_eq_some_iff {name : Option Name} (condition : Expr)
    (enforced : Option Bool)
    (hname : ∀ n ∈ name, n.render ≠ "" ∧ ∀ c ∈ n.render.toList, Unicode.isBlank c = false)
    {column : String} {labels : List String} :
    readCheck? (TableConstraint.check name condition enforced).render = some (column, labels) ↔
      enforced = none ∧ ∃ word body, ListText condition.render.toList word body ∧
        column = String.ofList word ∧ labels = labelsOf body := by
  have hends :
      EndsVisible (condition.render.toList ++ ')' :: (renderEnforced enforced).toList) := by
    obtain ⟨front, c, hfront, hc, -⟩ := exists_last_renderEnforced enforced
    rw [hfront]
    exact EndsVisible.append ⟨front, c, rfl, hc⟩ _
  have hread : readCheck? (TableConstraint.check name condition enforced).render =
      readInside? (condition.render.toList ++ ')' :: (renderEnforced enforced).toList) := by
    cases name with
    | none =>
      rw [← readCheck?_check hends]
      refine congrArg readCheck? ?_
      rw [← String.toList_inj]
      simp [TableConstraint.render, renderConstraintName]
    | some n =>
      obtain ⟨hne, hblank⟩ := hname n rfl
      rw [← readCheck?_constraint (mt String.toList_eq_nil_iff.mp hne) hblank hends]
      refine congrArg readCheck? ?_
      rw [← String.toList_inj]
      simp [TableConstraint.render, renderConstraintName]
  rw [hread, readInside?_eq_some_iff]
  constructor
  · rintro ⟨word, body, after, hafter, hlist, rfl, rfl⟩
    obtain ⟨front, c, hfront, hc, hnone⟩ := exists_last_renderEnforced enforced
    rw [hfront, ← List.append_assoc] at hlist
    have hlast := hlist.eq_of_append_singleton hc
    obtain ⟨henforced, rfl⟩ := hnone hlast
    rw [hlast, List.append_nil] at hlist
    exact ⟨henforced, word, body, listText_closed_iff.mp ⟨after, hafter, hlist⟩, rfl, rfl⟩
  · rintro ⟨rfl, word, body, hlist, rfl, rfl⟩
    obtain ⟨after, hafter, hclosed⟩ := listText_closed_iff.mpr hlist
    exact ⟨word, body, after, hafter, hclosed, rfl, rfl⟩

end TableTypes.Sql
