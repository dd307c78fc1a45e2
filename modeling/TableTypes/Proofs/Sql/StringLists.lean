import TableTypes.Proofs.Sql.CheckText

/-!
# The canonical text of a list of string constants

The condition that a column is one of some string constants is read back: the column if its name is
one word, and the constants if they stand between single quotes and the quotes in them stand apart.
-/

namespace TableTypes.Sql

/-- The condition that a column is one of some string constants. -/
def stringList (column : Name) (constants : List (StringMark × String)) : Expr :=
  .inList (.name [column]) false (constants.map fun c => .literal (.string c.1 c.2))

/-- A text whose single quotes stand neither beside each other nor behind a backslash. -/
def QuotesApart (cs : List Char) : Prop :=
  cs.IsChain fun c next => next = '\'' → c ≠ '\'' ∧ c ≠ '\\'

instance (cs : List Char) : Decidable (QuotesApart cs) :=
  inferInstanceAs (Decidable (cs.IsChain _))

/-- A text with each single quote written twice. -/
def doubleQuotes (cs : List Char) : List Char :=
  cs.flatMap fun c => if c = '\'' then ['\'', '\''] else [c]

/-- Quotes that stand apart are each written twice. -/
theorem escapeQuotes_of_apart {cs : List Char} (h : QuotesApart cs) {afterBackslash : Bool}
    (hbegin : afterBackslash = true → cs.head? ≠ some '\'') :
    escapeQuotes '\'' afterBackslash cs = doubleQuotes cs := by
  induction cs generalizing afterBackslash with
  | nil => rfl
  | cons c cs ih =>
    have hplain : c = '\'' → afterBackslash = false := by
      rintro rfl
      rw [← Bool.not_eq_true]
      exact fun h => hbegin h rfl
    cases cs with
    | nil => by_cases hc : c = '\'' <;> simp [escapeQuotes, doubleQuotes, hc, hplain]
    | cons next rest =>
      obtain ⟨hnext, hrest⟩ := List.isChain_cons_cons.mp h
      rw [escapeQuotes, doubleQuotes, List.flatMap_cons]
      by_cases hc : c = '\''
      · have hother : next ≠ '\'' := fun heq => (hnext heq).1 hc
        rw [if_pos hc, if_pos hc, hplain hc, if_neg (by simp), if_neg hother,
          ih hrest (by simp), hc]
        rfl
      · rw [if_neg hc, if_neg hc, ih hrest fun hslash heq => ?_]
        · rfl
        · exact (hnext (Option.some.inj heq)).2 (decide_eq_true_eq.mp hslash)

/-- A constant with doubled quotes is read up to its closing quote. -/
theorem constant?_doubleQuotes {rest : List Char} (hrest : rest.head? ≠ some '\'')
    (cs : List Char) : constant? (doubleQuotes cs ++ '\'' :: rest) = some (cs, rest) := by
  induction cs with
  | nil => exact constant?_append List.not_mem_nil hrest
  | cons c cs ih =>
    rw [doubleQuotes, List.flatMap_cons]
    by_cases hc : c = '\''
    · rw [if_pos hc, hc]
      change constant? ('\'' :: '\'' :: (doubleQuotes cs ++ '\'' :: rest)) = _
      rw [constant?, ih]
    · rw [if_neg hc]
      change constant? (c :: (doubleQuotes cs ++ '\'' :: rest)) = _
      simp [constant?, hc, ih]

/-- A value between single quotes, with each such quote in it written twice. -/
def constantText (value : String) : String :=
  "'" ++ String.ofList (doubleQuotes value.toList) ++ "'"

/-- A constant is read back, and those behind it after it. -/
theorem constants_constantText (value : String) (rest : List Char)
    (hrest : rest.head? ≠ some '\'') :
    constants ((constantText value).toList ++ rest) = value.toList :: constants rest := by
  have htext : (constantText value).toList ++ rest =
      '\'' :: (doubleQuotes value.toList ++ '\'' :: rest) := by
    simp [constantText]
  have hconstant := constant?_doubleQuotes hrest value.toList
  rw [htext, constants, if_pos rfl]
  split
  · next value' after heq =>
    rw [hconstant] at heq
    cases heq
    rfl
  · next heq => cases hconstant.symm.trans heq

/-- Any values are read back from a list in which the quotes in them are written twice. -/
theorem labelsOf_constantTexts (values : List String) :
    labelsOf (commas (values.map constantText)).toList = values := by
  have hsign (c : Char) (hc : c ≠ '\'') (rest : List Char) :
      constants (c :: rest) = constants rest := by
    rw [constants, if_neg hc]
  have hconstants : constants (commas (values.map constantText)).toList =
      values.map String.toList := by
    rw [commas, String.toList_intercalate, List.map_map]
    induction values with
    | nil => simp [constants]
    | cons value rest ih =>
      cases rest with
      | nil => simpa [constants] using constants_constantText value [] (by simp)
      | cons next rest =>
        let others := ", ".toList.intercalate ((next :: rest).map (String.toList ∘ constantText))
        have hcons := constants_constantText value (',' :: ' ' :: others) (by simp)
        rw [hsign ',' (by decide), hsign ' ' (by decide), ih] at hcons
        rw [List.map_cons, List.map_cons, List.intercalate_cons_cons, Function.comp_apply]
        simpa [others] using hcons
  rw [labelsOf, hconstants]
  cases values with
  | nil => decide
  | cons value rest => simp [Function.comp_def]

/-- No quote is written more than twice. -/
theorem length_escapeQuotes_le (afterBackslash : Bool) (cs : List Char) :
    (escapeQuotes '\'' afterBackslash cs).length ≤ (doubleQuotes cs).length := by
  fun_induction escapeQuotes '\'' afterBackslash cs with
  | case1 => simp
  | _ => grind [doubleQuotes]

/-- Only quotes that stand apart are each written twice. -/
theorem apart_of_escapeQuotes {cs : List Char} {afterBackslash : Bool}
    (h : escapeQuotes '\'' afterBackslash cs = doubleQuotes cs) :
    QuotesApart cs ∧ (afterBackslash = true → cs.head? ≠ some '\'') := by
  induction cs generalizing afterBackslash with
  | nil => simp [QuotesApart]
  | cons c cs ih =>
    cases cs with
    | nil => by_cases hc : c = '\'' <;> simp_all [escapeQuotes, doubleQuotes, QuotesApart]
    | cons next rest =>
      have hle (afterBackslash : Bool) (cs : List Char) := length_escapeQuotes_le afterBackslash cs
      rw [escapeQuotes, doubleQuotes, List.flatMap_cons, ← doubleQuotes] at h
      by_cases hc : c = '\''
      · rw [if_pos hc, if_pos hc] at h
        cases hslash : afterBackslash with
        | true =>
          -- behind a backslash the quote is written once, so that the text is too short
          rw [hslash, if_pos rfl] at h
          have hlength := congrArg List.length h
          have := hle true (next :: rest)
          simp only [List.length_cons, List.length_append, List.length_nil] at hlength
          omega
        | false =>
          rw [hslash, if_neg (by simp)] at h
          by_cases hnext : next = '\''
          · -- and so are two quotes that are written as they are
            rw [if_pos hnext, doubleQuotes, List.flatMap_cons, if_pos hnext, ← doubleQuotes] at h
            have hlength := congrArg List.length h
            have := hle false rest
            simp only [List.length_cons, List.length_append, List.length_nil] at hlength
            omega
          · rw [if_neg hnext, hc] at h
            obtain ⟨hrest, -⟩ := ih ((List.append_right_inj ['\'', '\'']).mp h)
            exact ⟨List.isChain_cons_cons.mpr ⟨fun heq => absurd heq hnext, hrest⟩, by simp⟩
      · rw [if_neg hc, if_neg hc] at h
        obtain ⟨hrest, hhead⟩ := ih ((List.append_right_inj [c]).mp h)
        have hnext : next = '\'' → c ≠ '\'' ∧ c ≠ '\\' := by
          rintro rfl
          exact ⟨hc, fun hslash => hhead (decide_eq_true hslash) rfl⟩
        exact ⟨List.isChain_cons_cons.mpr ⟨hnext, hrest⟩, by simpa using fun _ => hc⟩

/-- A value between single quotes is written with all quotes in it twice exactly if they stand
apart. -/
theorem quoted_eq_constantText_iff {value : String} :
    quoted '\'' value = constantText value ↔ QuotesApart value.toList := by
  rw [← String.toList_inj]
  simp only [quoted, constantText, String.toList_append, String.toList_ofList]
  constructor
  · intro h
    exact (apart_of_escapeQuotes (by simpa using h)).1
  · intro h
    simp [escapeQuotes_of_apart h]

/-- String constants between single quotes are read as they are, if the quotes in them stand apart.
-/
theorem labelsOf_quoted {values : List String} (h : ∀ v ∈ values, QuotesApart v.toList) :
    labelsOf (commas (values.map (quoted '\''))).toList = values := by
  have htexts : values.map (quoted '\'') = values.map constantText := by
    exact List.map_congr_left fun v hv => quoted_eq_constantText_iff.mpr (h v hv)
  rw [htexts, labelsOf_constantTexts]

/-- A name that is one word, perhaps in double quotes or backquotes. -/
structure IsWordName (n : Name) : Prop where
  nonempty : n.text.toList ≠ []
  word : ∀ c ∈ n.text.toList, Pattern.CharSet.word.contains c = true
  quote : n.quote = none ∨ n.quote = some '"' ∨ n.quote = some '\x60'

/-- A name that is one word is written between two equal marks. -/
theorem IsWordName.exists_marks {n : Name} (h : IsWordName n) :
    ∃ mark, QuoteMark mark ∧ n.render.toList = mark ++ (n.text.toList ++ mark) := by
  have hquoted (q : Char) (hq : Pattern.CharSet.word.contains q = false) :
      (quoted q n.text).toList = [q] ++ (n.text.toList ++ [q]) := by
    have hnone : q ∉ n.text.toList := by
      intro hmem
      rw [h.word q hmem] at hq
      cases hq
    simp [quoted, escapeQuotes_eq_self hnone]
  rcases h.quote with hquote | hquote | hquote
  · exact ⟨[], .inl rfl, by simp [Name.render, hquote]⟩
  · refine ⟨['"'], .inr (.inl rfl), ?_⟩
    rw [Name.render, hquote]
    exact hquoted '"' (by decide +kernel)
  · refine ⟨['\x60'], .inr (.inr rfl), ?_⟩
    rw [Name.render, hquote]
    exact hquoted '\x60' (by decide +kernel)

/-- String constants are written one by one. -/
theorem renderExprs_constants (constants : List (StringMark × String)) :
    renderExprs (constants.map fun c => .literal (.string c.1 c.2)) =
      constants.map fun c => renderString c.1 c.2 := by
  induction constants with
  | nil => rfl
  | cons constant rest ih =>
    rw [List.map_cons, renderExprs, ih, List.map_cons]
    rfl

/-- The condition that a column is one of some constants is the text of a list. -/
theorem listText_stringList {n : Name} (h : IsWordName n) (constants : List (StringMark × String)) :
    ListText (stringList n constants).render.toList n.text.toList
      (commas (constants.map fun c => renderString c.1 c.2)).toList := by
  obtain ⟨mark, hmark, hrender⟩ := h.exists_marks
  have hblank : Blanks [' '] := by simp [Blanks, isBlank_space]
  have hin : SpellsWord "IN" "IN".toList :=
    List.forall₂_same.mpr fun c _ => by simp [Unicode.foldEq]
  have hpath : renderPath [n] = n.render := by simp [renderPath]
  have htext : (stringList n constants).render.toList = [] ++ (mark ++ (n.text.toList ++ (mark ++
      ([' '] ++ ("IN".toList ++ ([' '] ++ '(' ::
        ((commas (constants.map fun c => renderString c.1 c.2)).toList ++ [')']))))))) := by
    rw [stringList, Expr.render, Expr.render, renderExprs_constants, hpath]
    simp [hrender]
  rw [htext]
  exact .mk (by simp [Blanks]) hmark h.nonempty h.word hmark (by simp) hblank hin hblank
    (by simp [Blanks])

end TableTypes.Sql
