import TableTypes.Proofs.Glob.Choices
import TableTypes.Proofs.RelatedLists
import TableTypes.Proofs.Text.Cut
import TableTypes.Proofs.Unicode.Blank
import TableTypes.TablePattern

/-!
# Choices between table patterns

Whether the schema belongs to the text compared is decided once for a whole pattern. Main statement:
a choice in parentheses selects what its alternatives select when they are compared with the text
that the choice is compared with. So it selects what one of them selects by itself where a table has
no schema, and where all alternatives or none of them have a dot.
-/

namespace TableTypes.TablePattern

open Unicode

/-- Whether a character may stand in an alternative: letters, numbers, underscores and dots, and the
wildcards. -/
def IsPatternChar (c : Char) : Prop :=
  isAlphanumeric c = true ∨ c ∈ ['_', '.', '*', '?']

instance (c : Char) : Decidable (IsPatternChar c) :=
  inferInstanceAs (Decidable (_ ∨ _))

/-- The characters of alternatives are none of the signs of globs but the wildcards. -/
theorem IsPatternChar.isPlain {c : Char} (hc : IsPatternChar c) : Glob.IsPlain c := by
  intro h
  have hsigns : c = '[' ∨ c = '\x7b' ∨ c = '\x7d' ∨ c = ',' ∨ c = '\\' ∨ c = '/' := by
    simpa using h
  rcases hsigns with rfl | rfl | rfl | rfl | rfl | rfl <;> exact absurd hc (by decide)

/-- No character of an alternative is a blank. -/
theorem IsPatternChar.isBlank {c : Char} (hc : IsPatternChar c) : isBlank c = false := by
  rcases hc with h | h
  · exact isBlank_of_isAlphanumeric h
  · have hcases : c = '_' ∨ c = '.' ∨ c = '*' ∨ c = '?' := by simpa using h
    rcases hcases with rfl | rfl | rfl | rfl <;> decide

/-- A sign that may not stand in an alternative is none of its characters. -/
theorem IsPatternChar.ne {c sign : Char} (hc : IsPatternChar c) (hsign : ¬IsPatternChar sign) :
    c ≠ sign :=
  fun h => hsign (h ▸ hc)

/-! ## Choices in parentheses -/

/-- A text without parentheses has no choices in parentheses. -/
theorem braces_of_notMem {cs : List Char} (hcs : '(' ∉ cs) : braces cs = cs := by
  have hfrom (fuel : ℕ) : bracesFrom fuel cs = cs := by
    induction cs generalizing fuel with
    | nil => cases fuel <;> rfl
    | cons c cs ih =>
      obtain ⟨hc, hrest⟩ := List.ne_and_not_mem_of_not_mem_cons hcs
      cases fuel with
      | zero => rfl
      | succ fuel => rw [bracesFrom, if_neg (Ne.symm hc), ih hrest]
  exact hfrom _

/-- What stands up to the closing parenthesis is a choice if it has a bar. -/
theorem alternation?_append {body : List Char} (hbody : ∀ c ∈ body, c ≠ '(' ∧ c ≠ ')')
    (hbar : '|' ∈ body) : alternation? (body ++ [')']) = some (body, []) := by
  have hinside : ∀ c ∈ body, (decide (c ≠ '(') && decide (c ≠ ')')) = true := by
    simpa using hbody
  unfold alternation?
  dsimp only
  rw [List.takeWhile_append_of_pos hinside, List.dropWhile_append_of_pos hinside]
  simp [hbar]

/-- Joined alternatives get commas in place of the bars between them. -/
theorem map_intercalate_bar {alternatives : List (List Char)}
    (hchars : ∀ a ∈ alternatives, ∀ c ∈ a, IsPatternChar c) :
    (['|'].intercalate alternatives).map (fun c => if c = '|' then ',' else c) =
      [','].intercalate alternatives := by
  have hself {a : List Char} (ha : ∀ c ∈ a, IsPatternChar c) :
      a.map (fun c => if c = '|' then ',' else c) = a := by
    refine (List.map_congr_left fun c hc => ?_).trans a.map_id
    exact if_neg ((ha c hc).ne (by decide))
  induction alternatives with
  | nil => rfl
  | cons a alternatives ih =>
    obtain ⟨ha, halternatives⟩ := List.forall_mem_cons.mp hchars
    cases alternatives with
    | nil => simp [hself ha]
    | cons b alternatives =>
      rw [List.intercalate_cons_cons, List.intercalate_cons_cons, List.map_append, List.map_append,
        hself ha, ih halternatives]
      rfl

/-- The characters between the parentheses of a choice are bars and those of alternatives. -/
theorem eq_bar_or_isPatternChar {alternatives : List (List Char)}
    (hchars : ∀ a ∈ alternatives, ∀ c ∈ a, IsPatternChar c) {c : Char}
    (hc : c ∈ ['|'].intercalate alternatives) : c = '|' ∨ IsPatternChar c := by
  rcases mem_intercalate hc with h | ⟨a, ha, h⟩
  · exact .inl (List.mem_singleton.mp h)
  · exact .inr (hchars a ha c h)

/-- A choice in parentheses is put in braces, with commas for bars. -/
theorem braces_choice {first second : List Char} {others : List (List Char)}
    (hchars : ∀ a ∈ first :: second :: others, ∀ c ∈ a, IsPatternChar c) :
    braces ('(' :: (['|'].intercalate (first :: second :: others) ++ [')'])) =
      '\x7b' :: ([','].intercalate (first :: second :: others) ++ ['\x7d']) := by
  have hne {c sign : Char} (hc : c ∈ ['|'].intercalate (first :: second :: others))
      (hsign : sign ≠ '|' ∧ ¬IsPatternChar sign) : c ≠ sign := by
    rintro rfl
    exact (eq_bar_or_isPatternChar hchars hc).elim hsign.1 hsign.2
  have hbar : '|' ∈ ['|'].intercalate (first :: second :: others) := by
    simp [List.intercalate_cons_cons]
  have hend (fuel : ℕ) : bracesFrom fuel [] = [] := by cases fuel <;> rfl
  rw [braces, List.length_cons, bracesFrom, if_pos rfl,
    alternation?_append (fun c hc => ⟨hne hc (by decide), hne hc (by decide)⟩) hbar]
  dsimp only
  rw [hend, map_intercalate_bar hchars, List.cons_append]

/-- Neither blanks nor exclamation marks stand in a choice. -/
theorem noBlank_choice {alternatives : List (List Char)}
    (hchars : ∀ a ∈ alternatives, ∀ c ∈ a, IsPatternChar c) :
    ∀ c ∈ '(' :: (['|'].intercalate alternatives ++ [')']),
      Unicode.isBlank c = false ∧ c ≠ '!' := by
  intro c hc
  have hcases : c = '(' ∨ c ∈ ['|'].intercalate alternatives ∨ c = ')' := by simpa using hc
  rcases hcases with rfl | hc | rfl
  · decide
  · rcases eq_bar_or_isPatternChar hchars hc with rfl | hc
    · decide
    · exact ⟨hc.isBlank, hc.ne (by decide)⟩
  · decide

/-- A choice in braces has a dot if one of the alternatives has one. -/
theorem dot_mem_braces_iff {alternatives : List (List Char)} :
    '.' ∈ '\x7b' :: ([','].intercalate alternatives ++ ['\x7d']) ↔
      ∃ a ∈ alternatives, '.' ∈ a := by
  have hends : '.' ∈ '\x7b' :: ([','].intercalate alternatives ++ ['\x7d']) ↔
      '.' ∈ [','].intercalate alternatives := by simp
  rw [hends]
  refine ⟨fun h => (mem_intercalate h).resolve_left (by decide), ?_⟩
  rintro ⟨a, ha, hdot⟩
  exact mem_intercalate_of_mem ha hdot

/-! ## Reading -/

/-- A pattern without blanks and exclamation marks is read as a glob. -/
theorem parse_of_noBlank {pattern : String}
    (hchars : ∀ c ∈ pattern.toList, Unicode.isBlank c = false ∧ c ≠ '!') :
    parse pattern = (Glob.parse (String.ofList (braces pattern.toList))).map fun glob =>
      { glob, negated := false, qualified := (braces pattern.toList).contains '.' } := by
  unfold parse
  rw [trim_of_noBlank fun c hc => (hchars c hc).1]
  dsimp only
  split
  · next rest hpattern => exact absurd rfl (hchars '!' (by simp [hpattern])).2
  · rfl

/-- Whether the characters of an alternative match a text one by one. -/
def charsMatch (a text : String) : Bool :=
  Glob.allMatchThen List.isEmpty (a.toList.map Glob.tokenOf) (Glob.bytes text)

/-- A pattern is read from an alternative: it asks for the schema if the alternative has a dot, and
its glob matches what the characters of the alternative match. -/
structure ReadFrom (a : String) (q : TablePattern) : Prop where
  parse : parse a = .ok q
  affirmed : q.negated = false
  qualified : q.qualified = true ↔ '.' ∈ a.toList
  glob : ∀ text, Glob.isMatch q.glob text = charsMatch a text

/-- An alternative can be read. -/
theorem exists_readFrom {a : String} (hchars : ∀ c ∈ a.toList, IsPatternChar c) :
    ∃ q, ReadFrom a q := by
  have hopen : '(' ∉ a.toList := fun h => absurd (hchars '(' h) (by decide)
  obtain ⟨tokens, hparse, hmatch⟩ :=
    Glob.exists_parse_plain fun c hc => (hchars c hc).isPlain
  refine ⟨⟨tokens, false, a.toList.contains '.'⟩, ?_, rfl, List.contains_iff_mem, hmatch⟩
  rw [parse_of_noBlank fun c hc => ⟨(hchars c hc).isBlank, (hchars c hc).ne (by decide)⟩,
    braces_of_notMem hopen, hparse]
  rfl

/-- The choice in parentheses between some alternatives. -/
def choice (alternatives : List String) : String :=
  "(" ++ "|".intercalate alternatives ++ ")"

/-- The characters of a choice. -/
theorem toList_choice (alternatives : List String) :
    (choice alternatives).toList =
      '(' :: (['|'].intercalate (alternatives.map String.toList) ++ [')']) := by
  rw [choice, String.toList_append, String.toList_append, String.toList_intercalate]
  rfl

/-- A choice between two alternatives or more can be read. It asks for the schema if one of them has
a dot, and its glob matches what the characters of one of them match. -/
theorem exists_parse_choice {first second : String} {others : List String}
    (hne : ∀ a ∈ first :: second :: others, a ≠ "")
    (hchars : ∀ a ∈ first :: second :: others, ∀ c ∈ a.toList, IsPatternChar c) :
    ∃ p, parse (choice (first :: second :: others)) = .ok p ∧ p.negated = false ∧
      (p.qualified = true ↔ ∃ a ∈ first :: second :: others, '.' ∈ a.toList) ∧
      ∀ text, Glob.isMatch p.glob text =
        (first :: second :: others).any fun a => charsMatch a text := by
  let alternatives := (first :: second :: others).map String.toList
  have hlists : ∀ a ∈ alternatives, ∀ c ∈ a, IsPatternChar c := List.forall_mem_map.mpr hchars
  have hbraces : braces (choice (first :: second :: others)).toList =
      '\x7b' :: ([','].intercalate alternatives ++ ['\x7d']) := by
    rw [toList_choice]
    exact braces_choice hlists
  have hglob : Glob.parse (String.ofList ('\x7b' :: ([','].intercalate alternatives ++ ['\x7d']))) =
      .ok [.choice (alternatives.map (·.map Glob.tokenOf))] :=
    Glob.parse_choice fun a ha c hc => (hlists a ha c hc).isPlain
  have hparse : parse (choice (first :: second :: others)) =
      .ok {
        glob := [.choice (alternatives.map (·.map Glob.tokenOf))]
        negated := false
        qualified := ('\x7b' :: ([','].intercalate alternatives ++ ['\x7d'])).contains '.' } := by
    rw [parse_of_noBlank (by rw [toList_choice]; exact noBlank_choice hlists), hbraces, hglob]
    rfl
  refine ⟨_, hparse, rfl, ?_, fun text => ?_⟩
  · rw [List.contains_iff_mem, dot_mem_braces_iff]
    simp only [alternatives, List.mem_map, exists_exists_and_eq_and]
  · have hsay : ∀ branch ∈ alternatives.map (·.map Glob.tokenOf),
        Glob.branchSaysNothing branch = false := by
      refine List.forall_mem_map.mpr (List.forall_mem_map.mpr fun a ha => ?_)
      exact Glob.branchSaysNothing_map_tokenOf fun h => hne a ha (String.toList_eq_nil_iff.mp h)
    rw [Glob.isMatch_choice (by simp [alternatives]) hsay, List.any_map, List.any_map]
    rfl

/-! ## Unions -/

/-- The text of a table that a pattern is compared with. -/
def compared (qualified : Bool) (schema : Option String) (table : String) : String :=
  match schema with
  | some schema => if qualified then schema ++ "." ++ table else table
  | none => table

/-- A pattern that is not negated selects what its glob matches of the text compared. -/
theorem isMatch_eq {p : TablePattern} (h : p.negated = false) (schema : Option String)
    (table : String) :
    p.isMatch schema table = Glob.isMatch p.glob (compared p.qualified schema table) := by
  unfold isMatch
  rw [h, Bool.bne_false]
  rfl

/-- With a given choice about the schema, a pattern read from an alternative selects what the
characters of the alternative match. -/
theorem ReadFrom.isMatch_eq {a : String} {q : TablePattern} (h : ReadFrom a q) (qualified : Bool)
    (schema : Option String) (table : String) :
    { q with qualified }.isMatch schema table = charsMatch a (compared qualified schema table) := by
  have haffirmed : { q with qualified }.negated = false := h.affirmed
  rw [TablePattern.isMatch_eq haffirmed]
  exact h.glob _

/-- A choice in parentheses between two alternatives or more that are not empty, and each of them by
itself, can be read, and the choice asks for the schema if one of them has a dot. It selects a table exactly when
one of the alternatives does that is compared with the same text; so it selects what one of them
selects by itself if the table has no schema, or if either all of them or none have a dot. -/
theorem choice_selects_iff {alternatives : List String} (htwo : 2 ≤ alternatives.length)
    (hne : ∀ a ∈ alternatives, a ≠ "")
    (hchars : ∀ a ∈ alternatives, ∀ c ∈ a.toList, IsPatternChar c) :
    ∃ p qs, parse (choice alternatives) = .ok p ∧
      List.Forall₂ (fun a q => parse a = .ok q) alternatives qs ∧
      (p.qualified = true ↔ ∃ a ∈ alternatives, '.' ∈ a.toList) ∧
      ∀ schema table,
        (p.isMatch schema table = true ↔
          ∃ q ∈ qs, { q with qualified := p.qualified }.isMatch schema table = true) ∧
        ((schema = none ∨ (∀ a ∈ alternatives, '.' ∈ a.toList) ∨
            ∀ a ∈ alternatives, '.' ∉ a.toList) →
          (p.isMatch schema table = true ↔ ∃ q ∈ qs, q.isMatch schema table = true)) := by
  obtain ⟨first, second, others, rfl⟩ : ∃ first second others,
      alternatives = first :: second :: others := by
    match alternatives, htwo with
    | first :: second :: others, _ => exact ⟨first, second, others, rfl⟩
  obtain ⟨p, hparse, haffirmed, hdots, hglob⟩ := exists_parse_choice hne hchars
  obtain ⟨qs, hqs⟩ := exists_forall₂ fun a ha => exists_readFrom (hchars a ha)
  have hunion (schema : Option String) (table : String) : p.isMatch schema table = true ↔
      ∃ q ∈ qs, { q with qualified := p.qualified }.isMatch schema table = true := by
    have hany := any_eq_of_forall₂ hqs fun a q h => (h.isMatch_eq p.qualified schema table).symm
    rw [isMatch_eq haffirmed, hglob, hany, List.any_eq_true]
  refine ⟨p, qs, hparse, hqs.imp fun _ _ h => h.parse, hdots, fun schema table =>
    ⟨hunion schema table, fun hsame => (hunion schema table).trans ?_⟩⟩
  have hself : ∀ q ∈ qs, { q with qualified := p.qualified }.isMatch schema table =
      q.isMatch schema table := by
    intro q hq
    obtain ⟨a, ha, hread⟩ := exists_of_mem_of_forall₂ hqs.flip hq
    rcases hsame with rfl | hall | hnone
    · rfl
    · have hasks : p.qualified = q.qualified :=
        (hdots.mpr ⟨a, ha, hall a ha⟩).trans (hread.qualified.mpr (hall a ha)).symm
      rw [hasks]
    · have hasks : p.qualified = q.qualified := by
        rw [Bool.eq_iff_iff, hdots, hread.qualified]
        exact ⟨fun ⟨b, hb, h⟩ => absurd h (hnone b hb), fun h => absurd h (hnone a ha)⟩
      rw [hasks]
  exact exists_congr fun q => and_congr_right fun hq => by rw [hself q hq]

/-- Alternatives with and without a dot and with wildcards: in a choice between them all are
compared with the name after its schema. -/
theorem choice_selects_iff_of_mixed_alternatives :
    let alternatives := ["public.users", "or?ers", "_x1*"]
    2 ≤ alternatives.length ∧ (∀ a ∈ alternatives, a ≠ "") ∧
    (∀ a ∈ alternatives, ∀ c ∈ a.toList, IsPatternChar c) ∧
    ∃ p qs, parse (choice alternatives) = .ok p ∧
      List.Forall₂ (fun a q => parse a = .ok q) alternatives qs ∧
      (p.qualified = true ↔ ∃ a ∈ alternatives, '.' ∈ a.toList) ∧
      ∀ schema table,
        (p.isMatch schema table = true ↔
          ∃ q ∈ qs, { q with qualified := p.qualified }.isMatch schema table = true) ∧
        ((schema = none ∨ (∀ a ∈ alternatives, '.' ∈ a.toList) ∨
            ∀ a ∈ alternatives, '.' ∉ a.toList) →
          (p.isMatch schema table = true ↔ ∃ q ∈ qs, q.isMatch schema table = true)) := by
  intro alternatives
  have htwo : 2 ≤ alternatives.length := by decide
  have hall : (alternatives.all fun a => a.toList.all (decide <| IsPatternChar ·)) = true := by
    decide +kernel
  have hchars : ∀ a ∈ alternatives, ∀ c ∈ a.toList, IsPatternChar c := fun a ha c hc =>
    of_decide_eq_true (List.all_eq_true.mp (List.all_eq_true.mp hall a ha) c hc)
  have hne : ∀ a ∈ alternatives, a ≠ "" := by decide
  exact ⟨htwo, hne, hchars, choice_selects_iff htwo hne hchars⟩

/-- A choice is not the union of its alternatives where some have a dot and others have none: the
table `orders` of a schema is selected by its name, but not by a choice between this and a name
after its schema. -/
theorem not_union_of_mixed_alternatives :
    ∃ p first second, parse (choice ["public.users", "orders"]) = .ok p ∧
      parse "public.users" = .ok first ∧ parse "orders" = .ok second ∧
      p.isMatch (some "public") "orders" = false ∧
      first.isMatch (some "public") "orders" = false ∧
      second.isMatch (some "public") "orders" = true := by
  refine ⟨_, _, _, rfl, rfl, rfl, ?_, ?_, ?_⟩ <;> decide +kernel

end TableTypes.TablePattern
