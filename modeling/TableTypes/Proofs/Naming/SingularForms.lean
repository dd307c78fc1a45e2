import TableTypes.Proofs.Naming.ListedWords
import TableTypes.Proofs.Unicode.Fold

/-!
# Singular forms of singular forms

The rules for endings look for small ASCII letters whatever the case, so what they do is said of the
name in such letters. They leave a name alone that does not end in `s`, or that ends in `ss`, `us`
or `is`, and all that they make of other names is of this kind, except what they make of `aliases`.
Main statement: apart from this word, a singular form is left alone exactly if it is not itself an
irregular plural.
-/

namespace TableTypes.Naming

open Unicode

/-! ## Endings in small letters -/

/-- All characters are small ASCII letters. -/
def Small (text : List Char) : Prop :=
  ∀ c ∈ text, c.isLower = true

instance (text : List Char) : Decidable (Small text) :=
  inferInstanceAs (Decidable (∀ _ ∈ _, _))

/-- A name equals a small text in any case exactly when its small forms are the text. -/
theorem foldEqText_iff {name text : List Char} (htext : Small text) :
    foldEqText name text = true ↔ name.map smallForm = text := by
  induction text generalizing name with
  | nil => cases name <;> simp [foldEqText]
  | cons b text ih =>
    obtain ⟨hb, htext⟩ := List.forall_mem_cons.mp htext
    cases name with
    | nil => simp [foldEqText]
    | cons a name =>
      rw [foldEqText, Bool.and_eq_true, foldEq_iff hb, ih htext, List.map_cons, List.cons_eq_cons]

/-- A name ends in small letters whatever the case if it does in small letters. -/
theorem endsAlike_iff {name text : List Char} (htext : Small text) :
    endsAlike name text = true ↔ text <:+ name.map smallForm := by
  rw [endsAlike, Bool.and_eq_true, decide_eq_true_eq, foldEqText_iff htext, List.map_drop,
    List.suffix_iff_eq_drop, List.length_map, eq_comm (a := text)]
  refine and_iff_right_of_imp fun heq => ?_
  have hlength := congrArg List.length heq
  simp only [List.length_drop, List.length_map] at hlength
  omega

/-- Small letters are their own small forms. -/
theorem map_smallForm_of_small {text : List Char} (htext : Small text) :
    text.map smallForm = text := by
  have hself : ∀ c ∈ text, smallForm c = c := fun c hc =>
    (foldEq_iff (htext c hc)).mp (by rw [foldEq, decide_eq_true rfl, Bool.true_or])
  simpa using List.map_congr_left hself

/-- A rule takes its ending off a name whose rest its stem admits. -/
theorem EndingRule.exists_of_apply {r : EndingRule} (hending : Small r.ending)
    {name result : List Char} (h : r.apply? name = some result) :
    ∃ front tail, name = front ++ tail ∧ tail.map smallForm = r.ending ∧
      r.stem.admits front = true ∧ result = front ++ r.singular := by
  unfold EndingRule.apply? at h
  dsimp only at h
  split at h
  · next hall =>
    rw [Bool.and_eq_true, endsAlike_iff hending, List.suffix_iff_eq_drop, List.length_map,
      ← List.map_drop] at hall
    exact ⟨_, _, (List.take_append_drop _ _).symm, hall.1.symm, hall.2, (Option.some.inj h).symm⟩
  · cases h

/-! ## The rules for endings -/

/-- The endings that mark a singular form in `s`. -/
def singularEndings : List (List Char) :=
  [['s', 's'], ['u', 's'], ['i', 's']]

/-- The rules that change the plurals in `es`. -/
def pluralRules : List EndingRule :=
  endingRules.take 7

/-- The rule that keeps singular forms in `s`. -/
def guardRule : EndingRule where
  stem := .oneOf singularEndings
  ending := []
  singular := []

/-- The rule that drops `s` from all other names. -/
def dropRule : EndingRule where
  stem := .anything
  ending := ['s']
  singular := []

/-- Behind the rules for plural endings stand the one that keeps a singular and the one that drops
`s`. -/
theorem endingRules_eq : endingRules = pluralRules ++ [guardRule, dropRule] := by
  simp [pluralRules, endingRules, guardRule, dropRule, singularEndings]

/-- Small letters that no rule for endings changes: they do not end in `s` or end as singular forms
do. -/
def Settled (letters : List Char) : Prop :=
  ['s'] <:+ letters → ∃ ending ∈ singularEndings, ending <:+ letters

instance (letters : List Char) : Decidable (Settled letters) :=
  inferInstanceAs (Decidable (_ → _))

/-- Whether letters are settled is seen at their end. -/
theorem Settled.of_suffix {ending letters : List Char} (h : Settled ending) (hne : ending ≠ [])
    (hsuffix : ending <:+ letters) : Settled letters := by
  intro hs
  have hends : ['s'] <:+ ending := by
    rcases List.suffix_or_suffix_of_suffix hs hsuffix with h | h
    · exact h
    · rcases List.suffix_cons_iff.mp h with h | h
      · exact h ▸ List.suffix_rfl
      · exact absurd (List.suffix_nil.mp h) hne
  obtain ⟨e, he, hmem⟩ := h hends
  exact ⟨e, he, hmem.trans hsuffix⟩

/-- A rule leaves a settled ending behind each stem that it names. -/
def EndingRule.Settles (r : EndingRule) : Prop :=
  match r.stem with
  | .anything => False
  | .oneOf texts =>
    ∀ text ∈ texts, Small text ∧
      (text ++ r.ending = "aliases".toList ∨ text ++ r.singular ≠ [] ∧ Settled (text ++ r.singular))
  | .oneOfOrNot _ _ => r.singular ≠ [] ∧ Settled r.singular

/-- A rule for a plural ending asks for `es`, is of small letters, and leaves a settled ending. -/
theorem pluralRules_spec :
    ∀ r ∈ pluralRules, ['e', 's'] <:+ r.ending ∧ Small r.ending ∧ Small r.singular ∧ r.Settles := by
  simp [pluralRules, endingRules, EndingRule.Settles, Small]
  decide

/-- The singular endings are of small letters. -/
theorem small_of_mem_singularEndings : ∀ ending ∈ singularEndings, Small ending := by
  simp [singularEndings, Small]

/-- The guard keeps the names with a singular ending. -/
theorem apply_guardRule (name : List Char) :
    guardRule.apply? name =
      if ∃ ending ∈ singularEndings, ending <:+ name.map smallForm then some name else none := by
  have hadmits : (endsAlike name [] && guardRule.stem.admits name) = true ↔
      ∃ ending ∈ singularEndings, ending <:+ name.map smallForm := by
    rw [Bool.and_eq_true, guardRule, Stem.admits, List.any_eq_true]
    refine (and_iff_right (by simp [endsAlike, foldEqText])).trans ?_
    exact exists_congr fun ending => and_congr_right fun hending =>
      endsAlike_iff (small_of_mem_singularEndings ending hending)
  have hname : name.take (name.length - guardRule.ending.length) = name := by
    simp [guardRule]
  rw [ EndingRule.apply?, hname]
  exact if_congr hadmits (by simp [guardRule]) rfl

/-- The last rule drops a final `s`. -/
theorem apply_dropRule (name : List Char) :
    dropRule.apply? name = if ['s'] <:+ name.map smallForm then some name.dropLast else none := by
  have hends : endsAlike name ['s'] = true ↔ ['s'] <:+ name.map smallForm :=
    endsAlike_iff (by simp [Small])
  simp only [ EndingRule.apply?, dropRule, Stem.admits, Bool.and_true, List.length_singleton,
    ← List.dropLast_eq_take, List.append_nil]
  exact if_congr hends rfl rfl

/-- The rules for plurals in `es` apply to names in `es`. -/
theorem suffix_of_mem_pluralRules {r : EndingRule} (hr : r ∈ pluralRules) {name result : List Char}
    (h : r.apply? name = some result) : ['e', 's'] <:+ name.map smallForm := by
  obtain ⟨hes, hending, -⟩ := pluralRules_spec r hr
  obtain ⟨front, tail, rfl, htail, -⟩ := r.exists_of_apply hending h
  rw [List.map_append, htail]
  exact hes.trans (List.suffix_append _ _)

/-- No rule for endings changes settled letters. -/
theorem endingSingular_of_settled {name : List Char} (h : Settled (name.map smallForm)) :
    endingSingular name = name := by
  have hplural : pluralRules.findSome? (fun rule => rule.apply? name) = none := by
    refine List.findSome?_eq_none_iff.mpr fun r hr => ?_
    by_contra hsome
    obtain ⟨result, hresult⟩ := Option.ne_none_iff_exists'.mp hsome
    have hes := suffix_of_mem_pluralRules hr hresult
    obtain ⟨ending, hmem, hending⟩ := h ((by decide : ['s'] <:+ ['e', 's']).trans hes)
    -- a name in `es` does not end as singular forms in `s` do
    have hsame : ∀ ending ∈ singularEndings, ending.length = 2 ∧ ending ≠ ['e', 's'] := by decide
    obtain ⟨hlength, hne⟩ := hsame ending hmem
    rcases List.suffix_or_suffix_of_suffix hending hes with hsuffix | hsuffix
    · exact hne (hsuffix.eq_of_length hlength)
    · exact hne (hsuffix.eq_of_length hlength.symm).symm
  rw [endingSingular, endingRules_eq, List.findSome?_append, hplural, Option.none_or,
    List.findSome?_cons, apply_guardRule]
  split
  · next heq =>
    split at heq
    · rw [← Option.some.inj heq, Option.getD_some]
    · cases heq
  · next heq =>
    have hs : ¬['s'] <:+ name.map smallForm := by
      intro hs
      rw [if_pos (h hs)] at heq
      cases heq
    rw [List.findSome?_cons, apply_dropRule, if_neg hs]
    rfl

/-- A rule for plurals in `es` leaves settled letters, unless it leaves `alias`. -/
theorem settled_of_mem_pluralRules {r : EndingRule} (hr : r ∈ pluralRules) {name result : List Char}
    (h : r.apply? name = some result)
    (halias : ¬"aliases".toList <:+ name.map smallForm) : Settled (result.map smallForm) := by
  obtain ⟨-, hending, hsingular, hsettles⟩ := pluralRules_spec r hr
  obtain ⟨front, tail, rfl, htail, hadmits, rfl⟩ := r.exists_of_apply hending h
  rw [List.map_append, htail] at halias
  rw [List.map_append, map_smallForm_of_small hsingular]
  unfold EndingRule.Settles at hsettles
  split at hsettles
  · exact hsettles.elim
  · next texts hstem =>
    rw [hstem, Stem.admits, List.any_eq_true] at hadmits
    obtain ⟨text, htext, hfront⟩ := hadmits
    obtain ⟨hsmall, hdone⟩ := hsettles text htext
    obtain ⟨lead, hlead⟩ := (endsAlike_iff hsmall).mp hfront
    have hsuffix (more : List Char) : text ++ more <:+ front.map smallForm ++ more :=
      ⟨lead, by rw [← List.append_assoc, hlead]⟩
    rcases hdone with heq | ⟨hne, hsettled⟩
    · exact absurd (heq ▸ hsuffix r.ending) halias
    · exact hsettled.of_suffix hne (hsuffix r.singular)
  · exact hsettles.2.of_suffix hsettles.1 (List.suffix_append _ _)

/-- The rules for endings leave settled letters of all names but those in `aliases`. -/
theorem settled_endingSingular {name : List Char}
    (halias : ¬"aliases".toList <:+ name.map smallForm) :
    Settled ((endingSingular name).map smallForm) := by
  rw [endingSingular, endingRules_eq, List.findSome?_append]
  cases hplural : pluralRules.findSome? (fun rule => rule.apply? name) with
  | some result =>
    obtain ⟨r, hr, hresult⟩ := List.exists_of_findSome?_eq_some hplural
    exact settled_of_mem_pluralRules hr hresult halias
  | none =>
    rw [Option.none_or, List.findSome?_cons, apply_guardRule]
    by_cases hguard : ∃ ending ∈ singularEndings, ending <:+ name.map smallForm
    · rw [if_pos hguard]
      exact fun _ => hguard
    rw [if_neg hguard, List.findSome?_cons, apply_dropRule]
    by_cases hs : ['s'] <:+ name.map smallForm
    · -- the name does not end in `ss`, so what is left does not end in `s`
      rw [if_pos hs]
      rintro ⟨front, hfront⟩
      obtain ⟨before, hbefore⟩ := hs
      refine absurd ⟨['s', 's'], by decide, front, ?_⟩ hguard
      rw [Option.getD_some, List.map_dropLast, ← hbefore, List.dropLast_concat] at hfront
      rw [← hbefore, ← hfront, List.append_assoc]
      rfl
    · rw [if_neg hs]
      exact fun h => absurd h hs

/-! ## The listed words -/

/-- No word without a singular form ends in an irregular plural or the other way round. -/
theorem uncountables_apart_irregulars :
    ∀ word ∈ uncountables, ∀ entry ∈ irregulars, ¬word <:+ entry.1 ∧ ¬entry.1 <:+ word := by
  decide +kernel

/-- The singular form of an irregular plural is another word, which no rule for endings changes. -/
theorem irregulars_spec :
    ∀ entry ∈ irregulars,
      entry.1 ≠ entry.2 ∧ Small entry.2 ∧ entry.2 ≠ [] ∧ Settled entry.2 := by
  simp [irregulars, Small]
  decide

/-- A word without a singular form is not an irregular plural. -/
theorem irregular?_of_isUncountable {name : List Char} (h : isUncountable name = true) :
    irregular? name = none := by
  obtain ⟨word, hword, hends⟩ := List.any_eq_true.mp h
  refine List.find?_eq_none.mpr fun entry hentry hfound => ?_
  obtain ⟨hlonger, hshorter⟩ := uncountables_apart_irregulars word hword entry hentry
  exact (List.suffix_or_suffix_of_suffix (suffix_of_endsWithWord hends)
    (suffix_of_endsWithWord hfound)).elim hlonger hshorter

/-- The case of a singular form is all that is taken from the plural. -/
theorem map_smallForm_matchCase {plural singular : List Char} (hsingular : Small singular) :
    (matchCase plural singular).map smallForm = singular := by
  unfold matchCase
  split
  · cases singular with
    | nil => rfl
    | cons c rest =>
      obtain ⟨hc, hrest⟩ := List.forall_mem_cons.mp hsingular
      have hascii := toNat_lt_of_isLower hc
      have hupper := of_forall_ascii
        (P := fun c => c.isLower = true → smallForm c.toUpper = c) (by decide) hascii hc
      change (toUpper c ++ rest).map smallForm = c :: rest
      rw [toUpper, if_pos hascii, List.map_append, map_smallForm_of_small hrest,
        List.map_singleton, hupper, List.singleton_append]
  · exact map_smallForm_of_small hsingular

/-- The small forms of ASCII are its small letters. -/
theorem map_smallForm_of_ascii {text : List Char} (htext : Ascii text) :
    text.map smallForm = text.map Char.toLower :=
  List.map_congr_left fun c hc => smallForm_of_ascii (htext c hc)

/-! ## The singular form of a singular form -/

/-- A name that no rule for endings changes is left alone unless it is an irregular plural. -/
theorem builtinSingular_eq_self_iff {name : List Char}
    (h : isUncountable name = true ∨ Settled (name.map smallForm)) :
    builtinSingular name = name ↔ irregular? name = none := by
  cases hcount : isUncountable name with
  | true =>
    exact iff_of_true (builtinSingular_of_isUncountable hcount) (irregular?_of_isUncountable hcount)
  | false =>
    have hsettled : Settled (name.map smallForm) := h.resolve_left (by simp [hcount])
    cases hfound : irregular? name with
    | none =>
      rw [builtinSingular_of_irregular?_eq_none hcount hfound, endingSingular_of_settled hsettled]
      exact iff_of_true rfl rfl
    | some entry =>
      refine iff_of_false (fun heq => ?_) (Option.some_ne_none entry)
      obtain ⟨plural, singular⟩ := entry
      obtain ⟨hentry, front, tail, rfl, hascii, rfl⟩ := exists_tail_of_irregular? hfound
      obtain ⟨hne, hsmall, -⟩ := irregulars_spec _ hentry
      rw [builtinSingular_of_irregular?_eq_some hcount hfound] at heq
      have hsame := congrArg (List.map smallForm) (List.append_cancel_left heq)
      rw [map_smallForm_matchCase hsmall, map_smallForm_of_ascii hascii] at hsame
      exact hne hsame.symm

/-- The built-in rules leave a word without a singular form or a name that no rule for endings
changes, unless the name ends in `aliases`. -/
theorem settled_builtinSingular {name : List Char}
    (halias : ¬"aliases".toList <:+ name.map smallForm) :
    isUncountable (builtinSingular name) = true ∨
      Settled ((builtinSingular name).map smallForm) := by
  cases hcount : isUncountable name with
  | true =>
    rw [builtinSingular_of_isUncountable hcount]
    exact .inl hcount
  | false =>
    right
    cases hfound : irregular? name with
    | none =>
      rw [builtinSingular_of_irregular?_eq_none hcount hfound]
      exact settled_endingSingular halias
    | some entry =>
      obtain ⟨plural, singular⟩ := entry
      obtain ⟨hentry, front, tail, rfl, -, rfl⟩ := exists_tail_of_irregular? hfound
      obtain ⟨-, hsmall, hne, hsettled⟩ := irregulars_spec _ hentry
      rw [builtinSingular_of_irregular?_eq_some hcount hfound, List.map_append,
        map_smallForm_matchCase hsmall]
      exact hsettled.of_suffix hne (List.suffix_append _ _)

/-- Unless a name ends in `aliases`, the built-in rules leave its singular form alone exactly if no
irregular plural is the last whole word of this form. -/
theorem singularize_singularize_iff {name : List Char}
    (halias : endsAlike name "aliases".toList = false) :
    singularize [] (singularize [] name) = singularize [] name ↔
      ∀ entry ∈ irregulars,
        endsWithWord (singularize [] name) (lowerFrom [] (singularize [] name)) entry.1 =
          false := by
  have hsmall : Small "aliases".toList := by simp [Small]
  have hbuiltin (name : List Char) : singularize [] name = builtinSingular name := rfl
  rw [Bool.eq_false_iff, ne_eq, endsAlike_iff hsmall] at halias
  rw [hbuiltin name, hbuiltin, builtinSingular_eq_self_iff (settled_builtinSingular halias),
    irregular?, List.find?_eq_none]
  simp

/-- A plural in `es` whose singular form ends in `us`. -/
theorem singularize_singularize_of_campuses :
    let name := "my_Campuses".toList
    endsAlike name "aliases".toList = false ∧
      (singularize [] (singularize [] name) = singularize [] name ↔
        ∀ entry ∈ irregulars,
          endsWithWord (singularize [] name) (lowerFrom [] (singularize [] name)) entry.1 =
            false) := by
  intro name
  have halias : endsAlike name "aliases".toList = false := by decide +kernel
  exact ⟨halias, singularize_singularize_iff halias⟩

/-- The singular form of `peoples` is the irregular plural `people`. -/
theorem singularize_singularize_of_peoples :
    singularize [] "peoples".toList = "people".toList ∧
      singularize [] "people".toList = "person".toList ∧
      singularize [] (singularize [] "peoples".toList) ≠ singularize [] "peoples".toList := by
  decide +kernel

end TableTypes.Naming
