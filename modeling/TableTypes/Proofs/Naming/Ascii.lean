import Mathlib.Data.Nat.Notation
import TableTypes.Naming.Singular
import TableTypes.Naming.Style
import TableTypes.Proofs.Text.Cut
import TableTypes.Proofs.Unicode.CaseMap

/-!
# Names of ASCII characters

What the styles and the singular rules make of a name of ASCII characters is of ASCII again, and
both styles keep to the characters of identifiers: letters and digits of ASCII, underscores and
dollar signs.
-/

namespace TableTypes

namespace Unicode

/-- All characters are of ASCII. -/
def Ascii (cs : List Char) : Prop :=
  ∀ c ∈ cs, c.toNat < 128

instance (cs : List Char) : Decidable (Ascii cs) :=
  inferInstanceAs (Decidable (∀ c ∈ cs, c.toNat < 128))

/-- The empty text is of ASCII. -/
@[simp] theorem ascii_nil : Ascii [] := by simp [Ascii]

/-- A text is of ASCII exactly when its first character and the rest are. -/
@[simp] theorem ascii_cons {c : Char} {cs : List Char} :
    Ascii (c :: cs) ↔ c.toNat < 128 ∧ Ascii cs :=
  List.forall_mem_cons

/-- Two texts are of ASCII together exactly when both are. -/
@[simp] theorem ascii_append {cs ds : List Char} : Ascii (cs ++ ds) ↔ Ascii cs ∧ Ascii ds :=
  List.forall_mem_append

/-- A text of some characters of an ASCII text is of ASCII. -/
theorem Ascii.of_subset {cs ds : List Char} (hds : Ascii ds) (h : cs ⊆ ds) : Ascii cs :=
  fun c hc => hds c (h hc)

/-- An ASCII character has an ASCII upper case. -/
theorem ascii_toUpper {c : Char} (hc : c.toNat < 128) : Ascii (toUpper c) := by
  rw [toUpper, if_pos hc, ascii_cons]
  exact ⟨of_forall_ascii (P := fun c => c.toUpper.toNat < 128) (by decide) hc, ascii_nil⟩

/-- An ASCII character has an ASCII lower case. -/
theorem ascii_toLower {c : Char} (hc : c.toNat < 128) : Ascii (toLower c) := by
  rw [toLower, if_pos hc, ascii_cons]
  exact ⟨of_forall_ascii (P := fun c => c.toLower.toNat < 128) (by decide) hc, ascii_nil⟩

/-- ASCII in small letters is ASCII. -/
theorem ascii_lowercase {s : String} (hs : Ascii s.toList) : Ascii (lowercase s).toList := by
  have hfrom (before rest : List Char) (hrest : Ascii rest) : Ascii (lowerFrom before rest) := by
    induction rest generalizing before with
    | nil => exact ascii_nil
    | cons c rest ih =>
      obtain ⟨hc, hrest⟩ := ascii_cons.mp hrest
      rw [lowerFrom]
      refine ascii_append.mpr ⟨?_, ih _ hrest⟩
      rw [if_neg (by rintro rfl; exact absurd hc (by decide))]
      exact ascii_toLower hc
  rw [lowercase, String.toList_ofList]
  exact hfrom [] _ hs

end Unicode

namespace Naming

open Unicode

/-! ## Words -/

/-- A finished word has the characters of the word begun. -/
theorem mem_of_mem_finish {word w : List Char} {c : Char} (hw : w ∈ finish word) (hc : c ∈ w) :
    c ∈ word := by
  unfold finish at hw
  split at hw
  · cases hw
  · rw [List.mem_singleton.mp hw] at hc
    exact List.mem_reverse.mp hc

/-- The characters of a word are some of those that are read. -/
theorem mem_of_mem_wordsFrom {word rest w : List Char} {c : Char} (hw : w ∈ wordsFrom word rest)
    (hc : c ∈ w) : c ∈ word ∨ c ∈ rest := by
  induction word, rest using wordsFrom.induct with
  | case1 word =>
    unfold wordsFrom at hw
    exact .inl (mem_of_mem_finish hw hc)
  | case2 word d rest hgap ih =>
    unfold wordsFrom at hw
    rw [if_pos hgap] at hw
    rcases List.mem_append.mp hw with hw | hw
    · exact .inl (mem_of_mem_finish hw hc)
    · exact .inr (List.mem_cons_of_mem d ((ih hw).resolve_left List.not_mem_nil))
  | case3 d rest hgap ih =>
    rw [wordsFrom, if_neg hgap] at hw
    exact .inr ((ih hw).elim (fun h => by simp_all) (List.mem_cons_of_mem d))
  | case4 d rest hgap last word hends ih =>
    rw [wordsFrom, if_neg hgap, if_pos hends] at hw
    rcases List.mem_cons.mp hw with rfl | hw
    · exact .inl (List.mem_reverse.mp hc)
    · exact .inr ((ih hw).elim (fun h => by simp_all) (List.mem_cons_of_mem d))
  | case5 d rest hgap last word hends ih =>
    rw [wordsFrom, if_neg hgap, if_neg hends] at hw
    rcases ih hw with h | h
    · rcases List.mem_cons.mp h with rfl | h
      · exact .inr List.mem_cons_self
      · exact .inl h
    · exact .inr (List.mem_cons_of_mem d h)

/-- The words of a name have characters of the name. -/
theorem mem_of_mem_words {name w : List Char} {c : Char} (hw : w ∈ words name) (hc : c ∈ w) :
    c ∈ name :=
  (mem_of_mem_wordsFrom hw hc).resolve_left List.not_mem_nil

/-- The characters of a word between changes of case are some of those that are read. -/
theorem mem_of_mem_caseWordsFrom {run : Run} {word rest w : List Char} {c : Char}
    (hw : w ∈ caseWordsFrom run word rest) (hc : c ∈ w) : c ∈ word ∨ c ∈ rest := by
  induction run, word, rest using caseWordsFrom.induct with
  | case1 run word =>
    rw [caseWordsFrom] at hw
    exact .inl (mem_of_mem_finish hw hc)
  | case2 run word d =>
    rw [caseWordsFrom, List.mem_singleton] at hw
    rw [hw, List.mem_reverse, List.mem_cons] at hc
    exact hc.symm.imp_right List.mem_singleton.mpr
  | case3 run word d next rest after hends ih =>
    rw [caseWordsFrom, if_pos hends, List.mem_cons] at hw
    rcases hw with rfl | hw
    · rw [List.mem_reverse, List.mem_cons] at hc
      exact hc.symm.imp_right fun h : c = d => h ▸ List.mem_cons_self
    · exact .inr (List.mem_cons_of_mem d ((ih hw).resolve_left List.not_mem_nil))
  | case4 run word d next rest after hsame hbefore ih =>
    rw [caseWordsFrom, if_neg hsame, if_pos hbefore, List.mem_cons] at hw
    rcases hw with rfl | hw
    · exact .inl (List.mem_reverse.mp hc)
    · refine .inr ((ih hw).elim (fun h => ?_) (List.mem_cons_of_mem d))
      exact List.mem_singleton.mp h ▸ List.mem_cons_self
  | case5 run word d next rest after hsame hbefore ih =>
    rw [caseWordsFrom, if_neg hsame, if_neg hbefore] at hw
    rcases ih hw with h | h
    · rw [List.mem_cons] at h
      exact h.symm.imp_right fun h : c = d => h ▸ List.mem_cons_self
    · exact .inr (List.mem_cons_of_mem d h)

/-- The runs of a name have characters of the name. -/
theorem mem_of_mem_runs {name run : List Char} {c : Char} (hrun : run ∈ runs name) (hc : c ∈ run) :
    c ∈ name := by
  unfold runs at hrun
  induction name generalizing run with
  | nil =>
    rw [List.foldr_nil, List.mem_singleton] at hrun
    exact absurd hc (hrun ▸ List.not_mem_nil)
  | cons d name ih =>
    rw [List.foldr_cons] at hrun
    split at hrun
    · split at hrun
      · rw [List.mem_singleton.mp hrun, List.mem_singleton] at hc
        exact hc ▸ List.mem_cons_self
      · next first others hfold =>
        rw [hfold] at ih
        rcases List.mem_cons.mp hrun with rfl | hrun
        · rcases List.mem_cons.mp hc with rfl | hc
          · exact List.mem_cons_self
          · exact List.mem_cons_of_mem d (ih List.mem_cons_self hc)
        · exact List.mem_cons_of_mem d (ih (List.mem_cons_of_mem first hrun) hc)
    · rcases List.mem_cons.mp hrun with rfl | hrun
      · cases hc
      · exact List.mem_cons_of_mem d (ih hrun hc)

/-- The words by letter case have characters of the name. -/
theorem mem_of_mem_caseWords {name w : List Char} {c : Char} (hw : w ∈ caseWords name)
    (hc : c ∈ w) : c ∈ name := by
  obtain ⟨run, hrun, hw⟩ := List.mem_flatMap.mp hw
  exact mem_of_mem_runs hrun ((mem_of_mem_caseWordsFrom hw hc).resolve_left List.not_mem_nil)

/-! ## Characters of identifiers -/

/-- All characters may stand in an identifier. -/
def Continues (cs : List Char) : Prop :=
  ∀ c ∈ cs, continuesIdentifier c = true

/-- The empty text continues an identifier. -/
@[simp] theorem continues_nil : Continues [] := by simp [Continues]

/-- A text continues an identifier exactly when its first character and the rest do. -/
@[simp] theorem continues_cons {c : Char} {cs : List Char} :
    Continues (c :: cs) ↔ continuesIdentifier c = true ∧ Continues cs :=
  List.forall_mem_cons

/-- Two texts continue an identifier together exactly when both do. -/
@[simp] theorem continues_append {cs ds : List Char} :
    Continues (cs ++ ds) ↔ Continues cs ∧ Continues ds :=
  List.forall_mem_append

/-- The characters of identifiers are of ASCII. -/
theorem toNat_lt_of_continuesIdentifier {c : Char} (hc : continuesIdentifier c = true) :
    c.toNat < 128 := by
  simp only [continuesIdentifier, Char.isAlphanum, Bool.or_eq_true, decide_eq_true_eq] at hc
  rcases hc with ((halpha | hdigit) | rfl) | rfl
  · exact toNat_lt_of_isAlpha halpha
  · exact toNat_lt_of_isDigit hdigit
  · decide
  · decide

/-- The upper case of a character that continues an identifier continues it, too. -/
theorem continues_toUpper {c : Char} (hc : continuesIdentifier c = true) :
    Continues (toUpper c) := by
  have hascii := toNat_lt_of_continuesIdentifier hc
  rw [toUpper, if_pos hascii, continues_cons]
  refine ⟨?_, continues_nil⟩
  exact of_forall_ascii
    (P := fun c => continuesIdentifier c = true → continuesIdentifier c.toUpper = true)
    (by decide) hascii hc

/-- What capitals keep is kept by camel case. -/
theorem forall_mem_camelFrom {P : Char → Prop} (hupper : ∀ c, P c → ∀ d ∈ toUpper c, P d)
    {cs : List Char} (hcs : ∀ c ∈ cs, P c) (after : Bool) : ∀ d ∈ camelFrom after cs, P d := by
  induction cs generalizing after with
  | nil => exact List.forall_mem_nil _
  | cons c cs ih =>
    obtain ⟨hc, hcs⟩ := List.forall_mem_cons.mp hcs
    rw [camelFrom]
    split
    · exact ih hcs true
    · refine List.forall_mem_append.mpr ⟨?_, ih hcs false⟩
      split
      · exact hupper c hc
      · exact List.forall_mem_singleton.mpr hc

/-- A text that continues an identifier does so in camel case with a capital. -/
theorem continues_camelPascalCase {cs : List Char} (hcs : Continues cs) :
    Continues (camelPascalCase cs) := by
  have hcamel : Continues (camelCase cs) :=
    forall_mem_camelFrom (fun _ => continues_toUpper) hcs false
  unfold camelPascalCase
  split
  · exact continues_nil
  · next c rest heq =>
    rw [heq] at hcamel
    obtain ⟨hc, hrest⟩ := continues_cons.mp hcamel
    exact continues_append.mpr ⟨continues_toUpper hc, hrest⟩

/-- Words joined by underscores keep to the characters of identifiers if the words do. -/
theorem continues_intercalate {words : List (List Char)} (hwords : ∀ w ∈ words, Continues w) :
    Continues (['_'].intercalate words) := by
  intro c hc
  rcases mem_intercalate hc with hc | ⟨w, hw, hc⟩
  · rw [List.mem_singleton.mp hc]
    decide
  · exact hwords w hw c hc

/-- A text that continues an identifier does so in capitals. -/
theorem continues_screamingCase {cs : List Char} (hcs : Continues cs) :
    Continues (screamingCase cs) := by
  have hjoined : Continues (underscored cs) :=
    continues_intercalate fun w hw c hc => hcs c (mem_of_mem_words hw hc)
  refine continues_intercalate fun w hw => ?_
  obtain ⟨word, hword, rfl⟩ := List.mem_map.mp hw
  intro d hd
  obtain ⟨c, hc, hd⟩ := List.mem_flatMap.mp hd
  exact continues_toUpper (hjoined c (mem_of_mem_caseWords hword hc)) d hd

/-- Both styles keep to the characters of identifiers. -/
theorem continues_convert (style : IdentifierStyle) {cs : List Char} (hcs : Continues cs) :
    Continues (style.convert cs) := by
  cases style with
  | pascal => exact continues_camelPascalCase hcs
  | screaming => exact continues_screamingCase hcs

/-! ## Camel case and singular forms -/

/-- An ASCII text is of ASCII in camel case. -/
theorem ascii_camelCase {cs : List Char} (hcs : Ascii cs) : Ascii (camelCase cs) :=
  forall_mem_camelFrom (fun _ => ascii_toUpper) hcs false

/-- An ASCII singular stays of ASCII in the case of a plural. -/
theorem ascii_matchCase {plural singular : List Char} (hsingular : Ascii singular) :
    Ascii (matchCase plural singular) := by
  unfold matchCase
  split
  · cases singular with
    | nil => exact ascii_nil
    | cons c rest =>
      obtain ⟨hc, hrest⟩ := ascii_cons.mp hsingular
      exact ascii_append.mpr ⟨ascii_toUpper hc, hrest⟩
  · exact hsingular

/-- The irregular singulars are of ASCII. -/
theorem ascii_irregulars : ∀ entry ∈ irregulars, Ascii entry.2 := by
  simp [irregulars]

/-- The singular endings of the rules are of ASCII. -/
theorem ascii_endingRules : ∀ rule ∈ endingRules, Ascii rule.singular := by
  simp [endingRules]

/-- The built-in rules make ASCII of ASCII. -/
theorem ascii_builtinSingular {name : List Char} (hname : Ascii name) :
    Ascii (builtinSingular name) := by
  have htake (n : ℕ) : Ascii (name.take n) := hname.of_subset (List.take_subset n name)
  unfold builtinSingular
  dsimp only
  split
  · exact hname
  · split
    · next plural singular hfound =>
      have hsingular := ascii_irregulars _ (List.mem_of_find?_eq_some hfound)
      exact ascii_append.mpr ⟨htake _, ascii_matchCase hsingular⟩
    · cases hrule : endingRules.findSome? (fun rule => rule.apply? name) with
      | none => exact hname
      | some singular =>
        obtain ⟨rule, hrule, happly⟩ := List.exists_of_findSome?_eq_some hrule
        unfold EndingRule.apply? at happly
        dsimp only at happly
        split at happly
        · rw [← Option.some.inj happly]
          exact ascii_append.mpr ⟨htake _, ascii_endingRules rule hrule⟩
        · cases happly

end Naming

namespace Pattern

/-- What a group matched is part of the text. -/
theorem groupText_subset (text : List Char) (slots : Slots) (i : ℕ) :
    groupText text slots i ⊆ text := by
  unfold groupText
  split
  · exact List.Subset.trans (List.take_subset _ _) (List.drop_subset _ _)
  · exact List.nil_subset _

/-- What a group matches is a part of the text. -/
theorem namedGroup_subset (c : Compiled) (text : List Char) (slots : Slots) (name : List Char) :
    namedGroup c text slots name ⊆ text := by
  unfold namedGroup
  split
  · exact groupText_subset _ _ _
  · split
    · exact groupText_subset _ _ _
    · exact List.nil_subset _

/-- The characters of a replacement text that stand for themselves stand in it. -/
theorem mem_of_literal_mem_pieces {fuel : ℕ} {replacement : List Char} {c : Char}
    (hc : .literal c ∈ pieces fuel replacement) : c ∈ replacement := by
  induction fuel, replacement using pieces.induct with
  | case1 => cases hc
  | case2 => cases hc
  | case3 fuel rest ih =>
    rw [pieces, List.mem_cons] at hc
    rcases hc with hc | hc
    · exact Piece.literal.inj hc ▸ List.mem_cons_self
    · exact List.mem_cons_of_mem _ (List.mem_cons_of_mem _ (ih hc))
  | case4 fuel rest brace after hdrop ih =>
    have hafter : c ∈ after → c ∈ rest := fun h =>
      (List.dropWhile_sublist _).subset (hdrop ▸ List.mem_cons_of_mem brace h)
    simp only [pieces, hdrop, List.mem_cons, reduceCtorEq, false_or] at hc
    exact List.mem_cons_of_mem _ (List.mem_cons_of_mem _ (hafter (ih hc)))
  | case5 fuel rest hdrop ih =>
    simp only [pieces, hdrop, List.mem_cons, Piece.literal.injEq] at hc
    exact List.mem_cons.mpr (hc.imp_right ih)
  | case6 fuel rest hdollar hbrace hname ih =>
    simp only [pieces, hname, List.mem_cons, Piece.literal.injEq] at hc
    exact List.mem_cons.mpr (hc.imp_right ih)
  | case7 fuel rest hdollar hbrace hname ih =>
    simp only [pieces, List.mem_cons, reduceCtorEq, false_or] at hc
    exact List.mem_cons_of_mem _ ((List.dropWhile_sublist _).subset (ih hc))
  | case8 fuel d rest _ _ hdollar ih =>
    simp only [pieces, List.mem_cons, Piece.literal.injEq] at hc
    exact List.mem_cons.mpr (hc.imp_right ih)

/-- A text with a match replaced has characters of the text and of the replacement. -/
theorem mem_of_mem_replaceFirst? {p : Compiled} {replacement text replaced : List Char} {c : Char}
    (h : p.replaceFirst? replacement text = some replaced) (hc : c ∈ replaced) :
    c ∈ text ∨ c ∈ replacement := by
  obtain ⟨slots, -, rfl⟩ := Option.map_eq_some_iff.mp h
  split at hc
  · rcases List.mem_append.mp hc with hc | hc
    · rcases List.mem_append.mp hc with hc | hc
      · exact .inl (List.mem_of_mem_take hc)
      · obtain ⟨piece, hpiece, hc⟩ := List.mem_flatMap.mp hc
        cases piece with
        | literal d =>
          rw [List.mem_singleton.mp hc]
          exact .inr (mem_of_literal_mem_pieces hpiece)
        | group name => exact .inl (namedGroup_subset p text slots name hc)
    · exact .inl (List.mem_of_mem_drop hc)
  · exact .inl hc

end Pattern

namespace Naming

open Unicode

/-- Singular forms of ASCII names are of ASCII if the replacements of the user's rules are. -/
theorem ascii_singularize {rules : List SingularRule} (hrules : ∀ r ∈ rules, Ascii r.replacement)
    {name : List Char} (hname : Ascii name) : Ascii (singularize rules name) := by
  unfold singularize
  cases hfound : rules.findSome? fun rule => rule.pattern.replaceFirst? rule.replacement name with
  | none => exact ascii_builtinSingular hname
  | some replaced =>
    obtain ⟨rule, hrule, hreplaced⟩ := List.exists_of_findSome?_eq_some hfound
    intro c hc
    exact (Pattern.mem_of_mem_replaceFirst? hreplaced hc).elim (hname c) (hrules rule hrule c)

end Naming

end TableTypes
