import Mathlib.Data.Fintype.Option
import TableTypes.Proofs.Text.Mentions

/-!
# Words by which a column counts on

Whether a column counts on is read off the texts of its options by three words. None of the words
has a blank, a dot, a comma or a parenthesis in it, so the text of an option mentions one of them
exactly when the option is a clause for counting or one of the texts that are chosen in it mentions
the word.
-/

namespace TableTypes.Sql

/-- The words by which a column counts on. -/
def countingWords : List String :=
  ["AUTO_INCREMENT", "AUTOINCREMENT", "IDENTITY"]

/-- A text mentions one of the words by which a column counts on. -/
def MentionsCounting (s : String) : Prop :=
  ∃ word ∈ countingWords, HasWord word s

instance (s : String) : Decidable (MentionsCounting s) :=
  inferInstanceAs (Decidable (∃ word ∈ countingWords, HasWord word s))

/-- An option that makes a column count on. -/
def ColumnOption.IsCounting : ColumnOption → Prop
  | keyword word => word = "AUTO_INCREMENT" ∨ word = "AUTOINCREMENT"
  | identity _ _ => True
  | _ => False

/-- The texts that are chosen in an option, between which only keywords and signs stand: names,
expressions and actions. Options that are known as such, whatever they say, have none, and neither
has a clause for counting. -/
def ColumnOption.texts : ColumnOption → List String
  | references target =>
    target.table.map Name.render ++ target.columns.map Name.render ++
      (target.matching.toList ++ target.onDelete.toList ++ target.onUpdate.toList)
  | check condition _ => [condition.render]
  | characterSet name => name.map Name.render
  | collation name => name.map Name.render
  | onUpdate e => [e.render]
  | computed _ e storage => e.render :: storage.toList
  | srid e => [e.render]
  | onConflict action => [action]
  | keyword word => [word]
  | null | notNull | default _ | primaryKey _ | unique _ | comment _ | identity _ _ | invisible =>
    []

/-- The keywords and signs before and between the texts of options. -/
def leadingKeywords : List String :=
  [" ", " (", "REFERENCES ", " MATCH ", " ON DELETE ", " ON UPDATE ", "CHECK (", "CHARACTER SET ",
    "COLLATE ", "ON UPDATE ", "GENERATED ALWAYS AS (", "AS (", "SRID ", "ON CONFLICT "]

/-- The keywords and signs behind the texts of options. -/
def closingKeywords : List String :=
  ["", ")", " ENFORCED", " NOT ENFORCED"]

section

variable {word s t : String}

/-- The empty text has none of the words for counting on. -/
theorem not_hasWord_empty (hword : word ∈ countingWords) : ¬HasWord word "" := by
  have hne : ∀ word ∈ countingWords, word ≠ "" := by decide
  exact fun h => hne word hword (hasWord_empty_iff.mp h)

/-- A blank is in none of the words for counting on. -/
theorem blank_apart : ∀ word ∈ countingWords, parts word ' ' = true := by
  decide +kernel

/-- A keyword before a text has none of the words for counting on. -/
theorem hasWord_leading_append (hword : word ∈ countingWords) {keyword : String}
    (hkeyword : keyword ∈ leadingKeywords) (s : String) :
    HasWord word (keyword ++ s) ↔ HasWord word s := by
  have hapart : ∀ word ∈ countingWords, ∀ keyword ∈ leadingKeywords,
      endsApart word keyword = true ∧ ¬HasWord word keyword := by decide +kernel
  obtain ⟨hends, hnone⟩ := hapart word hword keyword hkeyword
  exact hasWord_keyword_append hends hnone s

/-- A keyword behind a text has none of the words for counting on. -/
theorem hasWord_append_closing (hword : word ∈ countingWords) {keyword : String}
    (hkeyword : keyword ∈ closingKeywords) (s : String) :
    HasWord word (s ++ keyword) ↔ HasWord word s := by
  have hapart : ∀ word ∈ countingWords, ∀ keyword ∈ closingKeywords,
      keyword = "" ∨ startsApart word keyword = true ∧ ¬HasWord word keyword := by decide +kernel
  rcases hapart word hword keyword hkeyword with rfl | ⟨hstarts, hnone⟩
  · rw [String.append_empty]
  · exact hasWord_append_keyword hstarts hnone s

/-- Texts between signs that a word has not mention it in one of them. -/
theorem hasWord_intercalate_iff (hword : word ∈ countingWords) {between : String}
    (hbetween : between ∈ [".", ", "]) (texts : List String) :
    HasWord word (between.intercalate texts) ↔ ∃ t ∈ texts, HasWord word t := by
  have hapart : ∀ word ∈ countingWords, ∀ between ∈ [".", ", "],
      endsApart word between = true ∧ startsApart word between = true ∧
        ¬HasWord word between := by decide +kernel
  obtain ⟨hends, hstarts, hnone⟩ := hapart word hword between hbetween
  induction texts with
  | nil => simpa using not_hasWord_empty hword
  | cons s texts ih =>
    cases texts with
    | nil => simp
    | cons t texts =>
      rw [String.intercalate_cons_cons, String.append_assoc,
        hasWord_append_of_startsApart (startsApart_append hstarts _),
        hasWord_keyword_append hends hnone]
      refine (or_congr_right ih).trans ?_
      simp

/-- A path mentions a word exactly when one of its names does. -/
theorem hasWord_renderPath_iff (hword : word ∈ countingWords) (path : Path) :
    HasWord word (renderPath path) ↔ ∃ t ∈ path.map Name.render, HasWord word t :=
  hasWord_intercalate_iff hword (by simp) _

/-- A text that is empty or begins with a blank. -/
def StartsBlank (s : String) : Prop :=
  s.toList.head?.all (· = ' ') = true

/-- Before a text that is empty or begins with a blank a word ends. -/
theorem hasWord_append_of_startsBlank (hword : word ∈ countingWords) (ht : StartsBlank t) :
    HasWord word (s ++ t) ↔ HasWord word s ∨ HasWord word t := by
  refine hasWord_append_iff (Bool.or_eq_true_iff.mpr (.inr ?_))
  cases hhead : t.toList.head? with
  | none => rfl
  | some c =>
    have hc : c = ' ' := by simpa [StartsBlank, hhead] using ht
    rw [Option.all_some, hc]
    exact blank_apart word hword

/-! ## References -/

/-- The text of when a constraint is checked is empty or begins with a blank, and it mentions none
of the words. -/
theorem checking_apart (c : Checking) : StartsBlank c.render ∧ ¬MentionsCounting c.render := by
  obtain ⟨deferrable, immediate, enforced⟩ := c
  have hall : ∀ deferrable immediate enforced : Option Bool,
      (Checking.render ⟨deferrable, immediate, enforced⟩).toList.head?.all (· = ' ') = true ∧
        ¬MentionsCounting (Checking.render ⟨deferrable, immediate, enforced⟩) := by
    decide +kernel
  exact hall deferrable immediate enforced

/-- Names in parentheses, if there are any, mention a word in one of them. -/
theorem renderColumnList_spec (hword : word ∈ countingWords) (columns : List Name) :
    StartsBlank (renderColumnList columns) ∧
      (HasWord word (renderColumnList columns) ↔
        ∃ t ∈ columns.map Name.render, HasWord word t) := by
  cases columns with
  | nil => exact ⟨rfl, by simpa [renderColumnList] using not_hasWord_empty hword⟩
  | cons n rest =>
    refine ⟨by simp [StartsBlank, renderColumnList], ?_⟩
    rw [renderColumnList, hasWord_append_closing hword (by simp [closingKeywords]),
      hasWord_leading_append hword (by simp [leadingKeywords])]
    · exact hasWord_intercalate_iff hword (by simp) _
    · simp

/-- A word behind keywords, if there is one. -/
def clauseText (keywords : String) : Option String → String
  | none => ""
  | some text => keywords ++ text

/-- A clause begins with a blank and mentions a word exactly when its text does. -/
theorem clauseText_spec (hword : word ∈ countingWords) (keywords : String)
    (hkeywords : keywords ∈ [" ", " MATCH ", " ON DELETE ", " ON UPDATE "])
    (value : Option String) :
    StartsBlank (clauseText keywords value) ∧
      (HasWord word (clauseText keywords value) ↔ ∃ t ∈ value.toList, HasWord word t) := by
  have hstarts : ∀ k ∈ [" ", " MATCH ", " ON DELETE ", " ON UPDATE "],
      k ∈ leadingKeywords ∧ k.toList.head? = some ' ' := by decide
  obtain ⟨hleading, hhead⟩ := hstarts keywords hkeywords
  cases value with
  | none => exact ⟨rfl, by simpa [clauseText] using not_hasWord_empty hword⟩
  | some text =>
    refine ⟨?_, by simpa [clauseText] using hasWord_leading_append hword hleading text⟩
    rw [StartsBlank, clauseText, String.toList_append, List.head?_append, hhead]
    rfl

/-- The text of a reference is its table and columns with its clauses behind them. -/
theorem Reference.render_eq (r : Reference) :
    r.render = renderPath r.table ++ renderColumnList r.columns ++
      clauseText " MATCH " r.matching ++ clauseText " ON DELETE " r.onDelete ++
        clauseText " ON UPDATE " r.onUpdate ++ r.checking.render := by
  rfl

/-- A reference mentions a word exactly when one of its texts does. -/
theorem Reference.hasWord_render_iff (hword : word ∈ countingWords) (r : Reference) :
    HasWord word r.render ↔ ∃ t ∈ (ColumnOption.references r).texts, HasWord word t := by
  obtain ⟨hcolumns, hcolumnsIff⟩ := renderColumnList_spec hword r.columns
  obtain ⟨hmatching, hmatchingIff⟩ := clauseText_spec hword " MATCH " (by simp) r.matching
  obtain ⟨hdelete, hdeleteIff⟩ := clauseText_spec hword " ON DELETE " (by simp) r.onDelete
  obtain ⟨hupdate, hupdateIff⟩ := clauseText_spec hword " ON UPDATE " (by simp) r.onUpdate
  obtain ⟨hchecking, hcheckingNone⟩ := checking_apart r.checking
  have hnone : ¬HasWord word r.checking.render := fun h => hcheckingNone ⟨word, hword, h⟩
  rw [render_eq, hasWord_append_of_startsBlank hword hchecking,
    hasWord_append_of_startsBlank hword hupdate, hasWord_append_of_startsBlank hword hdelete,
    hasWord_append_of_startsBlank hword hmatching, hasWord_append_of_startsBlank hword hcolumns,
    hasWord_renderPath_iff hword, hcolumnsIff, hmatchingIff, hdeleteIff, hupdateIff,
    or_iff_left hnone]
  simp only [ColumnOption.texts, List.mem_append, or_and_right, exists_or, or_assoc]

/-! ## Options -/

/-- An option that is searched for the words, and is no clause for an identity. -/
def ColumnOption.IsSearched : ColumnOption → Prop
  | default _ | comment _ | identity _ _ => False
  | _ => True

/-- Whether a constraint is enforced is said by one of the closing keywords. -/
theorem renderEnforced_mem (enforced : Option Bool) :
    renderEnforced enforced ∈ closingKeywords := by
  revert enforced
  decide

/-- An option that is searched mentions a word exactly when one of its texts does. -/
theorem ColumnOption.hasWord_render_iff (hword : word ∈ countingWords) {option : ColumnOption}
    (h : option.IsSearched) : HasWord word option.render ↔ ∃ t ∈ option.texts, HasWord word t := by
  have hfixed {s : String} (hs : ¬MentionsCounting s) :
      HasWord word s ↔ ∃ t ∈ ([] : List String), HasWord word t :=
    iff_of_false (fun h => hs ⟨word, hword, h⟩) (by simp)
  have hchecked {s : String} (hs : ¬MentionsCounting s) (c : Checking) :
      HasWord word (s ++ c.render) ↔ ∃ t ∈ ([] : List String), HasWord word t := by
    obtain ⟨hstarts, hnone⟩ := checking_apart c
    rw [hasWord_append_of_startsBlank hword hstarts, hfixed hs, hfixed hnone, or_self]
  cases option with
  | default e => exact h.elim
  | comment text => exact h.elim
  | identity always options => exact h.elim
  | null => exact hfixed (by decide +kernel)
  | notNull => exact hfixed (by decide +kernel)
  | invisible => exact hfixed (by decide +kernel)
  | primaryKey checking => exact hchecked (by decide +kernel) checking
  | unique checking => exact hchecked (by decide +kernel) checking
  | references target =>
    rw [render, hasWord_leading_append hword (by simp [leadingKeywords])]
    exact target.hasWord_render_iff hword
  | check condition enforced =>
    rw [render, hasWord_append_closing hword (renderEnforced_mem enforced),
      hasWord_append_closing hword (by simp [closingKeywords]),
      hasWord_leading_append hword (by simp [leadingKeywords])]
    simp [texts]
  | keyword w => simp [render, texts]
  | characterSet name =>
    rw [render, hasWord_leading_append hword (by simp [leadingKeywords])]
    exact hasWord_renderPath_iff hword name
  | collation name =>
    rw [render, hasWord_leading_append hword (by simp [leadingKeywords])]
    exact hasWord_renderPath_iff hword name
  | onUpdate e =>
    rw [render, hasWord_leading_append hword (by simp [leadingKeywords])]
    simp [texts]
  | computed generated e storage =>
    obtain ⟨hstarts, hstorage⟩ := clauseText_spec hword " " (by simp) storage
    have hspaced : spaced storage = clauseText " " storage := by cases storage <;> rfl
    have hleading : (if generated then "GENERATED ALWAYS AS (" else "AS (") ∈ leadingKeywords := by
      cases generated <;> simp [leadingKeywords]
    rw [render, hspaced, hasWord_append_of_startsBlank hword hstarts, hstorage,
      hasWord_append_closing hword (by simp [closingKeywords]),
      hasWord_leading_append hword hleading]
    simp [texts]
  | srid e =>
    rw [render, hasWord_leading_append hword (by simp [leadingKeywords])]
    simp [texts]
  | onConflict action =>
    rw [render, hasWord_leading_append hword (by simp [leadingKeywords])]
    simp [texts]

end

end TableTypes.Sql
