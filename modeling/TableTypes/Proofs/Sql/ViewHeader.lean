import TableTypes.Proofs.Sql.DomainText

/-!
# The header of a view

Before its query a view says its kind and its name. Of all that can stand there only `OR REPLACE`,
`MATERIALIZED`, `IF NOT EXISTS` and the name may be there if the view is to be read; what is then
read is the first selection of its query.
-/

namespace TableTypes.Sql

/-! ## Phrases that are not there -/

/-- A phrase that is there is passed over. -/
theorem optionalPhrase_of_some {words : List String} {cs rest : List Char}
    (h : phrase? words cs = some rest) : optionalPhrase words cs = rest := by
  rw [optionalPhrase, h, Option.getD_some]

/-- Where a phrase is not found nothing is passed over. -/
theorem optionalPhrase_of_none {words : List String} {cs : List Char}
    (h : phrase? words cs = none) : optionalPhrase words cs = cs := by
  rw [optionalPhrase, h, Option.getD_none]

/-- Where the first letter of a phrase is not found nothing is passed over. -/
theorem optionalPhrase_eq_self {word : String} {w : Char} {letters : List Char}
    (hword : word.toList = w :: letters) {c : Char} (hc : Unicode.foldEq w c = false)
    (words : List String) (cs : List Char) :
    optionalPhrase (word :: words) (c :: cs) = c :: cs :=
  optionalPhrase_of_none (phrase?_eq_none hword hc words cs)

/-! ## Kinds of views -/

/-- The text before the query and the name of a view, from the keyword behind `OR REPLACE` on. -/
def ViewDefinition.kindText (v : ViewDefinition) : String :=
  v.parameters ++ (if v.secure then "SECURE " else "") ++
    (if v.materialized then "MATERIALIZED " else "") ++
    (if v.temporary then "TEMPORARY " else "") ++ "VIEW "

/-- Whether the kind of a view is one that is read. -/
def ViewDefinition.hasPlainKind (v : ViewDefinition) : Bool :=
  !v.orAlter && v.parameters = "" && !v.secure && !v.temporary

/-- The keywords that the parameters of a view begin with. -/
def parameterWords : List String :=
  ["ALGORITHM", "DEFINER", "SQL"]

/-- Keywords that may be there are passed over, if the text behind them begins beside them. -/
theorem optionalPhrase_materialized (materialized : Bool) {c : Char}
    (hblank : Unicode.isBlank c = false) (hc : Unicode.foldEq 'M' c = false) (cs : List Char) :
    optionalPhrase ["MATERIALIZED"]
      ((if materialized then "MATERIALIZED " else "").toList ++ c :: cs) = c :: cs := by
  cases materialized with
  | false => exact optionalPhrase_eq_self rfl hc [] cs
  | true =>
    have hphrase : phrase? ["MATERIALIZED"] ("MATERIALIZED".toList ++ ' ' :: c :: cs) =
        some (c :: cs) := phrase?_cons ⟨c, cs, rfl, hblank⟩
    exact optionalPhrase_of_some hphrase

/-- The words `OR REPLACE` are passed over if they are there. -/
theorem optionalPhrase_orReplace (orReplace : Bool) {c : Char}
    (hblank : Unicode.isBlank c = false) (hc : Unicode.foldEq 'O' c = false) (cs : List Char) :
    optionalPhrase ["OR", "REPLACE"]
      ((if orReplace then "OR REPLACE " else "").toList ++ c :: cs) = c :: cs := by
  cases orReplace with
  | false => exact optionalPhrase_eq_self rfl hc _ cs
  | true =>
    have hphrase : phrase? ["OR", "REPLACE"]
        ("OR".toList ++ ' ' :: ("REPLACE".toList ++ ' ' :: c :: cs)) = some (c :: cs) :=
      (phrase?_cons ⟨'R', _, rfl, by decide⟩).trans (phrase?_cons ⟨c, cs, rfl, hblank⟩)
    exact optionalPhrase_of_some hphrase

/-- A character that begins a word, but none of the keywords that can stand before the name of a
view that is read. -/
structure BeginsOther (c : Char) : Prop where
  visible : Unicode.isBlank c = false
  noOr : Unicode.foldEq 'O' c = false
  noMaterialized : Unicode.foldEq 'M' c = false
  noView : Unicode.foldEq 'V' c = false

/-- The word `SECURE` begins like no keyword before the name of a view. -/
theorem beginsOther_secure : BeginsOther 'S' :=
  ⟨by decide, by decide, by decide, by decide⟩

/-- The word `TEMPORARY` begins like no keyword before the name of a view. -/
theorem beginsOther_temporary : BeginsOther 'T' :=
  ⟨by decide, by decide, by decide, by decide⟩

/-- The parameters of a view begin like no keyword before its name. -/
theorem exists_parameterWord {word : String} (hword : word ∈ parameterWords) :
    ∃ c letters, BeginsOther c ∧ word.toList = c :: letters := by
  simp only [parameterWords, List.mem_cons, List.not_mem_nil, or_false] at hword
  rcases hword with rfl | rfl | rfl
  · exact ⟨'A', _, ⟨by decide, by decide, by decide, by decide⟩, rfl⟩
  · exact ⟨'D', _, ⟨by decide, by decide, by decide, by decide⟩, rfl⟩
  · exact ⟨'S', _, beginsOther_secure, rfl⟩

/-- `OR REPLACE` and `MATERIALIZED` are passed over, so that another keyword comes next. -/
theorem phrase?_behindKind (orReplace materialized : Bool) {c : Char}
    (hblank : Unicode.isBlank c = false) (hor : Unicode.foldEq 'O' c = false)
    (hmaterialized : Unicode.foldEq 'M' c = false) (cs : List Char) :
    phrase? ["VIEW"] (optionalPhrase ["MATERIALIZED"] (optionalPhrase ["OR", "REPLACE"]
      ((if orReplace then "OR REPLACE " else "").toList ++
        ((if materialized then "MATERIALIZED " else "").toList ++ c :: cs)))) =
      phrase? ["VIEW"] (c :: cs) := by
  obtain ⟨d, rest, heq, hd, hfold⟩ : ∃ d rest,
      (if materialized then "MATERIALIZED " else "").toList ++ c :: cs = d :: rest ∧
        Unicode.isBlank d = false ∧ Unicode.foldEq 'O' d = false := by
    cases materialized with
    | false => exact ⟨c, cs, rfl, hblank, hor⟩
    | true => exact ⟨'M', _, rfl, by decide, by decide⟩
  rw [heq, optionalPhrase_orReplace orReplace hd hfold, ← heq,
    optionalPhrase_materialized materialized hblank hmaterialized]

/-- A view that may alter another one is not read. -/
theorem phrase?_orAlter (rest : List Char) :
    phrase? ["VIEW"] (optionalPhrase ["MATERIALIZED"]
      (optionalPhrase ["OR", "REPLACE"] ("OR ALTER ".toList ++ rest))) = none := by
  have hphrase :
      phrase? ["OR", "REPLACE"] ("OR".toList ++ ' ' :: ("ALTER ".toList ++ rest)) = none :=
    (phrase?_cons ⟨'A', _, rfl, by decide⟩).trans (phrase?_eq_none rfl (by decide) _ _)
  have hself : optionalPhrase ["OR", "REPLACE"] ("OR ALTER ".toList ++ rest) =
      "OR ALTER ".toList ++ rest := optionalPhrase_of_none hphrase
  have hmaterialized : optionalPhrase ["MATERIALIZED"] ("OR ALTER ".toList ++ rest) =
      "OR ALTER ".toList ++ rest := optionalPhrase_eq_self rfl (by decide) _ _
  rw [hself, hmaterialized]
  exact phrase?_eq_none rfl (by decide) _ _

/-- A view is read behind its kind if the kind is a plain one, and not at all otherwise. -/
theorem phrase?_kindText {v : ViewDefinition}
    (hparameters : v.parameters = "" ∨
      ∃ word ∈ parameterWords, ∃ rest, v.parameters.toList = word.toList ++ rest)
    {cs : List Char} (hcs : Visible cs) :
    phrase? ["VIEW"] (optionalPhrase ["MATERIALIZED"] (optionalPhrase ["OR", "REPLACE"]
      ((if v.orAlter then "OR ALTER " else "").toList ++
        ((if v.orReplace then "OR REPLACE " else "").toList ++ (v.kindText.toList ++ cs))))) =
      if v.hasPlainKind then some cs else none := by
  unfold ViewDefinition.hasPlainKind ViewDefinition.kindText
  cases v.orAlter with
  | true => exact phrase?_orAlter _
  | false =>
    have hbeside {c : Char} (hc : BeginsOther c) (materialized : Bool) (rest : List Char) :
        phrase? ["VIEW"] (optionalPhrase ["MATERIALIZED"] (optionalPhrase ["OR", "REPLACE"]
          ((if v.orReplace then "OR REPLACE " else "").toList ++
            ((if materialized then "MATERIALIZED " else "").toList ++ c :: rest)))) = none := by
      rw [phrase?_behindKind v.orReplace materialized hc.visible hc.noOr hc.noMaterialized,
        phrase?_eq_none rfl hc.noView]
    rcases hparameters with hnone | ⟨word, hword, rest, hparameters⟩
    · rw [hnone]
      cases v.secure with
      | true => simpa using hbeside beginsOther_secure false _
      | false =>
        cases v.temporary with
        | true => simpa using hbeside beginsOther_temporary v.materialized _
        | false =>
          have hview : phrase? ["VIEW"] ("VIEW".toList ++ ' ' :: cs) = some cs := phrase?_cons hcs
          rw [← hview]
          simpa using phrase?_behindKind v.orReplace v.materialized (c := 'V') (by decide)
            (by decide) (by decide) ("IEW ".toList ++ cs)
    · obtain ⟨c, letters, hc, hletters⟩ := exists_parameterWord hword
      have hne : ¬v.parameters = "" := by
        rintro hnil
        simp [hnil, hletters] at hparameters
      simp only [String.toList_append, hparameters, hletters, List.cons_append]
      simpa [hne] using hbeside hc false _

/-- A keyword stands before the name of a view. -/
theorem visible_beforeName {v : ViewDefinition}
    (hparameters : v.parameters = "" ∨
      ∃ word ∈ parameterWords, ∃ rest, v.parameters.toList = word.toList ++ rest) (cs : List Char) :
    Visible ((if v.orAlter then "OR ALTER " else "").toList ++
      ((if v.orReplace then "OR REPLACE " else "").toList ++ (v.kindText.toList ++ cs))) := by
  have hkind : Visible v.kindText.toList := by
    unfold ViewDefinition.kindText
    rcases hparameters with hnone | ⟨word, hword, rest, hparameters⟩
    · rw [hnone]
      cases v.secure with
      | true => exact ⟨'S', _, by simp; rfl, by decide⟩
      | false =>
        cases v.materialized with
        | true => exact ⟨'M', _, by simp; rfl, by decide⟩
        | false =>
          cases v.temporary with
          | true => exact ⟨'T', _, by simp; rfl, by decide⟩
          | false => exact ⟨'V', _, by simp; rfl, by decide⟩
    · obtain ⟨c, letters, hc, hletters⟩ := exists_parameterWord hword
      exact ⟨c, _, by simp [hparameters, hletters]; rfl, hc.visible⟩
  cases v.orAlter with
  | true => exact ⟨'O', _, rfl, by decide⟩
  | false =>
    cases v.orReplace with
    | true => exact ⟨'O', _, rfl, by decide⟩
    | false => exact hkind.append cs

/-! ## Names of views -/

/-- The text of a view behind its name. -/
def ViewDefinition.behindName (v : ViewDefinition) : String :=
  (if v.ifNotExists && v.nameFirst then " IF NOT EXISTS" else "") ++ renderColumnList v.columns ++
    renderPieces v.options ++ " AS " ++ v.query.render

/-- Whether the query stands right behind the name of a view. -/
def ViewDefinition.hasPlainName (v : ViewDefinition) : Bool :=
  !(v.ifNotExists && v.nameFirst) && v.columns.isEmpty && renderPieces v.options = ""

/-- The text of a view is its keywords, its name and what stands behind the name. -/
theorem ViewDefinition.render_eq (v : ViewDefinition) :
    v.render.toList = "CREATE".toList ++ ' ' :: ((if v.orAlter then "OR ALTER " else "").toList ++
      ((if v.orReplace then "OR REPLACE " else "").toList ++ (v.kindText.toList ++
        ((if v.ifNotExists && !v.nameFirst then "IF NOT EXISTS " else "").toList ++
          ((renderPath v.name).toList ++ v.behindName.toList))))) := by
  have hcreate : "CREATE ".toList = "CREATE".toList ++ [' '] := rfl
  unfold render kindText behindName
  simp only [String.toList_append, List.append_assoc, hcreate, List.cons_append,
    List.nil_append]

/-- The keywords that the options of a view begin with. -/
def optionWords : List String :=
  ["WITH", "CLUSTER"]

/-- The header of a view can be told apart: its parameters and options begin with their keywords,
its name has no blanks, and the query does not begin with one. -/
structure ViewDefinition.HasLegibleHeader (v : ViewDefinition) : Prop where
  parameters : v.parameters = "" ∨
    ∃ word ∈ parameterWords, ∃ rest, v.parameters.toList = word.toList ++ rest
  name : renderPath v.name ≠ ""
  noBlank : ∀ c ∈ (renderPath v.name).toList, Unicode.isBlank c = false
  options : renderPieces v.options = "" ∨
    ∃ word ∈ optionWords, ∃ rest, (renderPieces v.options).toList = ' ' :: (word.toList ++ rest)
  query : Visible v.query.render.toList

/-- Behind the name comes a keyword or a parenthesis, which is `AS` if the query stands there and
does not begin like it otherwise. -/
theorem ViewDefinition.HasLegibleHeader.behindName {v : ViewDefinition} (h : v.HasLegibleHeader) :
    ∃ c rest, v.behindName.toList = ' ' :: c :: rest ∧ Unicode.isBlank c = false ∧
      Unicode.foldEq 'N' c = false ∧
      if v.hasPlainName then c :: rest = "AS".toList ++ ' ' :: v.query.render.toList
      else Unicode.foldEq 'A' c = false := by
  unfold ViewDefinition.behindName ViewDefinition.hasPlainName
  cases v.ifNotExists && v.nameFirst with
  | true => exact ⟨'I', _, by simp; rfl, by decide, by decide, by simp; decide⟩
  | false =>
    cases v.columns with
    | cons column columns =>
      exact ⟨'(', _, by simp [renderColumnList]; rfl, by decide, by decide, by simp; decide⟩
    | nil =>
      rcases h.options with hnone | ⟨word, hword, rest, hoptions⟩
      · exact ⟨'A', _, by simp [renderColumnList, hnone]; rfl, by decide, by decide,
          by simp [hnone]⟩
      · have hne : ¬renderPieces v.options = "" := by
          rintro hnil
          simp [hnil] at hoptions
        simp only [optionWords, List.mem_cons, List.not_mem_nil, or_false] at hword
        rcases hword with rfl | rfl
        · exact ⟨'W', _, by simp [renderColumnList, hoptions]; rfl, by decide, by decide,
            by simp [hne]; decide⟩
        · exact ⟨'C', _, by simp [renderColumnList, hoptions]; rfl, by decide, by decide,
            by simp [hne]; decide⟩

/-- A name is not passed over as `IF NOT EXISTS`, even if it is `IF`. -/
theorem optionalPhrase_name {name : List Char} (hname : ∀ c ∈ name, Unicode.isBlank c = false)
    {c : Char} (hblank : Unicode.isBlank c = false) (hc : Unicode.foldEq 'N' c = false)
    (rest : List Char) :
    optionalPhrase ["IF", "NOT", "EXISTS"] (name ++ ' ' :: c :: rest) =
      name ++ ' ' :: c :: rest := by
  refine optionalPhrase_of_none ?_
  have hspace : ∀ w ∈ "IF".toList, Unicode.foldEq w ' ' = false := by
    have hall : ("IF".toList.all fun w => !Unicode.foldEq w ' ') = true := by decide
    simpa using hall
  have htail : StandsApart (' ' :: c :: rest) := .inr ⟨_, rfl⟩
  rw [phrase?, word?_append_of_standsApart hspace htail]
  cases hword : word? "IF".toList name with
  | none => rfl
  | some after =>
    obtain ⟨written, -, rfl⟩ := word?_eq_some_iff.mp hword
    cases after with
    | nil =>
      rw [Option.map_some, List.nil_append, Option.bind_eq_bind, Option.bind_some,
        blanks?_space ⟨c, rest, rfl, hblank⟩]
      exact phrase?_eq_none rfl hc _ rest
    | cons d after =>
      have hd : Unicode.isBlank d = false := hname d (by simp)
      simp [blanks?, hd]

/-- The words `IF NOT EXISTS` are passed over if they are there. -/
theorem optionalPhrase_ifNotExists (ifNotExists : Bool) {name : List Char} (hne : name ≠ [])
    (hname : ∀ c ∈ name, Unicode.isBlank c = false) {c : Char}
    (hblank : Unicode.isBlank c = false) (hc : Unicode.foldEq 'N' c = false) (rest : List Char) :
    optionalPhrase ["IF", "NOT", "EXISTS"]
      ((if ifNotExists then "IF NOT EXISTS " else "").toList ++ (name ++ ' ' :: c :: rest)) =
      name ++ ' ' :: c :: rest := by
  cases ifNotExists with
  | false => exact optionalPhrase_name hname hblank hc rest
  | true =>
    have hvisible : Visible (name ++ ' ' :: c :: rest) := (visible_of_noBlank hne hname).1.append _
    have hphrase : phrase? ["IF", "NOT", "EXISTS"] ("IF".toList ++ ' ' ::
        ("NOT".toList ++ ' ' :: ("EXISTS".toList ++ ' ' :: (name ++ ' ' :: c :: rest)))) =
        some (name ++ ' ' :: c :: rest) :=
      (phrase?_cons ⟨'N', _, rfl, by decide⟩).trans <|
        (phrase?_cons ⟨'E', _, rfl, by decide⟩).trans (phrase?_cons hvisible)
    exact optionalPhrase_of_some hphrase

/-! ## Views -/

/-- Reads the first selection of the query of a view. -/
def readSelection? (name query : List Char) : Option Projection := do
  match ← phrase? ["SELECT"] query with
  | [] => none
  | c :: rest =>
    let (items, source) ← untilSource? rest
    return { name := String.ofList name, items := String.ofList (c :: items),
             source := String.ofList source }

/-- A view is read if its header is plain, and then by the first selection of its query. -/
theorem readView?_render {v : ViewDefinition} (h : v.HasLegibleHeader) :
    readView? v.render =
      if v.hasPlainKind && v.hasPlainName then
        readSelection? (renderPath v.name).toList v.query.render.toList
      else none := by
  obtain ⟨c, rest, hbehind, hblank, hc, hrest⟩ := h.behindName
  have hne : (renderPath v.name).toList ≠ [] := mt String.toList_eq_nil_iff.mp h.name
  have hname := visible_of_noBlank hne h.noBlank
  have hrun : run? ((renderPath v.name).toList ++ ' ' :: c :: rest) =
      some ((renderPath v.name).toList, ' ' :: c :: rest) := run?_append_space hne h.noBlank _
  have hbehindKind : Visible
      ((if v.ifNotExists && !v.nameFirst then "IF NOT EXISTS " else "").toList ++
        ((renderPath v.name).toList ++ ' ' :: c :: rest)) := by
    cases v.ifNotExists && !v.nameFirst with
    | true => exact ⟨'I', _, rfl, by decide⟩
    | false => exact hname.1.append _
  rw [readView?, v.render_eq, hbehind, phrase?_cons (visible_beforeName h.parameters _)]
  have hnil (cs : List Char) : phrase? [] cs = some cs := rfl
  simp only [hnil, phrase?_kindText h.parameters hbehindKind, Option.bind_eq_bind, Option.bind_some]
  cases v.hasPlainKind with
  | false => rfl
  | true =>
    have hblanks : blanks? (' ' :: c :: rest) = some (c :: rest) :=
      blanks?_space ⟨c, rest, rfl, hblank⟩
    rw [if_pos rfl, Option.bind_some, optionalPhrase_ifNotExists _ hne h.noBlank hblank hc, hrun,
      Option.bind_some, hblanks, Option.bind_some]
    cases hplain : v.hasPlainName with
    | false =>
      rw [hplain, if_neg Bool.false_ne_true] at hrest
      rw [phrase?_eq_none rfl hrest]
      rfl
    | true =>
      rw [hplain, if_pos rfl] at hrest
      rw [hrest, phrase?_cons h.query]
      rfl

end TableTypes.Sql
