import Mathlib.Data.List.Infix
import TableTypes.Proofs.Interfaces.Places
import TableTypes.Proofs.Interfaces.TypeMappings
import TableTypes.Proofs.Symbol.DisplayText

/-!
# String literals in type text

Type text of the user is read by its names and not as a type, so a name inside a string literal is a
name like any other. Each literal has the display names put in by itself, whatever stands around it.
It stays as it is exactly when each name in it has itself as its display name, or none.
-/

namespace TableTypes

open TypeScript SymbolTable

variable {s : Symbols} {params : List String}

/-! ## Parts of a text -/

/-- The name that has been begun is of name characters if the letters read so far are. -/
theorem isNameChar_of_mem_begunName {dot : Bool} {word : List Char} {n : String}
    (hword : ∀ c ∈ word, isNameChar c = true) (hn : n ∈ begunName dot word) :
    ∀ c ∈ n.toList, isNameChar c = true := by
  unfold begunName at hn
  split at hn
  · cases hn
  · rw [List.mem_singleton.mp hn, String.toList_ofList]
    exact fun c hc => hword c (List.mem_reverse.mp hc)

/-- The names in the rest of a text are of name characters if the letters read so far are. -/
theorem isNameChar_of_mem_namesInTextFrom {dot : Bool} {word text : List Char} {n : String}
    (hword : ∀ c ∈ word, isNameChar c = true) (hn : n ∈ namesInTextFrom dot word text) :
    ∀ c ∈ n.toList, isNameChar c = true := by
  induction text generalizing dot word with
  | nil => exact isNameChar_of_mem_begunName hword hn
  | cons c text ih =>
    rw [namesInTextFrom] at hn
    split at hn
    · next hc => exact ih (List.forall_mem_cons.mpr ⟨hc, hword⟩) hn
    · rcases List.mem_append.mp hn with hn | hn
      · exact isNameChar_of_mem_begunName hword hn
      · exact ih (by simp) hn

/-- The names in a text have name characters only. -/
theorem isNameChar_of_mem_namesInText {text n : String} (hn : n ∈ namesInText text) :
    ∀ c ∈ n.toList, isNameChar c = true :=
  isNameChar_of_mem_namesInTextFrom (by simp) hn

/-- At a character that belongs to no name, a text falls into two parts. -/
theorem renameTextFrom_append_cons {c : Char} (hc : isNameChar c = false) (dot : Bool)
    (word text rest : List Char) :
    renameTextFrom s params dot word (text ++ c :: rest) =
      renameTextFrom s params dot word text ++ c :: renameTextFrom s params (c = '.') [] rest := by
  induction text generalizing dot word with
  | nil => simp [renameTextFrom, hc]
  | cons d text ih =>
    rw [List.cons_append, renameTextFrom, renameTextFrom]
    split
    · exact ih dot (d :: word)
    · rw [ih, List.append_assoc, List.cons_append]

/-- No display name is a name with other characters than letters, numbers, underscores and dollar
signs behind it. -/
def SymbolTable.NamesEnd (symbols : Symbols) (params : List String) : Prop :=
  ∀ word name rest, word ≠ [] → (∀ c ∈ word, isNameChar c = true) →
    symbols.rename? params (String.ofList word) = some name → name.toList = word ++ rest →
    ∀ c ∈ rest, isNameChar c = true

/-- A word stays exactly when the name that it is, if it is one, keeps its name. -/
theorem renameWord_eq_self_iff (dot : Bool) (word : List Char) (hne : word ≠ []) :
    renameWord s params dot word.reverse = word.reverse ↔
      ∀ n ∈ begunName dot word, s.KeepsName params n := by
  cases dot with
  | true => simp [renameWord_afterDot, begunName]
  | false =>
    have hname : begunName false word = [String.ofList word.reverse] := by simp [begunName, hne]
    rw [hname, List.forall_mem_singleton, KeepsName, renameWord]
    cases s.rename? params (String.ofList word.reverse) with
    | none => simp
    | some name => simp [← String.toList_inj]

/-- Behind a name that is put in there is nothing but name characters. -/
theorem SymbolTable.NamesEnd.of_renameWord (hends : s.NamesEnd params) {dot : Bool}
    {word x : List Char} (hne : word ≠ []) (hword : ∀ c ∈ word, isNameChar c = true)
    (h : renameWord s params dot word = word ++ x) : ∀ c ∈ x, isNameChar c = true := by
  unfold renameWord at h
  split at h
  · next name hname =>
    cases dot with
    | true => simp [List.self_eq_append_right.mp h]
    | false => exact hends word name x hne hword hname h
  · simp [List.self_eq_append_right.mp h]

/-- A word is put in the place of another one before a character that belongs to no name: if the
text stays, then the word is the same. -/
theorem eq_of_append_cons_eq {word written rest rest' : List Char} {c : Char}
    (hc : isNameChar c = false) (hword : ∀ d ∈ word, isNameChar d = true)
    (hwritten : ∀ x, written = word ++ x → ∀ d ∈ x, isNameChar d = true)
    (h : written ++ c :: rest' = word ++ c :: rest) : written = word ∧ rest' = rest := by
  rcases List.append_eq_append_iff.mp h with ⟨x, rfl, hx⟩ | ⟨x, rfl, hx⟩
  · cases x with
    | nil => exact ⟨(List.append_nil _).symm, (List.cons_eq_cons.mp hx).2⟩
    | cons d x =>
      obtain rfl : c = d := (List.cons_eq_cons.mp hx).1
      rw [hword c (by simp)] at hc
      cases hc
  · cases x with
    | nil => exact ⟨List.append_nil _, (List.cons_eq_cons.mp hx).2.symm⟩
    | cons d x =>
      obtain rfl : c = d := (List.cons_eq_cons.mp hx).1
      rw [hwritten _ rfl c List.mem_cons_self] at hc
      cases hc

/-- The rest of a text stays exactly when each of its names stays. -/
theorem renameTextFrom_eq_self_iff (hends : s.NamesEnd params) (dot : Bool) {word : List Char}
    (hword : ∀ c ∈ word, isNameChar c = true) (text : List Char) :
    renameTextFrom s params dot word text = word.reverse ++ text ↔
      ∀ n ∈ namesInTextFrom dot word text, s.KeepsName params n := by
  induction text generalizing dot word with
  | nil =>
    rw [renameTextFrom, namesInTextFrom, List.append_nil]
    by_cases hne : word = []
    · simp [hne, begunName]
    · rw [if_neg (by simpa using hne)]
      exact renameWord_eq_self_iff dot word hne
  | cons c text ih =>
    rw [renameTextFrom, namesInTextFrom]
    split
    · next hc =>
      rw [← ih dot (List.forall_mem_cons.mpr ⟨hc, hword⟩), List.reverse_cons, List.append_assoc]
      rfl
    · next hc =>
      rw [Bool.not_eq_true] at hc
      have hrest := ih (decide (c = '.')) (List.forall_mem_nil fun d => isNameChar d = true)
      rw [List.reverse_nil, List.nil_append] at hrest
      rw [List.forall_mem_append, ← hrest]
      dsimp only
      by_cases hne : word = []
      · simp [hne, begunName]
      · rw [if_neg (by simpa using hne), ← renameWord_eq_self_iff dot word hne]
        have hreverse : ∀ d ∈ word.reverse, isNameChar d = true := fun d hd =>
          hword d (List.mem_reverse.mp hd)
        constructor
        · intro h
          exact eq_of_append_cons_eq hc hreverse
            (fun _ => hends.of_renameWord (List.reverse_ne_nil_iff.mpr hne) hreverse) h
        · rintro ⟨hself, htext⟩
          rw [hself, htext]

/-- A text stays exactly when each of its names stays. -/
theorem renameText_eq_self_iff (hends : s.NamesEnd params) (text : String) :
    renameText s params text = text ↔ ∀ n ∈ namesInText text, s.KeepsName params n := by
  rw [← String.toList_inj, renameText, String.toList_ofList]
  exact renameTextFrom_eq_self_iff hends false (by simp) text.toList

/-! ## Display names in a file -/

/-- A digit can stand in a name. -/
theorem isNameChar_of_isDigit {c : Char} (h : c.isDigit = true) : isNameChar c = true := by
  have hascii := Unicode.toNat_lt_of_isDigit h
  exact Unicode.of_forall_ascii (P := fun c => c.isDigit = true → isNameChar c = true) (by decide)
    hascii h

/-- In a file, no display name of a name has other characters behind it than a number. -/
theorem namesEnd_moduleSymbols (profile : Profile) (options : Options) (db : Database) :
    (moduleSymbols profile options db).NamesEnd [] := by
  intro word name rest hne hword hname htext
  have hcolon : ':' ∉ (String.ofList word).toList := by
    rw [String.toList_ofList]
    exact fun h => absurd (hword _ h) (by decide)
  obtain ⟨e, hfound, rfl⟩ : ∃ e, (moduleSymbols profile options db).find? (String.ofList word) =
      some e ∧ e.name = name := by
    unfold rename? at hname
    cases hfound : (moduleSymbols profile options db).find? (String.ofList word) with
    | none => simp [hfound] at hname
    | some e =>
      simp only [hfound, List.contains_nil, Bool.false_eq_true, if_false] at hname
      split at hname
      · exact ⟨e, rfl, Option.some.inj hname⟩
      · cases hname
  obtain ⟨r, taken, hr, hid, -, -, hdisplay⟩ :=
    (grows_moduleSymbols profile options db).exists_displayName (find?_empty _ _) hfound
  have hsource : r.source = String.ofList word := by
    cases hr with
    | table => exact absurd hid (tableSymbolId_ne_of_colon_notMem hcolon _)
    | enum => exact absurd hid (enumSymbolId_ne_of_colon_notMem hcolon _)
    | provided hprovides => exact hprovides.1.trans hid
  rw [hdisplay, hsource] at htext
  exact fun c hc => isNameChar_of_isDigit (isDigit_of_displayName_eq_append hne hword htext c hc)

/-! ## The text of a column's type -/

/-- The type texts of the user in a type expression. -/
def TypeScript.TypeExpr.userTexts (e : TypeExpr) : List String :=
  (e.places []).filterMap fun
    | (_, .text code) => some code
    | _ => none

/-- Renaming a type renames each of its texts. -/
theorem TypeScript.TypeExpr.userTexts_rename (s : Symbols) (params : List String) (e : TypeExpr) :
    (e.rename s params).userTexts = e.userTexts.map (renameText s params) := by
  rw [userTexts, userTexts, places_rename, List.filterMap_map, List.map_filterMap]
  refine List.filterMap_congr fun q _ => ?_
  obtain ⟨scope, place⟩ := q
  cases place with
  | name n isTable => cases isTable <;> rfl
  | text code => rfl
  | check code => rfl

/-- Around a text of the user, a column puts no other one. -/
theorem userTexts_wrapType (c : Column) (code : String) :
    (Context.wrapType c [.raw code]).userTexts = [code] := by
  unfold Context.wrapType
  cases c.isArray <;> cases c.isNullable <;> cases c.hasDefault || c.isAutoIncrementing <;> rfl

/-- A column has a text of the user for its type: as an override, or mapped to its data type and
wrapped as the column demands. -/
def HasUserText (ctx : Context) (t : Table) (c : Column) (code : String) (type : TypeExpr) : Prop :=
  (ctx.findOverride? t c).map Override.expression = some (.raw code) ∧ type = .raw code ∨
    ctx.findOverride? t c = none ∧
      ctx.mappedType? c (Unicode.lowercase c.dataType) = some code ∧
      type = Context.wrapType c [.raw code]

/-- The type that a user gives a column is one text. -/
theorem HasUserText.userTexts {ctx : Context} {t : Table} {c : Column} {code : String}
    {type : TypeExpr} (h : HasUserText ctx t c code type) : type.userTexts = [code] := by
  rcases h with ⟨-, rfl⟩ | ⟨-, -, rfl⟩
  · rfl
  · exact userTexts_wrapType c code

/-! ## Literals -/

/-- The inside of a string literal: a backslash and the character behind it, or any character but
the quote. -/
inductive LiteralBody (quote : Char) : List Char → Prop
  | nil : LiteralBody quote []
  | plain {c : Char} {rest : List Char} :
    c ≠ quote → c ≠ '\\' → LiteralBody quote rest → LiteralBody quote (c :: rest)
  | escaped {c : Char} {rest : List Char} :
    LiteralBody quote rest → LiteralBody quote ('\\' :: c :: rest)

/-- A text without quotes and backslashes can stand in a literal. -/
theorem LiteralBody.of_forall {quote : Char} {body : List Char}
    (h : ∀ c ∈ body, c ≠ quote ∧ c ≠ '\\') : LiteralBody quote body := by
  induction body with
  | nil => exact .nil
  | cons c body ih =>
    obtain ⟨hquote, hbackslash⟩ := h c List.mem_cons_self
    exact .plain hquote hbackslash (ih fun d hd => h d (List.mem_cons_of_mem _ hd))

/-- A complete string literal of a type text, with what stands before and behind it. -/
structure StringLiteral (code : String) where
  before : String
  quote : Char
  body : String
  after : String
  isQuote : quote = '\'' ∨ quote = '"'
  isBody : LiteralBody quote body.toList
  code_eq : code = before ++ quote.toString ++ body ++ quote.toString ++ after

/-- The inside of a literal and the text on both sides have the display names put in by
themselves. -/
theorem StringLiteral.renameText_eq {code : String} (ℓ : StringLiteral code) (s : Symbols)
    (params : List String) :
    renameText s params code = renameText s params ℓ.before ++ ℓ.quote.toString ++
      renameText s params ℓ.body ++ ℓ.quote.toString ++ renameText s params ℓ.after := by
  have hquote : isNameChar ℓ.quote = false ∧ decide (ℓ.quote = '.') = false := by
    rcases ℓ.isQuote with h | h <;> rw [h] <;> decide
  have hcode : code.toList = ℓ.before.toList ++ ℓ.quote :: (ℓ.body.toList ++ ℓ.quote ::
      ℓ.after.toList) := by
    rw [congrArg String.toList ℓ.code_eq]
    simp
  rw [← String.toList_inj, renameText, String.toList_ofList, hcode,
    renameTextFrom_append_cons hquote.1, renameTextFrom_append_cons hquote.1, hquote.2]
  simp [renameText]

section

variable {profile : Profile} {options : Options} {db : Database}

/-- A name in a text stays if it belongs to no helper definition and no import. -/
theorem keepsName_of_not_knows {text n : String} (hn : n ∈ namesInText text)
    (hunknown : ¬(moduleContext profile options db).library.Knows n) :
    (moduleSymbols profile options db).KeepsName [] n := by
  have hcolon : ':' ∉ n.toList := fun h => absurd (isNameChar_of_mem_namesInText hn _ h) (by decide)
  rw [KeepsName, rename?_of_not_knows hcolon hunknown, Option.getD_none]

/-- **String literals in type text are renamed by themselves.** A column that has a text of the user
for its type, as an override or mapped, is typed in the file by this text with display names put in,
and has no other text around it. Each string literal of the text has the display names put in by
itself. It is unchanged exactly when every name in it stays, as a name does that belongs to no
helper definition and no import. -/
theorem userText_spec (profile : Profile) (options : Options) (db : Database) :
    ∀ t ∈ db.tables, ∀ k c, t.columns[k]? = some c → ∀ code type,
      HasUserText (moduleContext profile options db) t c code type →
      let symbols := moduleSymbols profile options db
      TypesColumn profile options db t k (type.rename symbols []) ∧
      (type.rename symbols []).userTexts = [renameText symbols [] code] ∧
      ∀ ℓ : StringLiteral code,
        renameText symbols [] code = renameText symbols [] ℓ.before ++ ℓ.quote.toString ++
          renameText symbols [] ℓ.body ++ ℓ.quote.toString ++ renameText symbols [] ℓ.after ∧
        (renameText symbols [] ℓ.body = ℓ.body ↔
          ∀ n ∈ namesInText ℓ.body, symbols.KeepsName [] n) ∧
        ∀ n ∈ namesInText ℓ.body, ¬(moduleContext profile options db).library.Knows n →
          symbols.KeepsName [] n := by
  intro t ht k c hc code type htext symbols
  refine ⟨?_, ?_, fun ℓ => ⟨ℓ.renameText_eq symbols [], ?_, fun n hn => ?_⟩⟩
  · rcases htext with ⟨hoverride, rfl⟩ | ⟨hnone, hmapped, rfl⟩
    · exact typesColumn_of_findOverride? ht hc hoverride
    · exact typesColumn_of_columnType ht hc (Context.columnType_of_mappedType? hnone hmapped)
  · rw [TypeExpr.userTexts_rename, htext.userTexts, List.map_singleton]
  · exact renameText_eq_self_iff (namesEnd_moduleSymbols profile options db) ℓ.body
  · exact keepsName_of_not_knows hn

end

/-- Beside a name that is renamed, a literal with another name in it stays. -/
theorem userText_spec_of_other :
    let a := Column.ofType "a" "text"
    let b := Column.ofType "b" "text"
    let t : Table := { schema := none, name := "kind", columns := [a, b] }
    let db : Database := { tables := [t], enums := [] }
    let options : Options :=
      { customImports := [("Kind", "./types")]
        overrides := [("kind.a", .text "Kind"), ("kind.b", .text "Kind | \"Other\"")] }
    TypesColumn .sqlite options db t 1 (.raw "Kind2 | \"Other\"") ∧
      renameText (moduleSymbols .sqlite options db) [] "Other" = "Other" := by
  intro a b t db options
  have hoverride : ((moduleContext .sqlite options db).findOverride? t b).map Override.expression =
      some (.raw "Kind | \"Other\"") := by cbv
  obtain ⟨htypes, -, hliterals⟩ := userText_spec .sqlite options db t (List.mem_singleton.mpr rfl) 1
    b rfl "Kind | \"Other\"" (.raw "Kind | \"Other\"") (.inl ⟨hoverride, rfl⟩)
  have hraw : (TypeExpr.raw "Kind | \"Other\"").rename (moduleSymbols .sqlite options db) [] =
      .raw "Kind2 | \"Other\"" := by cbv
  have hname : namesInText "Other" = ["Other"] := by cbv
  let ℓ : StringLiteral "Kind | \"Other\"" :=
    { before := "Kind | ", quote := '"', body := "Other", after := "", isQuote := .inr rfl
      isBody := .of_forall (by simp)
      code_eq := by decide }
  obtain ⟨-, hstays, hkeeps⟩ := hliterals ℓ
  refine ⟨hraw ▸ htypes, hstays.mpr fun n hn => hkeeps n hn ?_⟩
  rw [List.mem_singleton.mp (show n ∈ ["Other"] from hname ▸ hn)]
  decide

/-- A name that is renamed because of a table is renamed in a literal, too. -/
theorem not_literal_kept_of_kind :
    let a := Column.ofType "a" "text"
    let b := Column.ofType "b" "text"
    let t : Table := { schema := none, name := "kind", columns := [a, b] }
    let db : Database := { tables := [t], enums := [] }
    let options : Options :=
      { customImports := [("Kind", "./types")]
        overrides := [("kind.a", .text "Kind"), ("kind.b", .text "\"Kind\" | \"Other\"")] }
    HasUserText (moduleContext .sqlite options db) t b "\"Kind\" | \"Other\""
        (.raw "\"Kind\" | \"Other\"") ∧
      (∃ ℓ : StringLiteral "\"Kind\" | \"Other\"", ℓ.before = "" ∧ ℓ.body = "Kind") ∧
      TypesColumn .sqlite options db t 1 (.raw "\"Kind2\" | \"Other\"") ∧
      ∀ type, TypesColumn .sqlite options db t 1 type → ∀ text ∈ type.userTexts,
        ¬"\"Kind\"".toList <:+: text.toList := by
  intro a b t db options
  have hoverride : ((moduleContext .sqlite options db).findOverride? t b).map Override.expression =
      some (.raw "\"Kind\" | \"Other\"") := by cbv
  have hraw : (TypeExpr.raw "\"Kind\" | \"Other\"").rename (moduleSymbols .sqlite options db) [] =
      .raw "\"Kind2\" | \"Other\"" := by cbv
  have htypes : TypesColumn .sqlite options db t 1 (.raw "\"Kind2\" | \"Other\"") :=
    hraw ▸ typesColumn_of_findOverride? (List.mem_singleton.mpr rfl) rfl hoverride
  have hbound : (boundNames (moduleStatements .sqlite options db)).Nodup := by
    have hnames : boundNames (moduleStatements .sqlite options db) = ["Kind2", "Kind", "DB"] := by
      cbv
    rw [hnames]
    decide
  let ℓ : StringLiteral "\"Kind\" | \"Other\"" :=
    { before := "", quote := '"', body := "Kind", after := " | \"Other\"", isQuote := .inr rfl
      isBody := .of_forall (by simp)
      code_eq := by decide }
  refine ⟨.inl ⟨hoverride, rfl⟩, ⟨ℓ, rfl, rfl⟩, htypes, fun type htype text htext => ?_⟩
  rw [htype.unique hbound htypes] at htext
  rw [List.mem_singleton.mp htext]
  decide

end TableTypes
