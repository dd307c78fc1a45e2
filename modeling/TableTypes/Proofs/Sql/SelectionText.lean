import TableTypes.Proofs.Sql.ViewHeader
import TableTypes.Proofs.Sql.ViewText

/-!
# The first selection of a query

The text of a query begins with its first selection, be it the whole query or the first of several
that are put together. What is read off the text of a view are the items and the sources of this
selection; what stands behind its condition is never looked at.
-/

namespace TableTypes.Sql

/-! ## Parts of a selection -/

namespace Select

/-- The text of a selection between its keyword and the table that its rows go into. -/
def heading : Select → String
  | .mk quantifier items _ _ _ => renderPieces quantifier ++ renderItemList items
  | .into quantifier items _ _ _ _ => renderPieces quantifier ++ renderItemList items

/-- The table that the rows of a selection go into. -/
def target : Select → List Piece
  | .mk _ _ _ _ _ => []
  | .into _ _ target _ _ _ => target

/-- The sources of a selection. -/
def sources : Select → List Source
  | .mk _ _ sources _ _ => sources
  | .into _ _ _ sources _ _ => sources

/-- The condition of a selection, if it has one. -/
def condition : Select → Option Expr
  | .mk _ _ _ condition _ => condition
  | .into _ _ _ _ condition _ => condition

/-- The clauses behind the condition of a selection. -/
def clauses : Select → List Piece
  | .mk _ _ _ _ clauses => clauses
  | .into _ _ _ _ _ clauses => clauses

/-- The text of a selection is its heading, its sources, its condition and its clauses. -/
theorem render_eq (s : Select) :
    s.render = "SELECT" ++ s.heading ++ renderPieces s.target ++ renderFrom s.sources ++
      renderWhere s.condition ++ renderPieces s.clauses := by
  unfold render heading target sources condition clauses
  cases s <;> simp [renderPieces, String.append_assoc]

/-- The items of a selection as they are written. -/
def listed (s : Select) : List Char :=
  s.heading.toList.tail

/-- The sources of a selection as they are written. -/
def sourceText (s : Select) : String :=
  commas (renderSources s.sources)

/-- Sources are written behind the word `FROM`. -/
theorem renderFrom_sources {s : Select} (hne : s.sources ≠ []) :
    renderFrom s.sources = " FROM " ++ s.sourceText := by
  unfold sourceText
  cases hsources : s.sources with
  | nil => exact absurd hsources hne
  | cons source sources => simp [renderFrom, renderSources]

end Select

/-! ## The first selection -/

/-- The selection that the body of a query begins with. -/
def QueryBody.first? : QueryBody → Option Select
  | .select s => some s
  | .operation left _ _ => left.first?
  | .nested _ | .rows _ => none

/-- The text of the body of a query behind its first selection. -/
def QueryBody.behindFirst : QueryBody → String
  | .operation left operator right => left.behindFirst ++ " " ++ operator ++ " " ++ right.render
  | .select _ | .nested _ | .rows _ => ""

/-- The text of a body begins with its first selection. -/
theorem QueryBody.render_eq {s : Select} :
    ∀ {body : QueryBody}, body.first? = some s → body.render = s.render ++ body.behindFirst
  | .select _, h => by
    obtain rfl := Option.some.inj h
    simp [render, behindFirst]
  | .operation left _ _, h => by
    have hleft : left.render = s.render ++ left.behindFirst := QueryBody.render_eq h
    simp [render, behindFirst, hleft, String.append_assoc]

/-- The selection that a query begins with. -/
def Query.first? : Query → Option Select
  | .mk [] body _ => body.first?
  | .mk (_ :: _) _ _ => none

/-- The text of a query behind its first selection. -/
def Query.behindFirst : Query → String
  | .mk _ body clauses => body.behindFirst ++ renderPieces clauses

/-- The text of a query begins with its first selection. -/
theorem Query.render_eq {q : Query} {s : Select} (h : q.first? = some s) :
    q.render = s.render ++ q.behindFirst := by
  obtain ⟨definitions, body, clauses⟩ := q
  cases definitions with
  | cons => cases h
  | nil => simp [render, behindFirst, renderPieces, QueryBody.render_eq h, String.append_assoc]

/-- A query that is one selection from one named table or view. -/
def Query.IsOfOneTable (q : Query) : Prop :=
  ∃ s clauses path, q = .mk [] (.select s) clauses ∧ s.sources = [.table path [] []]

/-- A query that puts several selections together, with a selection as the first of them. -/
def Query.IsOperationOn (q : Query) (s : Select) : Prop :=
  ∃ left operator right clauses,
    q = .mk [] (.operation left operator right) clauses ∧ left.first? = some s

/-! ## Texts that can be told apart -/

/-- Text behind a selection or a part of it that begins neither sources nor a condition. -/
structure IsOtherClause (cs : List Char) : Prop where
  follows : FollowsItems cs
  noFrom : startsFrom cs = false
  noWhere : startsWhere cs = false

/-- A source that is more than a name has blanks or ends with a parenthesis. -/
def Source.IsLegible (source : Source) : Prop :=
  (∃ path, source = .table path [] []) ∨
    (∃ c ∈ source.render.toList, Unicode.isBlank c = true) ∨
      source.render.toList.getLast? = some ')'

/-- The parts of a selection can be told apart in its text. -/
structure Select.IsLegible (s : Select) : Prop where
  /-- Items stand behind the keyword. -/
  heading : s.heading.toList = ' ' :: s.listed
  items : IsItemText s.listed
  /-- A table that the rows go into stands behind its own keyword. -/
  target : renderPieces s.target = "" ∨
    ∃ rest, (renderPieces s.target).toList = " INTO ".toList ++ rest
  sources : s.sources ≠ [] → IsSourceText s.sourceText.toList
  named : ∀ source ∈ s.sources, source.IsLegible

/-- The parts of a view can be told apart in its text, as far as its first selection goes. -/
structure ViewDefinition.IsLegible (v : ViewDefinition) : Prop extends v.HasLegibleHeader where
  /-- A query that does not begin with a selection does not look like one. -/
  noSelection : v.query.first? = none → word? "SELECT".toList v.query.render.toList = none
  selection : ∀ s, v.query.first? = some s → s.IsLegible
  /-- If there is no condition, what stands in its place is known by its first word. Behind a
  condition anything may stand. -/
  behind : ∀ s, v.query.first? = some s → s.condition = none →
    IsOtherClause (renderPieces s.clauses ++ v.query.behindFirst).toList

/-! ## What is read -/

/-- A condition comes next where the word for it stands. -/
theorem startsWhere_where (cs : List Char) : startsWhere (" WHERE ".toList ++ cs) = true := by
  have hblanks : blanks? (" WHERE ".toList ++ cs) = some ("WHERE".toList ++ ' ' :: cs) :=
    blanks?_space ⟨'W', _, rfl, by decide⟩
  have hends : endsWord (' ' :: cs) = true := by
    have hspace : Pattern.CharSet.word.contains ' ' = false := by decide +kernel
    simp [endsWord, hspace]
  rw [startsWhere, startsKeyword, hblanks, Option.bind_some, word?_append, Option.any_some, hends]

/-- Behind the sources comes a condition or another clause. -/
theorem follows_condition {condition : Option Expr} {behind : String}
    (h : condition = none → IsOtherClause behind.toList) :
    FollowsItems (renderWhere condition ++ behind).toList ∧
      startsFrom (renderWhere condition ++ behind).toList = false ∧
      ((renderWhere condition ++ behind).toList = [] ∨
          startsWhere (renderWhere condition ++ behind).toList = true ↔
        condition.isSome = true ∨ behind = "") := by
  cases condition with
  | none =>
    have hother := h rfl
    simp only [renderWhere, String.empty_append, Option.isSome_none, Bool.false_eq_true, false_or,
      hother.noWhere, or_false, String.toList_eq_nil_iff, and_true]
    exact ⟨hother.follows, hother.noFrom⟩
  | some e =>
    have htext : (renderWhere (some e) ++ behind).toList =
        " WHERE ".toList ++ (e.render ++ behind).toList := by
      simp [renderWhere]
    rw [htext]
    refine ⟨.inr ⟨'W', _, rfl, by decide, by decide⟩, ?_, ?_⟩
    · have hblanks (cs : List Char) :
          blanks? (" WHERE ".toList ++ cs) = some ("WHERE ".toList ++ cs) :=
        blanks?_space ⟨'W', _, rfl, by decide⟩
      rw [startsFrom, startsKeyword, hblanks]
      rfl
    · exact iff_of_true (.inr (startsWhere_where _)) (.inl rfl)

/-- The selection that is read as the whole query of a view: its first one, if it has sources that
are written without blanks, and behind them a condition or nothing at all. -/
structure Query.Reads (q : Query) (s : Select) : Prop where
  first : q.first? = some s
  target : renderPieces s.target = ""
  sources : s.sources ≠ []
  noBlank : ∀ c ∈ s.sourceText.toList, Unicode.isBlank c = false
  ends : s.condition.isSome = true ∨ renderPieces s.clauses ++ q.behindFirst = ""

/-- A selection that is read is the whole query, or it has a condition behind which others are
overlooked. -/
theorem Query.Reads.isOperationOn {q : Query} {s : Select} (h : q.Reads s) :
    (∃ clauses, q = .mk [] (.select s) clauses) ∨
      q.IsOperationOn s ∧ s.condition.isSome = true := by
  obtain ⟨definitions, body, clauses⟩ := q
  have hfirst := h.first
  cases definitions with
  | cons => cases hfirst
  | nil =>
    cases body with
    | select s' =>
      obtain rfl : s' = s := Option.some.inj hfirst
      exact .inl ⟨clauses, rfl⟩
    | nested => cases hfirst
    | rows => cases hfirst
    | operation left operator right =>
      refine .inr ⟨⟨left, operator, right, clauses, rfl, hfirst⟩, h.ends.resolve_right ?_⟩
      simp [behindFirst, QueryBody.behindFirst, String.append_eq_empty_iff]

/-- Sources that are written without blanks are a single one. -/
theorem Query.Reads.exists_source {q : Query} {s : Select} (h : q.Reads s) :
    ∃ source, s.sources = [source] ∧ s.sourceText = source.render := by
  have hnoBlank := h.noBlank
  unfold Select.sourceText at hnoBlank ⊢
  cases hsources : s.sources with
  | nil => exact absurd hsources h.sources
  | cons source sources =>
    rw [hsources] at hnoBlank
    cases sources with
    | nil => exact ⟨source, rfl, by simp [renderSources, commas]⟩
    | cons other sources =>
      have hspace := hnoBlank ' ' (by simp [renderSources, commas])
      rw [isBlank_space] at hspace
      cases hspace

/-- The text of a query behind the items of its first selection. -/
def Query.behindItems (q : Query) (s : Select) : List Char :=
  (renderPieces s.target).toList ++ ((renderFrom s.sources).toList ++
    (renderWhere s.condition ++ (renderPieces s.clauses ++ q.behindFirst)).toList)

/-- The items of the first selection stand behind its keyword. -/
theorem Query.toList_render {q : Query} {s : Select} (hs : s.IsLegible) (h : q.first? = some s) :
    q.render.toList = "SELECT".toList ++ ' ' :: (s.listed ++ q.behindItems s) := by
  have hheading := hs.heading
  rw [q.render_eq h, s.render_eq, behindItems, ← List.cons_append, ← hheading]
  simp only [String.toList_append, List.append_assoc]

/-- What stands behind the items of a legible selection follows items. -/
theorem Query.followsItems_behindItems {q : Query} {s : Select} (hs : s.IsLegible)
    (hbehind : s.condition = none →
      IsOtherClause (renderPieces s.clauses ++ q.behindFirst).toList) :
    FollowsItems (q.behindItems s) := by
  have htarget : FollowsItems (renderPieces s.target).toList := by
    rcases hs.target with hnone | ⟨rest, hrest⟩
    · exact .inl (by rw [hnone]; rfl)
    · exact .inr ⟨'I', _, hrest, by decide, by decide⟩
  have hfrom : FollowsItems (renderFrom s.sources).toList := by
    cases hsources : s.sources with
    | nil => exact .inl rfl
    | cons source sources =>
      exact .inr ⟨'F', _, by simp [renderFrom]; rfl, by decide, by decide⟩
  exact htarget.append (hfrom.append (follows_condition hbehind).1)

/-- The source that is read behind the items is the text of all sources. -/
theorem Query.readSource?_behindItems_iff {q : Query} {s : Select} (hs : s.IsLegible)
    (h : q.first? = some s)
    (hbehind : s.condition = none →
      IsOtherClause (renderPieces s.clauses ++ q.behindFirst).toList)
    {source : List Char} :
    readSource? (q.behindItems s) = some source ↔ q.Reads s ∧ source = s.sourceText.toList := by
  obtain ⟨hfollows, hnoFrom, hends⟩ := follows_condition hbehind
  have hnone {cs : List Char} (hcs : startsFrom cs = false) : readSource? cs ≠ some source := by
    intro hread
    rw [startsFrom_of_readSource? hread] at hcs
    cases hcs
  unfold behindItems
  by_cases htarget : renderPieces s.target = ""
  · rw [htarget, String.toList_empty, List.nil_append]
    by_cases hsources : s.sources = []
    · rw [hsources]
      exact iff_of_false (hnone hnoFrom) fun hreads => hreads.1.sources hsources
    · rw [s.renderFrom_sources hsources, String.toList_append, List.append_assoc,
        readSource?_from_iff (hs.sources hsources) hfollows.standsApart, hends]
      constructor
      · rintro ⟨rfl, hblank, hends⟩
        exact ⟨⟨h, htarget, hsources, hblank, hends⟩, rfl⟩
      · rintro ⟨hreads, rfl⟩
        exact ⟨rfl, hreads.noBlank, hreads.ends⟩
  · refine iff_of_false (hnone ?_) fun hreads => htarget hreads.1.target
    obtain ⟨rest, hrest⟩ := hs.target.resolve_left htarget
    have hblanks (cs : List Char) : blanks? (" INTO ".toList ++ cs) = some ("INTO ".toList ++ cs) :=
      blanks?_space ⟨'I', _, rfl, by decide⟩
    rw [hrest, List.append_assoc, startsFrom, startsKeyword, hblanks]
    rfl

namespace ViewDefinition

/-- The projection that a view of a selection is read as. -/
def projection (v : ViewDefinition) (s : Select) : Projection :=
  { name := renderPath v.name, items := String.ofList s.listed, source := s.sourceText }

/-- If what is read off a view are items, they and the source are those of its first selection. -/
theorem readView?_eq_some_iff {v : ViewDefinition} (h : v.IsLegible) {p : Projection} :
    readView? v.render = some p ∧ ReadsAsItems p.items.toList ↔
      (v.hasPlainKind && v.hasPlainName) = true ∧
        ∃ s, v.query.Reads s ∧ p = v.projection s ∧ ReadsAsItems s.listed := by
  rw [readView?_render h.toHasLegibleHeader]
  cases v.hasPlainKind && v.hasPlainName with
  | false => simp
  | true =>
    rw [if_pos rfl, readSelection?]
    cases hfirst : v.query.first? with
    | none =>
      have hphrase : phrase? ["SELECT"] v.query.render.toList = none := by
        rw [phrase?, h.noSelection hfirst]
        rfl
      rw [hphrase]
      refine iff_of_false (by simp) ?_
      · rintro ⟨-, s, hreads, -⟩
        rw [hreads.first] at hfirst
        cases hfirst
    | some s =>
      have hs := h.selection s hfirst
      have hbehind := h.behind s hfirst
      have hfollows := Query.followsItems_behindItems hs hbehind
      obtain ⟨c, items, hlisted, hc⟩ := hs.items.visible
      have hitems : IsItemText (c :: items) := hlisted ▸ hs.items
      have hvisible : Visible (s.listed ++ v.query.behindItems s) := hs.items.visible.append _
      have hfound (before source : List Char) :
          untilSource? (items ++ v.query.behindItems s) = some (before, source) ∧
              ReadsAsItems (c :: before) ↔
            before = items ∧ ReadsAsItems (c :: items) ∧
              v.query.Reads s ∧ source = s.sourceText.toList := by
        rw [untilSource?_items_iff hitems hfollows,
          Query.readSource?_behindItems_iff hs hfirst hbehind]
      rw [Query.toList_render hs hfirst, phrase?_cons hvisible, hlisted]
      simp only [phrase?, Option.bind_eq_bind, Option.bind_some, List.cons_append,
        Option.bind_eq_some_iff, Option.pure_def, Option.some.injEq, Prod.exists, true_and]
      constructor
      · rintro ⟨⟨before, source, huntil, rfl⟩, hreads⟩
        rw [String.toList_ofList] at hreads
        obtain ⟨rfl, hitems, hselects, rfl⟩ := (hfound before source).mp ⟨huntil, hreads⟩
        exact ⟨s, hselects, by simp [projection, hlisted], hlisted ▸ hitems⟩
      · rintro ⟨s', hselects, rfl, hreads⟩
        obtain rfl : s = s' := Option.some.inj (hfirst.symm.trans hselects.first)
        have hitems : ReadsAsItems (c :: items) := hlisted ▸ hreads
        obtain ⟨huntil, -⟩ := (hfound items s.sourceText.toList).mpr ⟨rfl, hitems, hselects, rfl⟩
        refine ⟨⟨items, _, huntil, by simp [projection, hlisted]⟩, ?_⟩
        rwa [projection, String.toList_ofList]

/-! ## Views of the first selection only -/

/-- A view whose query is cut down to a selection. -/
def onlyFirst (v : ViewDefinition) (s : Select) : ViewDefinition :=
  { v with query := .mk [] (.select s) [] }

/-- A legible view stays so when its query is cut down to its first selection. -/
theorem IsLegible.onlyFirst {v : ViewDefinition} (h : v.IsLegible) {s : Select}
    (hfirst : v.query.first? = some s) (hcondition : s.condition.isSome = true) :
    (v.onlyFirst s).IsLegible where
  parameters := h.parameters
  name := h.name
  noBlank := h.noBlank
  options := h.options
  query := ⟨'S', _, Query.toList_render (h.selection s hfirst) rfl, by decide⟩
  noSelection := fun hnone => by cases hnone
  selection := fun s' hs' => by
    obtain rfl : s = s' := Option.some.inj hs'
    exact h.selection s hfirst
  behind := fun s' hs' hnone => by
    obtain rfl : s = s' := Option.some.inj hs'
    rw [hnone] at hcondition
    cases hcondition

/-- If the first selection has a condition, it makes no difference to what is read whether others
come behind it. -/
theorem reads_onlyFirst_iff {v : ViewDefinition} {s : Select} (hfirst : v.query.first? = some s)
    (hcondition : s.condition.isSome = true) {s' : Select} :
    (v.onlyFirst s).query.Reads s' ↔ v.query.Reads s' := by
  constructor
  · intro h
    obtain rfl : s = s' := Option.some.inj h.first
    exact { h with first := hfirst, ends := .inl hcondition }
  · intro h
    obtain rfl : s = s' := Option.some.inj (hfirst.symm.trans h.first)
    exact { h with first := rfl, ends := .inl hcondition }

end ViewDefinition

end TableTypes.Sql
