import TableTypes.Interfaces.Rename
import TableTypes.Proofs.TypeScript.References

/-!
# Which names display names are put in for

Display names are put in for all names that occur in a type expression, also inside type text. These
are other names than its references, as a type text refers to the whole of itself. Nothing else is
read: types in which the same names are shown alike are written alike, and a type in which each name
is shown as itself stays as it is.
-/

namespace TableTypes

open TypeScript SymbolTable

/-! ## The names in a type text -/

/-- The name that has been begun, unless there is none or it follows a dot. -/
def begunName (dot : Bool) (word : List Char) : List String :=
  if word.isEmpty || dot then [] else [String.ofList word.reverse]

/-- The names in the rest of a text. `word` holds the letters of the name begun, in reverse, and
`dot` says whether a dot stands before it. -/
def namesInTextFrom (dot : Bool) (word : List Char) : List Char → List String
  | [] => begunName dot word
  | c :: rest =>
    if isNameChar c then namesInTextFrom dot (c :: word) rest
    else begunName dot word ++ namesInTextFrom (c = '.') [] rest

/-- The names in a type text: its runs of letters, numbers, underscores and dollar signs that do not
follow a dot. -/
def namesInText (text : String) : List String :=
  namesInTextFrom false [] text.toList

mutual

/-- The names that occur in a type expression as types, as heads of generics, or in type text. -/
def TypeScript.TypeExpr.occurring : TypeExpr → List String
  | .name n _ => [n]
  | .literal _ => []
  | .array element => element.occurring
  | .union members => occurringAll members
  | .object properties => occurringProperties properties
  | .generic head args => head :: occurringAll args
  | .infer _ => []
  | .conditional check extended whenTrue whenFalse =>
    namesInText check ++ extended.occurring ++ whenTrue.occurring ++ whenFalse.occurring
  | .moduleExport _ => []
  | .raw code => namesInText code

/-- The names that occur in some type expressions. -/
def occurringAll : List TypeExpr → List String
  | [] => []
  | e :: es => e.occurring ++ occurringAll es

/-- The names that occur in the types of some properties. -/
def occurringProperties : List (Property TypeExpr) → List String
  | [] => []
  | p :: ps => occurringProperty p ++ occurringProperties ps

/-- The names that occur in the type of a property. -/
def occurringProperty : Property TypeExpr → List String
  | ⟨_, value, _⟩ => value.occurring

end

/-- The names that occur in a definition, its parameters apart. -/
def TypeScript.Definition.occurring (d : Definition) : List String :=
  d.body.occurring.filter fun n => !d.params.contains n

/-! ## Putting in display names -/

section

variable {s s' : Symbols} {params : List String}

/-- Types are renamed one by one. -/
theorem renameAll_eq_map (s : Symbols) (params : List String) (es : List TypeExpr) :
    renameAll s params es = es.map (·.rename s params) := by
  induction es with
  | nil => rfl
  | cons e es ih => rw [renameAll, ih, List.map_cons]

/-- Properties are renamed one by one. -/
theorem renameProperties_eq_map (s : Symbols) (params : List String) (ps : Members) :
    renameProperties s params ps = ps.map (renameProperty s params) := by
  induction ps with
  | nil => rfl
  | cons p ps ih => rw [renameProperties, ih, List.map_cons]

/-- Of a property only the type is changed. -/
theorem renameProperty_eq (s : Symbols) (params : List String) (p : Property TypeExpr) :
    renameProperty s params p = { p with value := p.value.rename s params } := by
  obtain ⟨key, value, comment⟩ := p
  rw [renameProperty]

/-- A name stays if it has no display name, or itself. -/
def SymbolTable.KeepsName (symbols : Symbols) (params : List String) (name : String) : Prop :=
  (symbols.rename? params name).getD name = name

/-- A name behind a dot stays. -/
theorem renameWord_afterDot (symbols : Symbols) (params : List String) (word : List Char) :
    renameWord symbols params true word = word := by
  unfold renameWord
  split <;> rfl

/-- A name that follows no dot is written as its display name, or as it is if it has none. -/
theorem renameWord_of_not_afterDot (symbols : Symbols) (params : List String) (word : List Char) :
    renameWord symbols params false word =
      ((symbols.rename? params (String.ofList word)).getD (String.ofList word)).toList := by
  unfold renameWord
  cases symbols.rename? params (String.ofList word) <;> simp

/-- Only a name that is shown differently is written differently. -/
theorem renameWord_congr {dot : Bool} {word : List Char}
    (h : ∀ n ∈ begunName dot word, (s.rename? params n).getD n = (s'.rename? params n).getD n) :
    (if word.isEmpty then [] else renameWord s params dot word.reverse) =
      if word.isEmpty then [] else renameWord s' params dot word.reverse := by
  cases word with
  | nil => rfl
  | cons c word =>
    cases dot with
    | false =>
      have hname := h (String.ofList (c :: word).reverse) (by simp [begunName])
      rw [renameWord_of_not_afterDot, renameWord_of_not_afterDot, hname]
    | true => rw [renameWord_afterDot, renameWord_afterDot]

/-- Putting in display names reads no other names than those in the text. -/
theorem renameTextFrom_congr {dot : Bool} {word text : List Char}
    (h : ∀ n ∈ namesInTextFrom dot word text,
      (s.rename? params n).getD n = (s'.rename? params n).getD n) :
    renameTextFrom s params dot word text = renameTextFrom s' params dot word text := by
  induction text generalizing dot word with
  | nil =>
    rw [renameTextFrom, renameTextFrom]
    exact renameWord_congr h
  | cons c rest ih =>
    rw [namesInTextFrom] at h
    rw [renameTextFrom, renameTextFrom]
    split
    · next hc =>
      rw [if_pos hc] at h
      exact ih h
    · next hc =>
      rw [if_neg hc] at h
      rw [renameWord_congr fun n hn => h n (List.mem_append_left _ hn),
        ih fun n hn => h n (List.mem_append_right _ hn)]

/-- A text is renamed alike by symbols that rename its names alike. -/
theorem renameText_congr {text : String}
    (h : ∀ n ∈ namesInText text, (s.rename? params n).getD n = (s'.rename? params n).getD n) :
    renameText s params text = renameText s' params text :=
  congrArg String.ofList (renameTextFrom_congr h)

/-- The names in types are those in each of them in turn. -/
theorem occurringAll_eq_flatMap (es : List TypeExpr) :
    occurringAll es = es.flatMap TypeExpr.occurring := by
  induction es with
  | nil => rfl
  | cons e es ih => rw [occurringAll, ih, List.flatMap_cons]

/-- A name occurs in types exactly when it occurs in one of them. -/
theorem mem_occurringAll {es : List TypeExpr} {n : String} :
    n ∈ occurringAll es ↔ ∃ e ∈ es, n ∈ e.occurring := by
  rw [occurringAll_eq_flatMap, List.mem_flatMap]

/-- A name occurs in properties exactly when it occurs in one of their values. -/
theorem mem_occurringProperties {ps : List (Property TypeExpr)} {n : String} :
    n ∈ occurringProperties ps ↔ ∃ p ∈ ps, n ∈ p.value.occurring := by
  induction ps with
  | nil => simp [occurringProperties]
  | cons p ps ih =>
    obtain ⟨key, value, comment⟩ := p
    simp [occurringProperties, occurringProperty, ih]

/-- The names that occur in a type expression are all that putting in display names reads. -/
theorem TypeScript.TypeExpr.rename_congr {e : TypeExpr}
    (h : ∀ n ∈ e.occurring, (s.rename? params n).getD n = (s'.rename? params n).getD n) :
    e.rename s params = e.rename s' params := by
  induction e using TypeExpr.induction with
  | name n isTable => simp only [rename, h n (by simp [occurring])]
  | literal value => rfl
  | array element ih => rw [rename, rename, ih h]
  | union members ih =>
    rw [rename, rename, renameAll_eq_map, renameAll_eq_map, List.map_congr_left]
    exact fun e he => ih e he fun n hn => h n (mem_occurringAll.mpr ⟨e, he, hn⟩)
  | object properties ih =>
    rw [rename, rename, renameProperties_eq_map, renameProperties_eq_map]
    refine congrArg _ (List.map_congr_left fun p hp => ?_)
    rw [renameProperty_eq, renameProperty_eq,
      ih p hp fun n hn => h n (mem_occurringProperties.mpr ⟨p, hp, hn⟩)]
  | generic head args ih =>
    rw [rename, rename, h head (by simp [occurring]), renameAll_eq_map, renameAll_eq_map,
      List.map_congr_left]
    refine fun e he => ih e he fun n hn => h n ?_
    exact List.mem_cons_of_mem _ (mem_occurringAll.mpr ⟨e, he, hn⟩)
  | infer n => rfl
  | conditional check extended whenTrue whenFalse ihe iht ihf =>
    simp only [occurring, List.mem_append] at h
    rw [rename, rename, renameText_congr fun n hn => h n (.inl (.inl (.inl hn))),
      ihe fun n hn => h n (.inl (.inl (.inr hn))), iht fun n hn => h n (.inl (.inr hn)),
      ihf fun n hn => h n (.inr hn)]
  | moduleExport reference => rfl
  | raw code => rw [rename, rename, renameText_congr h]

/-! ## Types without symbols -/

/-- Without symbols no name is replaced. -/
theorem rename?_empty (style : Naming.IdentifierStyle) (params : List String) (name : String) :
    SymbolTable.rename? (.empty style) params name = none := by
  simp [rename?]

/-- Without symbols a text stays as it is. -/
theorem renameTextFrom_empty (style : Naming.IdentifierStyle) (params : List String) (dot : Bool)
    (word text : List Char) :
    renameTextFrom (.empty style) params dot word text = word.reverse ++ text := by
  induction text generalizing dot word with
  | nil => cases word <;> simp [renameTextFrom, renameWord, rename?_empty]
  | cons c rest ih =>
    rw [renameTextFrom]
    split
    · simp [ih]
    · cases word <;> simp [ih, renameWord, rename?_empty]

/-- Where there are no symbols there are no display names to put in. -/
theorem TypeScript.TypeExpr.rename_empty (style : Naming.IdentifierStyle) (params : List String)
    (e : TypeExpr) : e.rename (.empty style) params = e := by
  have htext (text : String) : renameText (.empty style) params text = text := by
    simp [renameText, renameTextFrom_empty]
  induction e using TypeExpr.induction with
  | name n isTable => cases isTable <;> simp [rename, rename?_empty]
  | literal value => rfl
  | array element ih => rw [rename, ih]
  | union members ih =>
    rw [rename, renameAll_eq_map, List.map_congr_left ih, List.map_id']
  | object properties ih =>
    have hall : ∀ p ∈ properties, renameProperty (.empty style) params p = p := by
      intro p hp
      rw [renameProperty_eq, ih p hp]
    rw [rename, renameProperties_eq_map, List.map_congr_left hall, List.map_id']
  | generic head args ih =>
    rw [rename, rename?_empty, renameAll_eq_map, List.map_congr_left ih, List.map_id']
    rfl
  | infer n => rfl
  | conditional check extended whenTrue whenFalse ihe iht ihf =>
    rw [rename, htext, ihe, iht, ihf]
  | moduleExport reference => rfl
  | raw code => rw [rename, htext]

/-- A type in which each name is shown as itself stays as it is. -/
theorem TypeScript.TypeExpr.rename_eq_self_of_keepsName {e : TypeExpr}
    (h : ∀ n ∈ e.occurring, s.KeepsName params n) : e.rename s params = e := by
  have hcongr : e.rename s params = e.rename (.empty .pascal) params := by
    refine rename_congr fun n hn => (h n hn).trans ?_
    rw [rename?_empty, Option.getD_none]
  rw [hcongr, rename_empty]

/-- A type in which no symbol occurs stays as it is. -/
theorem TypeScript.TypeExpr.rename_eq_self {e : TypeExpr}
    (h : ∀ n ∈ e.occurring, s.rename? params n = none) : e.rename s params = e := by
  refine rename_eq_self_of_keepsName fun n hn => ?_
  rw [KeepsName, h n hn, Option.getD_none]

end

end TableTypes
