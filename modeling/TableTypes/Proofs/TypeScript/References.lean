import TableTypes.TypeScript.References

/-!
# What a type expression mentions

The references of a type expression are computed as a list. Here they are described place by place:
a name is mentioned where it stands as a named type, as the head of a generic, or as the whole of a
type text of the user, in any part of the expression except the checked type of a conditional.
-/

namespace TableTypes.TypeScript

/-- A name stands in a type expression in a place that refers to a declaration. -/
inductive Mentions : TypeExpr → String → Prop where
  | name (n : String) (isTable : Bool) : Mentions (.name n isTable) n
  | raw (code : String) : Mentions (.raw code) code
  | element {e : TypeExpr} {n : String} : Mentions e n → Mentions (.array e) n
  | member {es : List TypeExpr} {e : TypeExpr} {n : String} :
      e ∈ es → Mentions e n → Mentions (.union es) n
  | value {ps : List (Property TypeExpr)} {p : Property TypeExpr} {n : String} :
      p ∈ ps → Mentions p.value n → Mentions (.object ps) n
  | head (n : String) (args : List TypeExpr) : Mentions (.generic n args) n
  | argument {head : String} {args : List TypeExpr} {e : TypeExpr} {n : String} :
      e ∈ args → Mentions e n → Mentions (.generic head args) n
  | extended {check n : String} {e t f : TypeExpr} :
      Mentions e n → Mentions (.conditional check e t f) n
  | whenTrue {check n : String} {e t f : TypeExpr} :
      Mentions t n → Mentions (.conditional check e t f) n
  | whenFalse {check n : String} {e t f : TypeExpr} :
      Mentions f n → Mentions (.conditional check e t f) n

/-- The references of types are those of each of them in turn. -/
theorem referencesAll_eq_flatMap (es : List TypeExpr) :
    referencesAll es = es.flatMap TypeExpr.references := by
  induction es with
  | nil => rfl
  | cons e es ih => rw [referencesAll, ih, List.flatMap_cons]

/-- The references of properties are those of each value in turn. -/
theorem referencesProperties_eq_flatMap (ps : List (Property TypeExpr)) :
    referencesProperties ps = ps.flatMap (·.value.references) := by
  induction ps with
  | nil => rfl
  | cons p ps ih =>
    obtain ⟨key, value, comment⟩ := p
    rw [referencesProperties, ih, List.flatMap_cons, referencesProperty]

/-- A list of type expressions refers to what one of them refers to. -/
theorem mem_referencesAll {es : List TypeExpr} {n : String} :
    n ∈ referencesAll es ↔ ∃ e ∈ es, n ∈ e.references := by
  rw [referencesAll_eq_flatMap, List.mem_flatMap]

/-- The properties of an object refer to what the type of one of them refers to. -/
theorem mem_referencesProperties {ps : List (Property TypeExpr)} {n : String} :
    n ∈ referencesProperties ps ↔ ∃ p ∈ ps, n ∈ p.value.references := by
  rw [referencesProperties_eq_flatMap, List.mem_flatMap]

/-- The references of a type expression are the names that it mentions. -/
theorem mem_references_iff {e : TypeExpr} {n : String} : n ∈ e.references ↔ Mentions e n := by
  constructor
  · intro h
    induction e using TypeExpr.induction with
    | name m isTable =>
      rw [TypeExpr.references, List.mem_singleton] at h
      subst h
      exact .name _ _
    | literal value => simp [TypeExpr.references] at h
    | array element ih =>
      rw [TypeExpr.references] at h
      exact .element (ih h)
    | union members ih =>
      rw [TypeExpr.references, mem_referencesAll] at h
      obtain ⟨e, he, hn⟩ := h
      exact .member he (ih e he hn)
    | object properties ih =>
      rw [TypeExpr.references, mem_referencesProperties] at h
      obtain ⟨p, hp, hn⟩ := h
      exact .value hp (ih p hp hn)
    | generic head args ih =>
      rw [TypeExpr.references, List.mem_cons, mem_referencesAll] at h
      rcases h with rfl | ⟨e, he, hn⟩
      · exact .head _ _
      · exact .argument he (ih e he hn)
    | infer m => simp [TypeExpr.references] at h
    | conditional check extended whenTrue whenFalse ihe iht ihf =>
      simp only [TypeExpr.references, List.mem_append] at h
      rcases h with (h | h) | h
      · exact .extended (ihe h)
      · exact .whenTrue (iht h)
      · exact .whenFalse (ihf h)
    | moduleExport reference => simp [TypeExpr.references] at h
    | raw code =>
      rw [TypeExpr.references, List.mem_singleton] at h
      subst h
      exact .raw _
  · intro h
    induction h with
    | name n isTable => simp [TypeExpr.references]
    | raw code => simp [TypeExpr.references]
    | element _ ih => simpa [TypeExpr.references] using ih
    | member he _ ih =>
      rw [TypeExpr.references, mem_referencesAll]
      exact ⟨_, he, ih⟩
    | value hp _ ih =>
      rw [TypeExpr.references, mem_referencesProperties]
      exact ⟨_, hp, ih⟩
    | head n args => simp [TypeExpr.references]
    | argument he _ ih =>
      rw [TypeExpr.references, List.mem_cons, mem_referencesAll]
      exact .inr ⟨_, he, ih⟩
    | extended _ ih => simp [TypeExpr.references, ih]
    | whenTrue _ ih => simp [TypeExpr.references, ih]
    | whenFalse _ ih => simp [TypeExpr.references, ih]

end TableTypes.TypeScript
