import TableTypes.Text.Lines
import TableTypes.Text.Unquoted

/-!
# Lists of labels

A list of labels holds constants between single quotes, where a quote in a label is written twice.
If there are no constants, the words between commas are the labels.
-/

namespace TableTypes.Sql

/-- The constant that ends at the next quote, after its opening quote, and the text behind it. Two
quotes are a quote in the constant as long as a closing quote follows. -/
def constant? : List Char → Option (List Char × List Char)
  | [] => none
  | '\'' :: '\'' :: rest =>
    match constant? rest with
    | some (value, after) => some ('\'' :: value, after)
    | none => some ([], '\'' :: rest)
  | c :: rest =>
    if c = '\'' then some ([], rest)
    else (constant? rest).map fun (value, after) => (c :: value, after)

/-- A constant takes a character at least. -/
theorem length_constant? {cs value after : List Char} (h : constant? cs = some (value, after)) :
    after.length < cs.length := by
  fun_induction constant? cs generalizing value after with
  | case1 => cases h
  | case2 rest v a hr ih => cases h; have := ih hr; simp only [List.length_cons]; omega
  | case3 rest hr ih => cases h; simp
  | case4 rest h2 => cases h; simp
  | case5 c rest h2 hc ih =>
    obtain ⟨⟨v, a⟩, hva, he⟩ := Option.map_eq_some_iff.1 h
    simp only [Prod.mk.injEq] at he
    have := ih hva
    simp only [List.length_cons, ← he.2]
    omega

/-- The constants in a text. -/
def constants : List Char → List (List Char)
  | [] => []
  | c :: rest =>
    if c = '\'' then
      match _h : constant? rest with
      | some (value, after) => value :: constants after
      | none => constants rest
    else constants rest
termination_by cs => cs.length
decreasing_by
  · have := length_constant? _h; simp only [List.length_cons]; omega
  · simp
  · simp

/-- The labels in a text. -/
def labelsOf (cs : List Char) : List String :=
  let found : List (List Char) :=
    match constants cs with
    | [] => ((Text.splitOn ',' cs).map Text.unquote).filter fun label => !label.isEmpty
    | found => found
  found.map String.ofList

end TableTypes.Sql
