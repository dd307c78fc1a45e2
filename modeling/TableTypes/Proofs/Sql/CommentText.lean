import TableTypes.Proofs.Sql.EnumText

/-!
# The canonical text of a comment

The text of a comment on a column is read back with the quotes in it joined in pairs, although it is
written as it is. So a text is read back as it is exactly when no two quotes in it stand beside each
other. Comments that are cleared or made on other objects are not read.
-/

namespace TableTypes.Sql

/-! ## Joined quotes -/

/-- Joining quotes makes a text no longer. -/
theorem length_joinQuotes_le (cs : List Char) : (joinQuotes cs).length ≤ cs.length := by
  fun_induction joinQuotes cs with
  | case1 => exact Nat.le_refl _
  | case2 rest ih => simp only [List.length_cons]; omega
  | case3 c rest _ ih => simp only [List.length_cons]; omega

/-- A text without two quotes beside each other stays as it is, and any other text gets shorter. -/
theorem joinQuotes_eq_self_iff {cs : List Char} :
    joinQuotes cs = cs ↔ ¬['\'', '\''] <:+: cs := by
  fun_induction joinQuotes cs with
  | case1 => simp
  | case2 rest ih =>
    refine iff_of_false (fun h => ?_) (not_not.mpr ⟨[], rest, rfl⟩)
    have hlength := congrArg List.length h
    have hle := length_joinQuotes_le rest
    simp only [List.length_cons] at hlength
    omega
  | case3 c rest hpair ih =>
    have hbegin : ¬['\'', '\''] <+: c :: rest := by
      rintro ⟨tail, htail⟩
      obtain ⟨rfl, rfl⟩ := List.cons_eq_cons.mp htail
      exact hpair tail rfl rfl
    rw [List.cons_inj_right, ih, List.infix_cons_iff, or_iff_right hbegin]

/-- A text with each pair of quotes in it joined. -/
def joinedText (text : String) : String :=
  String.ofList (joinQuotes text.toList)

/-- Joining quotes makes no difference exactly where no two of them stand beside each other. -/
theorem joinedText_eq_self_iff {text : String} :
    joinedText text = text ↔ ¬['\'', '\''] <:+: text.toList := by
  rw [joinedText, ← joinQuotes_eq_self_iff, ← String.toList_inj, String.toList_ofList]

/-! ## Reading -/

/-- A name that is written without dots and blanks. -/
def Name.IsUnbroken (n : Name) : Prop :=
  ∀ c ∈ n.render.toList, c ≠ '.' ∧ Unicode.isBlank c = false

instance (n : Name) : Decidable n.IsUnbroken :=
  decidable_of_iff (n.render.toList.all fun c => c ≠ '.' && !Unicode.isBlank c) <| by
    simp [Name.IsUnbroken]

/-- A name as it is read off its text. -/
def Name.asRead (n : Name) : String :=
  String.ofList (Text.unquote n.render.toList)

/-- The kinds of objects other than columns that can have comments. -/
def otherObjects : List String :=
  ["DATABASE", "DOMAIN", "EXTENSION", "FUNCTION", "INDEX", "MATERIALIZED VIEW", "PROCEDURE", "ROLE",
    "SCHEMA", "SEQUENCE", "TABLE", "TYPE", "USER", "VIEW"]

/-- A comment that is made only if its object exists is not read. -/
theorem readComment?_of_ifExists {c : Comment} (h : c.ifExists = true) :
    readComment? c.render = none := by
  obtain ⟨rest, hrest⟩ : ∃ rest, c.render.toList = "COMMENT".toList ++ ' ' :: 'I' :: rest := by
    simp [Comment.render, h]
  rw [readComment?, hrest, phrase?_cons ⟨'I', rest, rfl, by decide⟩,
    phrase?_eq_none rfl (by decide)]
  rfl

/-- A comment on an object other than a column is not read. -/
theorem readComment?_of_otherObject {c : Comment} (h : c.object ∈ otherObjects) :
    readComment? c.render = none := by
  cases hifExists : c.ifExists with
  | true => exact readComment?_of_ifExists hifExists
  | false =>
    -- the name of no such object begins as the word `COLUMN` does
    have hfirst : otherObjects.all (fun object => object.toList.head?.any fun letter =>
        !Unicode.foldEq 'C' letter && !Unicode.isBlank letter) = true := by decide
    obtain ⟨letter, hletter, hsigns⟩ :=
      Option.any_eq_true _ _ |>.mp (List.all_eq_true.mp hfirst _ h)
    obtain ⟨hother, hvisible⟩ : Unicode.foldEq 'C' letter = false ∧
        Unicode.isBlank letter = false := by simpa using hsigns
    obtain ⟨letters, hobject⟩ := List.head?_eq_some_iff.mp hletter
    obtain ⟨rest, hrest⟩ : ∃ rest, c.render.toList =
        "COMMENT".toList ++ ' ' :: ("ON".toList ++ ' ' :: letter :: rest) := by
      simp [Comment.render, hifExists, hobject]
    have hon (cs : List Char) : Visible ("ON".toList ++ cs) := ⟨'O', _, rfl, by decide⟩
    rw [readComment?, hrest, phrase?_cons (hon _), phrase?_cons ⟨letter, rest, rfl, hvisible⟩,
      phrase?_eq_none rfl hother]
    rfl

/-- The text that a comment gives, as it is written. -/
def givenText (text : Option String) : List Char :=
  text.elim "NULL".toList fun text => '\'' :: (text.toList ++ ['\''])

/-- The text of a comment begins with its quote or with `NULL`. -/
theorem visible_givenText (text : Option String) : Visible (givenText text) := by
  cases text with
  | none => exact ⟨'N', "ULL".toList, rfl, by decide⟩
  | some text => exact ⟨'\'', text.toList ++ ['\''], rfl, by decide⟩

/-- A comment on a column is read with its quotes joined. -/
theorem readComment?_render {c : Comment} (hifExists : c.ifExists = false)
    (hobject : c.object = "COLUMN") (hne : renderPath c.name ≠ "")
    (hblank : ∀ ch ∈ (renderPath c.name).toList, Unicode.isBlank ch = false) :
    readComment? c.render =
      c.text.map fun text => (renderPath c.name, joinedText text) := by
  have hname : (renderPath c.name).toList ≠ [] := mt String.toList_eq_nil_iff.mp hne
  have hvisible : Visible (renderPath c.name).toList := .of_noBlank hname hblank
  have hrender : c.render.toList = "COMMENT".toList ++ ' ' :: ("ON".toList ++ ' ' ::
      ("COLUMN".toList ++ ' ' :: ((renderPath c.name).toList ++
        ' ' :: ("IS".toList ++ ' ' :: givenText c.text)))) := by
    cases htext : c.text <;> simp [Comment.render, hifExists, hobject, htext, givenText]
  have hon (cs : List Char) : Visible ("ON".toList ++ cs) := ⟨'O', _, rfl, by decide⟩
  have hcolumn (cs : List Char) : Visible ("COLUMN".toList ++ cs) := ⟨'C', _, rfl, by decide⟩
  have his (cs : List Char) : Visible ("IS".toList ++ cs) := ⟨'I', _, rfl, by decide⟩
  rw [readComment?, hrender, phrase?_cons (hon _), phrase?_cons (hcolumn _),
    phrase?_cons (hvisible.append _)]
  simp only [phrase?, Option.bind_eq_bind, Option.bind_some, run?_append_space hname hblank,
    blanks?_space (his _), word?_append, blanks?_space (visible_givenText _)]
  cases htext : c.text with
  | none => simp [givenText, sign?]
  | some text => simp [givenText, sign?, joinedText]

end TableTypes.Sql
