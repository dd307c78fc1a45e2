import Mathlib.Data.List.TakeDrop
import TableTypes.Sql.Reading
import TableTypes.Sql.Render

/-!
# The canonical text of an enum

The text of `CREATE TYPE name AS ENUM (labels)` is read back: the name as it is written and what is
read as labels between the parentheses, as long as the name has no blanks.
-/

namespace TableTypes.Sql

/-- A word is passed over where it stands. -/
theorem word?_append (word rest : List Char) : word? word (word ++ rest) = some rest := by
  induction word with
  | nil => rfl
  | cons w word ih => simp [word?, Unicode.foldEq, ih]

/-- Text that does not begin with a blank. -/
def Visible (cs : List Char) : Prop :=
  ∃ c rest, cs = c :: rest ∧ Unicode.isBlank c = false

/-- Text that does not begin with a blank does not do so with more behind it. -/
theorem Visible.append {cs : List Char} (h : Visible cs) (rest : List Char) :
    Visible (cs ++ rest) := by
  obtain ⟨c, cs, rfl, hc⟩ := h
  exact ⟨c, cs ++ rest, rfl, hc⟩

/-- Text without blanks does not begin with one. -/
theorem Visible.of_noBlank {cs : List Char} (hne : cs ≠ [])
    (h : ∀ c ∈ cs, Unicode.isBlank c = false) : Visible cs := by
  obtain ⟨c, rest, rfl⟩ := List.exists_cons_of_ne_nil hne
  exact ⟨c, rest, rfl, h c List.mem_cons_self⟩

/-- A space is a blank. -/
theorem isBlank_space : Unicode.isBlank ' ' = true := by
  decide

/-- A single blank is passed over. -/
theorem blanks?_space {cs : List Char} (h : Visible cs) : blanks? (' ' :: cs) = some cs := by
  obtain ⟨c, rest, rfl, hc⟩ := h
  simp [blanks?, isBlank_space, hc]

/-- A word of a phrase is passed over with the blank behind it. -/
theorem phrase?_cons {word : String} {words : List String} {cs : List Char} (h : Visible cs) :
    phrase? (word :: words) (word.toList ++ ' ' :: cs) = phrase? words cs := by
  simp [phrase?, word?_append, blanks?_space h]

/-- A word is not there where another letter comes first. -/
theorem word?_eq_none {word letters : List Char} {w : Char} (hword : word = w :: letters) {c : Char}
    (hc : Unicode.foldEq w c = false) (cs : List Char) : word? word (c :: cs) = none := by
  simp [hword, word?, hc]

/-- A phrase is not found where its first letter is not. -/
theorem phrase?_eq_none {word : String} {w : Char} {letters : List Char}
    (hword : word.toList = w :: letters) {c : Char} (hc : Unicode.foldEq w c = false)
    (words : List String) (cs : List Char) : phrase? (word :: words) (c :: cs) = none := by
  simp [phrase?, word?_eq_none hword hc]

/-- The characters before the first blank, and the rest. -/
theorem run?_append {cs rest : List Char} (hne : cs ≠ [])
    (hblank : ∀ c ∈ cs, Unicode.isBlank c = false)
    (hrest : ∀ c ∈ rest.head?, Unicode.isBlank c = true) :
    run? (cs ++ rest) = some (cs, rest) := by
  have hspan : (cs ++ rest).span (!Unicode.isBlank ·) = (cs, rest) := by
    rw [List.span_eq_takeWhile_dropWhile, List.takeWhile_append_of_pos (by simpa using hblank),
      List.dropWhile_append_of_pos (by simpa using hblank)]
    cases rest with
    | nil => simp
    | cons c rest => simp [hrest c rfl]
  obtain ⟨c, cs, rfl⟩ := List.exists_cons_of_ne_nil hne
  rw [run?, hspan]

/-- The characters before a blank are read together. -/
theorem run?_append_space {cs : List Char} (hne : cs ≠ [])
    (hblank : ∀ c ∈ cs, Unicode.isBlank c = false) (rest : List Char) :
    run? (cs ++ ' ' :: rest) = some (cs, ' ' :: rest) :=
  run?_append hne hblank (by simp [isBlank_space])

/-- What stands before a sign at the end. -/
theorem beforeLast?_append_singleton {sign : Char} (hsign : Unicode.isBlank sign = false)
    (cs : List Char) : beforeLast? sign (cs ++ [sign]) = some cs := by
  have htrim : Unicode.trimEnd (cs ++ [sign]) = cs ++ [sign] := by
    simp [Unicode.trimEnd, hsign]
  simp [beforeLast?, htrim]

/-- Behind the name of a type stands what is read as its labels, if it is an enum. -/
theorem readEnum?_named {text : String} {name tail : List Char}
    (htext : text.toList =
      "CREATE".toList ++ ' ' :: ("TYPE".toList ++ ' ' :: (name ++ ' ' :: tail)))
    (hne : name ≠ []) (hblank : ∀ c ∈ name, Unicode.isBlank c = false) (htail : Visible tail) :
    readEnum? text = (phrase? ["AS"] tail).bind fun rest =>
      (word? "ENUM".toList rest).bind fun rest =>
        ((sign? '(' (rest.dropWhile Unicode.isBlank)).bind (beforeLast? ')')).map fun labels =>
          (String.ofList name, labelsOf labels) := by
  have hvisible : Visible name := .of_noBlank hne hblank
  have htype (cs : List Char) : Visible ("TYPE".toList ++ cs) := ⟨'T', _, rfl, by decide⟩
  rw [readEnum?, htext, phrase?_cons (htype _), phrase?_cons (hvisible.append _)]
  simp only [phrase?, run?_append_space hne hblank, blanks?_space htail, Option.bind_eq_bind,
    Option.pure_def, Option.bind_some, Option.bind_assoc, Option.map_eq_bind, Function.comp_def]

/-- The name of an enum and its labels are read off its canonical text. -/
theorem readEnum?_render {path : Path} (labels : List Name) (hne : renderPath path ≠ "")
    (hblank : ∀ c ∈ (renderPath path).toList, Unicode.isBlank c = false) :
    readEnum? (Statement.type path (.enum labels)).render =
      some (renderPath path, labelsOf (commas (labels.map Name.render)).toList) := by
  have hname : (renderPath path).toList ≠ [] := mt String.toList_eq_nil_iff.mp hne
  let list := (commas (labels.map Name.render)).toList
  have hrender : (Statement.type path (.enum labels)).render.toList =
      "CREATE".toList ++ ' ' :: ("TYPE".toList ++ ' ' :: ((renderPath path).toList ++
        ' ' :: ("AS".toList ++ ' ' :: ("ENUM".toList ++ ' ' :: '(' :: (list ++ [')']))))) := by
    simp [Statement.render, TypeBody.render, list]
  have has (cs : List Char) : Visible ("AS".toList ++ cs) := ⟨'A', _, rfl, by decide⟩
  have henum (cs : List Char) : Visible ("ENUM".toList ++ cs) := ⟨'E', _, rfl, by decide⟩
  have hparenthesis : Unicode.isBlank '(' = false := by decide
  have hlabels : beforeLast? ')' (list ++ [')']) = some list :=
    beforeLast?_append_singleton (by decide) list
  rw [readEnum?_named hrender hname hblank (has _), phrase?_cons (henum _)]
  simp only [phrase?, Option.bind_some, word?_append]
  simp [isBlank_space, hparenthesis, sign?, hlabels, list]

/-- The text of a type of another kind is not that of an enum. -/
theorem readEnum?_eq_none {path : Path} {body : TypeBody} (hne : renderPath path ≠ "")
    (hblank : ∀ c ∈ (renderPath path).toList, Unicode.isBlank c = false)
    (hbody : ∀ labels, body ≠ .enum labels) :
    readEnum? (Statement.type path body).render = none := by
  have hname : (renderPath path).toList ≠ [] := mt String.toList_eq_nil_iff.mp hne
  have hnamed {tail : List Char} (hrender : body.render.toList = ' ' :: tail) :
      (Statement.type path body).render.toList =
        "CREATE".toList ++ ' ' :: ("TYPE".toList ++ ' ' :: ((renderPath path).toList ++
          ' ' :: tail)) := by
    simp [Statement.render, hrender]
  -- the word `ENUM` would have to stand where another word or a parenthesis begins
  have hother (c : Char) (hc : Unicode.isBlank c = false) (hletter : Unicode.foldEq 'E' c = false)
      (hrender : ∃ rest, body.render.toList = ' ' :: ("AS".toList ++ ' ' :: (c :: rest))) :
      readEnum? (Statement.type path body).render = none := by
    obtain ⟨rest, hrest⟩ := hrender
    have hword : word? "ENUM".toList (c :: rest) = none := word?_eq_none rfl hletter rest
    rw [readEnum?_named (hnamed hrest) hname hblank ⟨'A', _, rfl, by decide⟩,
      phrase?_cons ⟨c, rest, rfl, hc⟩, phrase?, Option.bind_some, hword, Option.bind_none]
  cases body with
  | enum labels => exact absurd rfl (hbody labels)
  | range options =>
    refine hother 'R' (by decide) (by decide) ⟨"ANGE (".toList ++ (commas options).toList ++ [')'],
      ?_⟩
    simp [TypeBody.render]
  | composite attributes =>
    have hrender : ∃ list, (TypeBody.composite attributes).render = " AS (" ++ list ++ ")" :=
      ⟨_, rfl⟩
    obtain ⟨list, hlist⟩ := hrender
    exact hother '(' (by decide) (by decide) ⟨list.toList ++ [')'], by simp [hlist]⟩
  | base options =>
    have hrender : (TypeBody.base options).render.toList =
        ' ' :: '(' :: ((commas options).toList ++ [')']) := by
      simp [TypeBody.render]
    rw [readEnum?_named (hnamed hrender) hname hblank ⟨'(', _, rfl, by decide⟩,
      phrase?_eq_none rfl (by decide), Option.bind_none]
  | none =>
    -- behind the name nothing follows
    have hvisible := Visible.of_noBlank hname hblank
    have htype : Visible ("TYPE".toList ++ ' ' :: (renderPath path).toList) :=
      ⟨'T', _, rfl, by decide⟩
    have hrender : (Statement.type path .none).render.toList =
        "CREATE".toList ++ ' ' :: ("TYPE".toList ++ ' ' :: (renderPath path).toList) := by
      simp [Statement.render, TypeBody.render]
    have hrun : run? (renderPath path).toList = some ((renderPath path).toList, []) := by
      have hall : ∀ c ∈ ([] : List Char).head?, Unicode.isBlank c = true := nofun
      simpa using run?_append hname hblank hall
    rw [readEnum?, hrender, phrase?_cons htype, phrase?_cons hvisible]
    simp [phrase?, hrun, blanks?]

/-! ## Labels -/

/-- A text without the quote is not changed between such quotes. -/
theorem escapeQuotes_eq_self {quote : Char} {cs : List Char} (h : quote ∉ cs)
    (afterBackslash : Bool) : escapeQuotes quote afterBackslash cs = cs := by
  induction cs generalizing afterBackslash with
  | nil => rfl
  | cons c rest ih =>
    obtain ⟨hc, hrest⟩ := List.ne_and_not_mem_of_not_mem_cons h
    cases rest with
    | nil => simp [escapeQuotes, Ne.symm hc]
    | cons next rest => rw [escapeQuotes, if_neg (Ne.symm hc), ih hrest]

/-- A text without single quotes is read up to the quote behind it. -/
theorem constant?_append {value rest : List Char} (hvalue : '\'' ∉ value)
    (hrest : rest.head? ≠ some '\'') : constant? (value ++ '\'' :: rest) = some (value, rest) := by
  induction value with
  | nil =>
    cases rest with
    | nil => rfl
    | cons c rest =>
      have hc : c ≠ '\'' := by simpa using hrest
      simp [constant?, hc]
  | cons c value ih =>
    obtain ⟨hc, hvalue⟩ := List.ne_and_not_mem_of_not_mem_cons hvalue
    simp [constant?, Ne.symm hc, ih hvalue]

end TableTypes.Sql
