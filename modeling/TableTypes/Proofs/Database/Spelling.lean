import TableTypes.Database.Introspect
import TableTypes.Proofs.Text.Cut
import TableTypes.Proofs.Unicode.Blank
import TableTypes.Proofs.Unicode.Lowercase

/-!
# Names as they are written

A name can be written as it is or between quotes. A plain name, which has no dots, quotes or blanks
around it, is read back from both spellings: as the name of a table or an enum, and in small letters
as the name of a data type.
-/

namespace TableTypes

/-- A name without dots and quotes in it and without blanks around it. -/
structure PlainName (name : String) : Prop where
  noDot : '.' ∉ name.toList
  noQuote : ∀ c ∈ name.toList, Text.isQuote c = false
  trimmed : Unicode.trim name.toList = name.toList

instance (name : String) : Decidable (PlainName name) :=
  decidable_of_iff ('.' ∉ name.toList ∧ (name.toList.all fun c => !Text.isQuote c) = true ∧
    Unicode.trim name.toList = name.toList)
    ⟨fun ⟨hdot, hquote, htrim⟩ => ⟨hdot, by simpa using hquote, htrim⟩,
      fun h => ⟨h.noDot, by simpa using h.noQuote, h.trimmed⟩⟩

/-- A text is a name, as it is or between quotes. -/
def Spells (text name : String) : Prop :=
  text = name ∨ ∃ q, Text.isQuote q = true ∧ text.toList = q :: (name.toList ++ [q])

/-- A text that spells a name has nothing else in it than the name and quotes. -/
theorem Spells.mem_cases {text name : String} (h : Spells text name) {c : Char}
    (hc : c ∈ text.toList) : c ∈ name.toList ∨ Text.isQuote c = true := by
  rcases h with rfl | ⟨q, hq, htext⟩
  · exact .inl hc
  · rw [htext] at hc
    simp only [List.mem_cons, List.mem_append, List.not_mem_nil, or_false] at hc
    rcases hc with rfl | hc | rfl
    · exact .inr hq
    · exact .inl hc
    · exact .inr hq

/-! ## Quotes -/

/-- There are three kinds of quotes. -/
theorem Text.isQuote_iff {c : Char} : isQuote c = true ↔ c = '"' ∨ c = '\x60' ∨ c = '\'' := by
  simp [isQuote, or_assoc]

/-- A quote is no blank. -/
theorem Text.isBlank_of_isQuote {q : Char} (hq : isQuote q = true) :
    Unicode.isBlank q = false := by
  rcases isQuote_iff.mp hq with rfl | rfl | rfl <;> decide

/-- A quote is no letter of either case. -/
theorem Text.isCased_of_isQuote {q : Char} (hq : isQuote q = true) :
    Unicode.isCased q = false := by
  rcases isQuote_iff.mp hq with rfl | rfl | rfl <;> decide

/-- A quote is its own small letter. -/
theorem Text.toLower_of_isQuote {q : Char} (hq : isQuote q = true) : Unicode.toLower q = [q] := by
  rcases isQuote_iff.mp hq with rfl | rfl | rfl <;> decide

/-- Quotes are signs, so that no letter becomes one in small letters. -/
theorem Text.covers_of_isQuote {q : Char} (hq : isQuote q = true) :
    Unicode.covers Unicode.signSpans q = true := by
  rcases isQuote_iff.mp hq with rfl | rfl | rfl <;> decide

/-- A spelling of a name without blanks has none either. -/
theorem Spells.noBlank {text name : String} (h : Spells text name)
    (hname : ∀ c ∈ name.toList, Unicode.isBlank c = false) :
    ∀ c ∈ text.toList, Unicode.isBlank c = false := by
  intro c hc
  rcases h.mem_cases hc with hc | hq
  · exact hname c hc
  · exact Text.isBlank_of_isQuote hq

/-! ## Plain names -/

namespace PlainName

variable {text name : String}

/-- Nothing is trimmed off a spelling of a plain name. -/
theorem trimText_of_spells (hname : PlainName name) (hspells : Spells text name) :
    Unicode.trimText text = text := by
  rw [← String.toList_inj, Unicode.trimText, String.toList_ofList]
  rcases hspells with rfl | ⟨q, hq, htext⟩
  · exact hname.trimmed
  · rw [htext]
    exact Unicode.trim_enclosed (Text.isBlank_of_isQuote hq) _

/-- A spelling of a plain name is the name once its quotes are taken off. -/
theorem unquote_of_spells (hname : PlainName name) (hspells : Spells text name) :
    Text.unquote text.toList = name.toList := by
  have htrim : Unicode.trim text.toList = text.toList := by
    have h := congrArg String.toList (hname.trimText_of_spells hspells)
    rwa [Unicode.trimText, String.toList_ofList] at h
  have hreverse : ∀ c ∈ name.toList.reverse, Text.isQuote c = false := by simpa using hname.noQuote
  rw [Text.unquote, htrim]
  rcases hspells with rfl | ⟨q, hq, htext⟩
  · rw [dropWhile_eq_self hname.noQuote, dropWhile_eq_self hreverse, List.reverse_reverse]
  · rw [htext, List.dropWhile_cons_of_pos hq]
    cases hcs : name.toList with
    | nil => simp [hq]
    | cons c cs =>
      have hc : Text.isQuote c = false := hname.noQuote c (hcs ▸ List.mem_cons_self)
      rw [hcs] at hreverse
      rw [List.cons_append, List.dropWhile_cons_of_neg (by simp [hc]), ← List.cons_append,
        List.reverse_append, List.reverse_singleton, List.singleton_append,
        List.dropWhile_cons_of_pos hq, dropWhile_eq_self hreverse, List.reverse_reverse]

/-- A spelling of a plain name has no dot. -/
theorem noDot_of_spells (hname : PlainName name) (hspells : Spells text name) :
    '.' ∉ text.toList := by
  intro hc
  rcases hspells.mem_cases hc with hc | hq
  · exact hname.noDot hc
  · exact absurd hq (by decide)

/-- A plain name belongs to the default schema. -/
theorem read_of_spells (hname : PlainName name) (hspells : Spells text name)
    (defaultSchema : Option String) :
    QualifiedName.read defaultSchema text = { schema := defaultSchema, name } := by
  rw [QualifiedName.read, Text.splitOn_of_notMem (hname.noDot_of_spells hspells)]
  simp [hname.unquote_of_spells hspells]

end PlainName

/-! ## Names of data types -/

/-- A name without blanks and opening parentheses that a text spells, and without closing brackets
unless it is quoted. -/
structure SpellsType (text name : String) : Prop where
  plain : PlainName name
  spells : Spells text name
  noBlank : ∀ c ∈ name.toList, Unicode.isBlank c = false
  noParenthesis : '(' ∉ name.toList
  noBracket : text = name → ']' ∉ name.toList

namespace SpellsType

variable {text name : String}

/-- A spelling of a type has no blanks. -/
theorem noBlank_text (h : SpellsType text name) :
    ∀ c ∈ text.toList, Unicode.isBlank c = false :=
  h.spells.noBlank h.noBlank

/-- A spelling of a type has no parenthesis. -/
theorem noParenthesis_text (h : SpellsType text name) : '(' ∉ text.toList := by
  intro hc
  rcases h.spells.mem_cases hc with hc | hq
  · exact h.noParenthesis hc
  · exact absurd hq (by decide)

/-- A spelling of a type does not end with a bracket. -/
theorem getLast?_text (h : SpellsType text name) : text.toList.getLast? ≠ some ']' := by
  intro hlast
  rcases h.spells with heq | ⟨q, hq, htext⟩
  · exact h.noBracket heq (heq ▸ List.mem_of_getLast? hlast)
  · rw [htext, ← List.cons_append, List.getLast?_append, List.getLast?_singleton] at hlast
    cases hlast
    exact absurd hq (by decide)

/-- In small letters a text spells the name in small letters. -/
theorem lowercase (h : SpellsType text name) :
    SpellsType (Unicode.lowercase text) (Unicode.lowercase name) := by
  have hsign {d : Char} (hd : d ∈ (Unicode.lowercase name).toList) :=
    Unicode.mem_of_mem_lowercase hd
  have hblank := Unicode.noBlank_lowercase_iff.mpr h.noBlank
  refine ⟨⟨?_, ?_, Unicode.trim_of_noBlank hblank⟩, ?_, hblank, ?_, ?_⟩
  · exact fun hd => h.plain.noDot (hsign hd (by decide))
  · intro c hc
    by_contra hquote
    rw [Bool.not_eq_false] at hquote
    simp [h.plain.noQuote c (hsign hc (Text.covers_of_isQuote hquote))] at hquote
  · rcases h.spells with rfl | ⟨q, hq, htext⟩
    · exact .inl rfl
    · exact .inr ⟨q, hq, Unicode.toList_lowercase_enclosed (Text.isCased_of_isQuote hq)
        (Text.toLower_of_isQuote hq) htext⟩
  · exact fun hd => h.noParenthesis (hsign hd (by decide))
  · intro heq hd
    rcases h.spells with rfl | ⟨q, hq, htext⟩
    · exact h.noBracket rfl (hsign hd (by decide))
    · -- between quotes a text is longer than its name, also in small letters
      have hlength := congrArg List.length (Unicode.toList_lowercase_enclosed
        (Text.isCased_of_isQuote hq) (Text.toLower_of_isQuote hq) htext)
      rw [heq, List.length_cons, List.length_append] at hlength
      omega

end SpellsType

/-- Nothing is erased where the first character of what is erased does not occur. -/
theorem Text.erase_eq_self {c : Char} {part cs : List Char} (hc : c ∉ cs) :
    erase (c :: part) cs = cs := by
  rw [erase]
  induction cs with
  | nil => rfl
  | cons d rest ih =>
    obtain ⟨hd, hrest⟩ := List.ne_and_not_mem_of_not_mem_cons hc
    rw [eraseFrom, if_neg (by simp [hd]), ih hrest]

namespace CatalogType

variable {cs : List Char}

/-- A type has no array mark if it ends neither in a bracket nor in the word `array` behind a
space. -/
theorem arrayElement?_eq_none (hbracket : cs.getLast? ≠ some ']') (hword : ¬arrayWord <:+ cs) :
    arrayElement? cs = none := by
  have hbrackets : beforeBrackets? cs = none := if_neg hbracket
  have hnone : beforeArrayWord? cs = none :=
    if_neg fun hsuffix => hword (List.isSuffixOf_iff_suffix.mp hsuffix)
  rw [arrayElement?, hbrackets, hnone]
  rfl

/-- Without an array mark there is nothing to take away. -/
theorem stripArrays_of_none (h : arrayElement? cs = none) : stripArrays cs = (cs, false) := by
  rw [stripArrays]
  split
  · next element helement => cases h.symm.trans helement
  · rfl

/-- After an array mark the others are taken away as well. -/
theorem stripArrays_of_some {element : List Char} (h : arrayElement? cs = some element) :
    stripArrays cs = ((stripArrays element).1, true) := by
  rw [stripArrays]
  split
  · next found hfound => rw [Option.some.inj (h.symm.trans hfound)]
  · next hnone => cases h.symm.trans hnone

/-- A type without spaces that does not end with a bracket has no array mark. -/
theorem stripArrays_eq_self (hbracket : cs.getLast? ≠ some ']') (hblank : ' ' ∉ cs) :
    stripArrays cs = (cs, false) :=
  stripArrays_of_none
    (arrayElement?_eq_none hbracket fun hword => hblank (hword.subset (by decide)))

/-- A type without parentheses has no parameters. -/
theorem stripParameters_eq_self (hparenthesis : '(' ∉ cs) : stripParameters cs = cs := by
  rw [stripParameters]
  induction cs with
  | nil => rfl
  | cons c rest ih =>
    have hrest := ih fun h => hparenthesis (List.mem_cons_of_mem c h)
    rw [stripParametersFrom]
    split
    · next inside h => exact absurd (List.mem_of_mem_drop (h ▸ List.mem_cons_self)) hparenthesis
    · rw [hrest]

/-- A type without blanks is one word. -/
theorem joinWords_eq_self (hblank : ∀ c ∈ cs, Unicode.isBlank c = false) : joinWords cs = cs := by
  have hmap : (cs.map fun c => if Unicode.isBlank c then ' ' else c) = cs := by
    refine (List.map_congr_left fun c hc => ?_).trans (List.map_id cs)
    rw [hblank c hc]
    rfl
  have hspace : ' ' ∉ cs := fun h => absurd (hblank ' ' h) (by decide)
  rw [joinWords, hmap, Text.splitOn_of_notMem hspace]
  cases cs with
  | nil => rfl
  | cons c cs => simp

/-- A type without spaces has no modifier, as each of them begins with one. -/
theorem foldl_erase_mysqlModifiers (hspace : ' ' ∉ cs) :
    mysqlModifiers.foldl (fun cs m => Text.erase m.toList cs) cs = cs := by
  simp [mysqlModifiers, Text.erase_eq_self hspace]

/-- A data type that is written as a name is read as that name in small letters. -/
theorem read_of_spells {dialect : Dialect} {text name : String} (h : SpellsType text name)
    (hname : canonicalName dialect (Unicode.lowercase name) = (Unicode.lowercase name, false)) :
    read dialect text = { name := Unicode.lowercase name } := by
  have hsmall := h.lowercase
  have hspace : ' ' ∉ (Unicode.lowercase text).toList :=
    fun hd => absurd (hsmall.noBlank_text ' ' hd) (by decide)
  have hdot : Text.cutLast? '.' (Unicode.lowercase text).toList = none :=
    Text.cutLast?_eq_none_iff.mpr (hsmall.plain.noDot_of_spells hsmall.spells)
  simp only [read, h.plain.trimText_of_spells h.spells,
    stripArrays_eq_self hsmall.getLast?_text hspace,
    stripParameters_eq_self hsmall.noParenthesis_text, foldl_erase_mysqlModifiers hspace, ite_self,
    joinWords_eq_self hsmall.noBlank_text, hdot, hsmall.plain.unquote_of_spells hsmall.spells,
    String.ofList_toList, hname]

end CatalogType

end TableTypes
