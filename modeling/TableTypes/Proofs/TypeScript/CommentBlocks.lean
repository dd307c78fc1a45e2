import TableTypes.Proofs.Text.Mentions
import TableTypes.Proofs.TypeScript.PrintedText

/-!
# Comments stay inside of their block

A documentation comment is any text that the SQL source holds. Its end-of-comment marks are guarded
before it is cut into lines, and no later step makes a new one: a line is a part of the guarded
text, and what is put between the lines separates a star from a slash. So the block that is printed
ends where it is meant to end, whatever the comment says.
-/

namespace TableTypes

/-! ## Lines as parts of their text -/

namespace Text

/-- A piece is a part of the pieces joined by any separator. -/
theorem infix_intercalate {sep piece : List Char} {pieces : List (List Char)}
    (h : piece ∈ pieces) : piece <:+: sep.intercalate pieces := by
  induction pieces with
  | nil => cases h
  | cons first rest ih =>
    rw [TypeScript.intercalate_cons]
    rcases List.mem_cons.mp h with rfl | hrest
    · exact (List.prefix_append _ _).isInfix
    · obtain ⟨before, after, rfl⟩ := List.append_of_mem hrest
      refine ⟨first ++ (before.flatMap (sep ++ ·) ++ sep), after.flatMap (sep ++ ·), ?_⟩
      simp

/-- A piece of a text is a part of it. -/
theorem infix_of_mem_splitOn {sep : Char} {cs piece : List Char} (h : piece ∈ splitOn sep cs) :
    piece <:+: cs := by
  have hpiece : piece <:+: [sep].intercalate (splitOn sep cs) := infix_intercalate h
  rwa [intercalate_splitOn] at hpiece

/-- What is left without a carriage return is a beginning of the text. -/
theorem dropReturn_isPrefix (cs : List Char) : dropReturn cs <+: cs := by
  unfold dropReturn
  split
  · exact List.dropLast_prefix cs
  · exact List.prefix_rfl

/-- A line of a text is a part of it. -/
theorem infix_of_mem_lines {line text : String} (h : line ∈ lines text) :
    line.toList <:+: text.toList := by
  have hpieces {piece : List Char} (hpiece : piece ∈ splitOn '\n' text.toList) :
      piece <:+: text.toList :=
    infix_of_mem_splitOn hpiece
  have hfull {piece : List Char}
      (hpiece : piece ∈ (splitOn '\n' text.toList).dropLast.map dropReturn) :
      piece <:+: text.toList := by
    obtain ⟨whole, hwhole, rfl⟩ := List.mem_map.mp hpiece
    exact (dropReturn_isPrefix whole).isInfix.trans (hpieces (List.dropLast_subset _ hwhole))
  obtain ⟨piece, hpiece, rfl⟩ := List.mem_map.mp h
  rw [String.toList_ofList]
  split at hpiece
  · exact hfull hpiece
  · rcases List.mem_append.mp hpiece with hpiece | hlast
    · exact hfull hpiece
    · rw [List.mem_singleton.mp hlast,
        List.getLast?_eq_some_getLast (splitOn_ne_nil '\n' text.toList), Option.getD_some]
      exact hpieces (List.getLast_mem _)

end Text

/-- What is left without blanks at the end is a beginning of the text. -/
theorem Unicode.trimEnd_isPrefix (cs : List Char) : trimEnd cs <+: cs := by
  have hsuffix : cs.reverse.dropWhile isBlank <:+ cs.reverse := List.dropWhile_suffix isBlank
  simpa [trimEnd] using List.reverse_prefix.mpr hsuffix

namespace TypeScript

/-! ## The mark that ends a comment -/

/-- The mark that ends a block comment. -/
def endMark : List Char := ['*', '/']

/-- The text behind the first mark that ends a comment. -/
def behindEndMark? : List Char → Option (List Char)
  | '*' :: '/' :: rest => some rest
  | _ :: rest => behindEndMark? rest
  | [] => none

/-- A text as it is read without the block comment that it begins with, if it does, and without the
end of the comment's last line. -/
def withoutComment (cs : List Char) : List Char :=
  match cs.dropWhile (· == ' ') with
  | '/' :: '*' :: inside =>
    match behindEndMark? inside with
    | some ('\n' :: rest) => rest
    | some rest => rest
    | none => cs
  | _ => cs

/-- A mark that ends comments stands at the beginning of a text or in the rest of it. -/
theorem endMark_infix_cons_iff {c : Char} {cs : List Char} :
    endMark <:+: c :: cs ↔ (c = '*' ∧ cs.head? = some '/') ∨ endMark <:+: cs := by
  rw [List.infix_cons_iff]
  refine or_congr_left ?_
  cases cs with
  | nil => simp [endMark]
  | cons d cs => simp [endMark, List.cons_prefix_cons, eq_comm]

/-- Blanks before a text bring no mark into it. -/
theorem endMark_infix_margin_append_iff (depth : Nat) (cs : List Char) :
    endMark <:+: margin depth ++ cs ↔ endMark <:+: cs := by
  rw [margin]
  induction 2 * depth with
  | zero => rfl
  | succ n ih =>
    rw [List.replicate_succ, List.cons_append, endMark_infix_cons_iff, ih]
    simp

/-- A text without the mark ends at the first mark behind it, when they do not touch. -/
theorem behindEndMark?_append {front : List Char} (hfront : ¬endMark <:+: front)
    (rest : List Char) : behindEndMark? (front ++ ' ' :: (endMark ++ rest)) = some rest := by
  induction front with
  | nil => rfl
  | cons c front ih =>
    rw [endMark_infix_cons_iff, not_or] at hfront
    obtain ⟨hhead, hinside⟩ := hfront
    rw [List.cons_append, ← ih hinside]
    refine behindEndMark?.eq_2 _ _ fun rest hc hrest => hhead ⟨hc, ?_⟩
    cases front with
    | nil => simp at hrest
    | cons d front => exact congrArg List.head? hrest

/-- The mark behind a text without it is the only one, when they do not touch. -/
theorem eq_of_append_endMark {front before after : List Char} (hfront : ¬endMark <:+: front)
    (h : front ++ ' ' :: (endMark ++ ['\n']) = before ++ (endMark ++ after)) : after = ['\n'] := by
  -- Whichever mark is left of the other one, they are the same.
  have h' : front ++ [' '] ++ (endMark ++ ['\n']) = before ++ (endMark ++ after) := by
    simpa using h
  rcases List.append_eq_append_iff.mp h' with ⟨between, -, hmark⟩ | ⟨between, hbefore, hmark⟩
  · match between with
    | [] => simpa [endMark] using hmark.symm
    | [a] => simp [endMark] at hmark
    | [a, b] => simp [endMark] at hmark
    | a :: b :: c :: between => simp [endMark] at hmark
  · match between with
    | [] => simpa [endMark] using hmark
    | [a] =>
      have hlast : ' ' = a := by simpa using congrArg List.getLast? hbefore
      simp [endMark, ← hlast] at hmark
    | a :: b :: between =>
      simp only [endMark, List.cons_append, List.nil_append, List.cons.injEq] at hmark
      obtain ⟨rfl, rfl, -⟩ := hmark
      have hpart : endMark <:+: front ++ [' '] :=
        ⟨before, between, by rw [hbefore]; simp [endMark]⟩
      rcases (infix_append_cons_iff (by decide) front []).mp hpart with hmark | hmark
      · exact absurd hmark hfront
      · simp [endMark] at hmark

/-! ## The lines of a comment -/

/-- Guarding a comment leaves its first character. -/
theorem head?_guardComment (cs : List Char) : (guardComment cs).head? = cs.head? := by
  fun_cases guardComment cs <;> rfl

/-- A guarded text has no mark in it. -/
theorem not_endMark_infix_guardComment (cs : List Char) : ¬endMark <:+: guardComment cs := by
  fun_induction guardComment cs with
  | case1 rest ih => simp [endMark_infix_cons_iff, ih]
  | case2 c rest hmark ih =>
    rw [endMark_infix_cons_iff, head?_guardComment]
    rintro (⟨rfl, hhead⟩ | hpart)
    · obtain ⟨after, rfl⟩ := List.head?_eq_some_iff.mp hhead
      exact hmark after rfl rfl
    · exact ih hpart
  | case3 => simp [endMark]

/-- The characters of a comment line before the end of the line. -/
def commentLine (depth : Nat) (line : List Char) : List Char :=
  margin depth ++ if line.all Unicode.isBlank then [' ', '*']
    else [' ', '*'] ++ ' ' :: Unicode.trimEnd line

/-- A line of a comment is printed with its margin and ended. -/
theorem toList_printCommentLine (depth : Nat) (line : String) :
    (printCommentLine (indent depth) line).toList = commentLine depth line.toList ++ ['\n'] := by
  unfold printCommentLine commentLine
  split <;> simp [toList_indent]

/-- What is put before a line makes no mark with it. -/
theorem not_endMark_infix_commentLine {line : List Char} (h : ¬endMark <:+: line) (depth : Nat) :
    ¬endMark <:+: commentLine depth line := by
  have hstar : ¬endMark <:+: [' ', '*'] := by decide
  rw [commentLine, endMark_infix_margin_append_iff]
  split
  · exact hstar
  · rw [infix_append_cons_iff (by decide), not_or]
    exact ⟨hstar, fun htrim => h (htrim.trans (Unicode.trimEnd_isPrefix line).isInfix)⟩

/-- A text behind some lines has a mark when it does not end in one of them. -/
theorem endMark_infix_lines_append_iff {lines : List (List Char)}
    (h : ∀ line ∈ lines, ¬endMark <:+: line) (cs : List Char) :
    endMark <:+: lines.flatMap (· ++ ['\n']) ++ cs ↔ endMark <:+: cs := by
  induction lines with
  | nil => rfl
  | cons line lines ih =>
    obtain ⟨hline, hlines⟩ := List.forall_mem_cons.mp h
    rw [List.flatMap_cons, List.append_assoc, List.append_assoc, List.singleton_append,
      infix_append_cons_iff (by decide), ih hlines, or_iff_right hline]

/-! ## The block of a comment -/

/-- A text is a block comment with a margin: it begins with the margin and the sign of a
documentation comment, and the mark that ends it stands in it once, before its last line feed. -/
structure IsCommentBlock (margin block : List Char) : Prop where
  /-- The block begins a documentation comment behind the margin. -/
  begins : margin ++ ['/', '*', '*'] <+: block
  /-- The block is closed on its last line. -/
  closes : endMark ++ ['\n'] <:+ block
  /-- No mark before the last one closes the block. -/
  closes_once : ∀ before after, block = before ++ (endMark ++ after) → after = ['\n']

/-- The lines between the first and the last line of a comment block. -/
def commentLines (depth : Nat) (comment : String) : List (List Char) :=
  (Text.lines (String.ofList (guardComment comment.toList))).map fun line =>
    commentLine depth line.toList

/-- No line of a comment has a mark that ends comments. -/
theorem not_endMark_infix_of_mem_commentLines {depth : Nat} {comment : String} {line : List Char}
    (h : line ∈ commentLines depth comment) : ¬endMark <:+: line := by
  obtain ⟨part, hmem, rfl⟩ := List.mem_map.mp h
  have hpart : part.toList <:+: guardComment comment.toList := by
    simpa using Text.infix_of_mem_lines hmem
  exact not_endMark_infix_commentLine
    (fun hmark => not_endMark_infix_guardComment _ (hmark.trans hpart)) depth

/-- What stands in a comment block behind the sign that begins it and before the last margin's
blank. -/
def commentBody (depth : Nat) (comment : String) : List Char :=
  '\n' :: ((commentLines depth comment).flatMap (· ++ ['\n']) ++ margin depth)

/-- A comment is printed between the marks that begin and end it. -/
theorem toList_printComment (depth : Nat) (comment : String) :
    (printComment (indent depth) comment).toList = margin depth ++ ['/', '*', '*'] ++
      commentBody depth comment ++ ' ' :: (endMark ++ ['\n']) := by
  have hlines (lines : List String) :
      (String.join (lines.map (printCommentLine (indent depth)))).toList =
        (lines.map fun line => commentLine depth line.toList).flatMap (· ++ ['\n']) := by
    induction lines with
    | nil => rfl
    | cons line lines ih => simp [String.join_cons, ih, toList_printCommentLine]
  simp [printComment, hlines, commentBody, commentLines, toList_indent, endMark]

/-- The second star of a documentation comment and its body have no mark in them. -/
theorem not_endMark_infix_star_commentBody (depth : Nat) (comment : String) :
    ¬endMark <:+: '*' :: commentBody depth comment := by
  have hlines : ∀ line ∈ commentLines depth comment, ¬endMark <:+: line := fun _ =>
    not_endMark_infix_of_mem_commentLines
  have hmargin : ¬endMark <:+: margin depth := by
    rw [← List.append_nil (margin depth), endMark_infix_margin_append_iff]
    simp [endMark]
  have hinside := mt (endMark_infix_lines_append_iff hlines (margin depth)).mp hmargin
  rw [commentBody, endMark_infix_cons_iff, endMark_infix_cons_iff]
  simpa using hinside

/-- A printed comment is one block comment. -/
theorem isCommentBlock_printComment (depth : Nat) (comment : String) :
    IsCommentBlock (margin depth) (printComment (indent depth) comment).toList := by
  have hblock := toList_printComment depth comment
  constructor
  · rw [hblock, List.append_assoc]
    exact List.prefix_append _ _
  · rw [hblock]
    exact ⟨margin depth ++ ['/', '*', '*'] ++ commentBody depth comment ++ [' '], by simp⟩
  · intro before after h
    have hfront : ¬endMark <:+: margin depth ++ ['/', '*', '*'] ++ commentBody depth comment := by
      rw [List.append_assoc, endMark_infix_margin_append_iff, List.cons_append, List.cons_append,
        List.singleton_append, endMark_infix_cons_iff, endMark_infix_cons_iff]
      simp [not_endMark_infix_star_commentBody]
    exact eq_of_append_endMark hfront (hblock.symm.trans h)

example : printComment "" "ends */ here" = "/**\n * ends *\\/ here\n */\n" := by
  decide

/-! ## Reading past a comment -/

/-- The margin before a line is dropped. -/
theorem dropWhile_margin_append (depth : Nat) {c : Char} (hc : c ≠ ' ') (cs : List Char) :
    (margin depth ++ c :: cs).dropWhile (· == ' ') = c :: cs := by
  rw [margin, List.dropWhile_append_of_pos (by simp)]
  simp [hc]

/-- A reader of block comments is past a printed comment at the end of its last line. -/
theorem withoutComment_printComment_append (depth : Nat) (comment : String) (rest : List Char) :
    withoutComment ((printComment (indent depth) comment).toList ++ rest) = rest := by
  have hblock : (printComment (indent depth) comment).toList ++ rest =
      margin depth ++ '/' :: '*' :: ('*' :: commentBody depth comment ++
        ' ' :: (endMark ++ '\n' :: rest)) := by
    rw [toList_printComment]
    simp
  have hbehind := behindEndMark?_append (not_endMark_infix_star_commentBody depth comment)
    ('\n' :: rest)
  rw [hblock, withoutComment, dropWhile_margin_append depth (by decide)]
  simp only [hbehind]

/-- A property without a comment is read as it stands. -/
theorem withoutComment_propertyChars_append {p : Property TypeExpr} (h : p.comment = none)
    (depth : Nat) (rest : List Char) :
    withoutComment (TypeExpr.propertyChars depth p ++ rest) =
      TypeExpr.propertyChars depth p ++ rest := by
  obtain ⟨c, key, hkey, hc⟩ := exists_printKey_eq_cons p.key
  have hblank : c ≠ ' ' := by rintro rfl; revert hc; decide
  have hslash : c ≠ '/' := by rintro rfl; revert hc; decide
  have hchars : TypeExpr.propertyChars depth p ++ rest =
      margin depth ++ c :: (key ++ ':' :: ' ' :: (p.value.chars depth ++ [';', '\n']) ++ rest) := by
    rw [TypeExpr.propertyChars_bare depth h, hkey]
    simp
  rw [withoutComment, hchars, dropWhile_margin_append depth hblank]
  split
  next heq => exact absurd (List.cons.inj heq).1 hslash
  next => rfl

/-- **Comments cannot break out of their block.** A comment is printed as one block comment before
the property that is printed without it, so that properties which differ in their comments only are
the same text to a reader that skips block comments. -/
theorem printProperty_comment (depth : Nat) (key : String) (value : TypeExpr) (comment : String) :
    ∃ block : String, IsCommentBlock (margin depth) block.toList ∧
      printProperty depth ⟨key, value, some comment⟩ =
        block ++ printProperty depth ⟨key, value, none⟩ ∧
      ∀ (other : Option String) (rest : List Char),
        withoutComment ((printProperty depth ⟨key, value, other⟩).toList ++ rest) =
          (printProperty depth ⟨key, value, none⟩).toList ++ rest := by
  have hprint (comment : String) : printProperty depth ⟨key, value, some comment⟩ =
      printComment (indent depth) comment ++ printProperty depth ⟨key, value, none⟩ := by
    simp [printProperty, String.append_assoc]
  refine ⟨_, isCommentBlock_printComment depth comment, hprint comment, fun other rest => ?_⟩
  cases other with
  | none => exact withoutComment_propertyChars_append rfl depth rest
  | some other =>
    rw [hprint, String.toList_append, List.append_assoc]
    exact withoutComment_printComment_append depth other _

end TypeScript

end TableTypes
