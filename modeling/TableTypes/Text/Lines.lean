/-!
# Cutting text

Cutting a list of characters at a separator, and the lines of a text. Joining the pieces with the
separator gives the text back, so nothing is lost by cutting.
-/

namespace TableTypes.Text

/-- The pieces between the occurrences of a separator. There is always one piece more than there
are separators. -/
def splitOn (sep : Char) : List Char → List (List Char)
  | [] => [[]]
  | c :: rest =>
    if c = sep then [] :: splitOn sep rest
    else
      match splitOn sep rest with
      | [] => [[c]]
      | piece :: pieces => (c :: piece) :: pieces

/-- The pieces of a text between line feeds. -/
def splitLines (s : String) : List String :=
  (splitOn '\n' s.toList).map String.ofList

/-- A piece without a carriage return at its end. -/
def dropReturn (cs : List Char) : List Char :=
  match cs.getLast? with
  | some '\r' => cs.dropLast
  | _ => cs

/-- The lines of a text: each ends at a line feed or at a carriage return and a line feed, and
nothing follows the last line ending. -/
def lines (s : String) : List String :=
  let pieces := splitOn '\n' s.toList
  let full := pieces.dropLast.map dropReturn
  let last := pieces.getLast?.getD []
  (if last.isEmpty then full else full ++ [last]).map String.ofList

/-- The first occurrence of a character parts a list in two. -/
def cut? (sep : Char) : List Char → Option (List Char × List Char)
  | [] => none
  | c :: rest =>
    if c = sep then some ([], rest) else (cut? sep rest).map fun (a, b) => (c :: a, b)

/-- Whether `part` occurs somewhere in a list of characters. -/
def contains (part : List Char) : List Char → Bool
  | [] => part.isEmpty
  | c :: rest => part.isPrefixOf (c :: rest) || contains part rest

/-- A list of characters without the occurrences of `part`, from left to right; the first `skip`
characters are left out as the rest of an occurrence. -/
def eraseFrom (part : List Char) : Nat → List Char → List Char
  | _, [] => []
  | skip + 1, _ :: rest => eraseFrom part skip rest
  | 0, c :: rest =>
    if part.isPrefixOf (c :: rest) then eraseFrom part (part.length - 1) rest
    else c :: eraseFrom part 0 rest

/-- A list of characters without the occurrences of `part`. -/
def erase (part cs : List Char) : List Char :=
  eraseFrom part 0 cs

/-- A text is cut at its last occurrence of a character. -/
def cutLast? (sep : Char) (cs : List Char) : Option (List Char × List Char) :=
  (cut? sep cs.reverse).map fun (after, before) => (before.reverse, after.reverse)

/-- The two parts of a cut make the text again, with the separator between them. -/
theorem cut?_eq_some {sep : Char} {cs a b : List Char} (h : cut? sep cs = some (a, b)) :
    cs = a ++ sep :: b := by
  induction cs generalizing a b with
  | nil => simp [cut?] at h
  | cons c rest ih =>
    unfold cut? at h
    split at h
    next hc => simp_all
    next =>
      obtain ⟨⟨x, y⟩, hxy, he⟩ := Option.map_eq_some_iff.1 h
      simp only [Prod.mk.injEq] at he
      simp [← he.1, ← he.2, ih hxy]

/-- The two parts of a cut at the last separator make the text again. -/
theorem cutLast?_eq_some {sep : Char} {cs a b : List Char} (h : cutLast? sep cs = some (a, b)) :
    cs = a ++ sep :: b := by
  obtain ⟨⟨x, y⟩, hxy, he⟩ := Option.map_eq_some_iff.1 h
  simp only [Prod.mk.injEq] at he
  have := congrArg List.reverse (cut?_eq_some hxy)
  simp only [List.reverse_reverse, List.reverse_append, List.reverse_cons] at this
  simp [this, ← he.1, ← he.2]

/-- A text has a piece, even if it is empty. -/
theorem splitOn_ne_nil (sep : Char) (cs : List Char) : splitOn sep cs ≠ [] := by
  cases cs with
  | nil => simp [splitOn]
  | cons c rest =>
    unfold splitOn
    split
    · simp
    · split <;> simp

/-- A list with the separator in it is cut at the first one. -/
theorem cut?_append_cons {sep : Char} {a : List Char} (h : sep ∉ a) (b : List Char) :
    cut? sep (a ++ sep :: b) = some (a, b) := by
  induction a with
  | nil => simp [cut?]
  | cons c a ih =>
    have hc : c ≠ sep := fun hc => h (by simp [hc])
    have ha : sep ∉ a := fun ha => h (List.mem_cons_of_mem c ha)
    simp [cut?, hc, ih ha]

/-- Without a separator there is a single piece. -/
theorem splitOn_of_notMem {sep : Char} {cs : List Char} (h : sep ∉ cs) : splitOn sep cs = [cs] := by
  induction cs with
  | nil => rfl
  | cons c cs ih =>
    have hc : c ≠ sep := fun hc => h (by simp [hc])
    have hcs : sep ∉ cs := fun hcs => h (List.mem_cons_of_mem c hcs)
    simp [splitOn, hc, ih hcs]

/-- The first piece ends at the first separator. -/
theorem splitOn_append_cons {sep : Char} {a : List Char} (h : sep ∉ a) (rest : List Char) :
    splitOn sep (a ++ sep :: rest) = a :: splitOn sep rest := by
  induction a with
  | nil => simp [splitOn]
  | cons c a ih =>
    have hc : c ≠ sep := fun hc => h (by simp [hc])
    have ha : sep ∉ a := fun ha => h (List.mem_cons_of_mem c ha)
    simp [splitOn, hc, ih ha]

/-- Pieces that are each followed by a separator are cut apart again. -/
theorem splitOn_flatMap_append {sep : Char} {pieces : List (List Char)}
    (h : ∀ piece ∈ pieces, sep ∉ piece) :
    splitOn sep (pieces.flatMap (· ++ [sep])) = pieces ++ [[]] := by
  induction pieces with
  | nil => rfl
  | cons piece pieces ih =>
    have hpiece : sep ∉ piece := h piece (by simp)
    have hpieces := ih fun p hp => h p (by simp [hp])
    rw [List.flatMap_cons, List.append_assoc, List.singleton_append, splitOn_append_cons hpiece,
      hpieces, List.cons_append]

/-- No piece holds the separator. -/
theorem notMem_of_mem_splitOn {sep : Char} {cs piece : List Char} (h : piece ∈ splitOn sep cs) :
    sep ∉ piece := by
  induction cs generalizing piece with
  | nil => simp_all [splitOn]
  | cons c cs ih =>
    unfold splitOn at h
    split at h
    next hc =>
      rcases List.mem_cons.mp h with rfl | h
      · exact List.not_mem_nil
      · exact ih h
    next hc =>
      split at h
      next hnil => exact absurd hnil (splitOn_ne_nil sep cs)
      next first pieces hcons =>
        rw [hcons] at ih
        rcases List.mem_cons.mp h with rfl | h
        · have hfirst : sep ∉ first := ih (by simp)
          simp [Ne.symm hc, hfirst]
        · exact ih (by simp [h])

/-- The pieces joined by the separator are the list that was cut. -/
theorem intercalate_splitOn (sep : Char) (cs : List Char) :
    [sep].intercalate (splitOn sep cs) = cs := by
  induction cs with
  | nil => rfl
  | cons c cs ih =>
    obtain ⟨first, pieces, hcons⟩ := List.exists_cons_of_ne_nil (splitOn_ne_nil sep cs)
    rw [hcons] at ih
    unfold splitOn
    split
    next hc =>
      subst hc
      rw [hcons, List.intercalate_cons_cons, ih]
      rfl
    next hc =>
      rw [hcons]
      cases pieces with
      | nil => simp_all
      | cons second pieces =>
        rw [List.intercalate_cons_cons] at ih ⊢
        simp [← ih]

/-- The lines joined by line feeds are the text that was split. -/
theorem intercalate_splitLines (s : String) : "\n".intercalate (splitLines s) = s := by
  rw [← String.toList_inj, String.toList_intercalate, splitLines, List.map_map]
  simpa [Function.comp_def] using intercalate_splitOn '\n' s.toList

end TableTypes.Text
