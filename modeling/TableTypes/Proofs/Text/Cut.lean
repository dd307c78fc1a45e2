import TableTypes.Text.Lines

/-!
# Cutting a text in two

A text is cut at a character exactly if it holds it, and the part that the search went through does
not hold the character again. Joining pieces adds nothing but what is put between them.
-/

namespace TableTypes

/-- The characters of joined pieces come from the pieces or from what is put between them. -/
theorem mem_intercalate {α : Type} {between : List α} {pieces : List (List α)} {a : α}
    (ha : a ∈ between.intercalate pieces) : a ∈ between ∨ ∃ piece ∈ pieces, a ∈ piece := by
  induction pieces with
  | nil => cases ha
  | cons piece pieces ih =>
    cases pieces with
    | nil => exact .inr ⟨piece, List.mem_cons_self, by simpa using ha⟩
    | cons other pieces =>
      rw [List.intercalate_cons_cons, List.mem_append, List.mem_append] at ha
      rcases ha with (ha | ha) | ha
      · exact .inr ⟨piece, List.mem_cons_self, ha⟩
      · exact .inl ha
      · refine (ih ha).imp_right fun ⟨found, hfound, ha⟩ => ?_
        exact ⟨found, List.mem_cons_of_mem piece hfound, ha⟩

/-- The characters of a piece stand among those of the joined pieces. -/
theorem mem_intercalate_of_mem {α : Type} {between piece : List α} {pieces : List (List α)} {a : α}
    (hpiece : piece ∈ pieces) (ha : a ∈ piece) : a ∈ between.intercalate pieces := by
  induction pieces with
  | nil => cases hpiece
  | cons first pieces ih =>
    cases pieces with
    | nil => simpa [List.mem_singleton.mp hpiece] using ha
    | cons other pieces =>
      rw [List.intercalate_cons_cons, List.mem_append, List.mem_append]
      rcases List.mem_cons.mp hpiece with rfl | hpiece
      · exact .inl (.inl ha)
      · exact .inr (ih hpiece)

end TableTypes

namespace TableTypes.Text

variable {sep : Char} {cs before after : List Char}

/-- There is no cut exactly when there is no separator. -/
theorem cut?_eq_none_iff : cut? sep cs = none ↔ sep ∉ cs := by
  induction cs with
  | nil => simp [cut?]
  | cons c rest ih =>
    unfold cut?
    split
    · next hc => simp [hc]
    · next hc => simp [ih, Ne.symm hc]

/-- The first part ends before the first such character. -/
theorem notMem_of_cut? (h : cut? sep cs = some (before, after)) : sep ∉ before := by
  induction cs generalizing before with
  | nil => cases h
  | cons c rest ih =>
    unfold cut? at h
    split at h
    · cases h
      simp
    · next hc =>
      obtain ⟨⟨first, second⟩, hcut, heq⟩ := Option.map_eq_some_iff.mp h
      cases heq
      simp [ih hcut, Ne.symm hc]

/-- There is no last cut exactly when there is no separator. -/
theorem cutLast?_eq_none_iff : cutLast? sep cs = none ↔ sep ∉ cs := by
  rw [cutLast?, Option.map_eq_none_iff, cut?_eq_none_iff, List.mem_reverse]

/-- The second part begins behind the last such character. -/
theorem notMem_of_cutLast? (h : cutLast? sep cs = some (before, after)) : sep ∉ after := by
  obtain ⟨⟨last, rest⟩, hcut, heq⟩ := Option.map_eq_some_iff.mp h
  cases heq
  simpa using notMem_of_cut? hcut

/-- A text is cut at the last character of this kind. -/
theorem cutLast?_append_cons (h : sep ∉ after) (before : List Char) :
    cutLast? sep (before ++ sep :: after) = some (before, after) := by
  have hreverse : (before ++ sep :: after).reverse = after.reverse ++ sep :: before.reverse := by
    simp
  rw [cutLast?, hreverse, cut?_append_cons (by simpa using h)]
  simp

/-- A text is cut both ways or not at all. -/
theorem cut?_cases (sep : Char) (cs : List Char) :
    (cut? sep cs = none ∧ cutLast? sep cs = none) ∨
      ∃ first last, cut? sep cs = some first ∧ cutLast? sep cs = some last := by
  cases hcut : cut? sep cs with
  | none => exact .inl ⟨rfl, cutLast?_eq_none_iff.mpr (cut?_eq_none_iff.mp hcut)⟩
  | some first =>
    cases hlast : cutLast? sep cs with
    | none =>
      rw [cut?_eq_none_iff.mpr (cutLast?_eq_none_iff.mp hlast)] at hcut
      cases hcut
    | some last => exact .inr ⟨first, last, rfl, rfl⟩

/-- Both ways to cut a text are one exactly if it holds the character at most once. -/
theorem cutLast?_eq_cut?_iff : cutLast? sep cs = cut? sep cs ↔ cs.count sep ≤ 1 := by
  cases hcut : cut? sep cs with
  | none =>
    have hnone := cut?_eq_none_iff.mp hcut
    simp [cutLast?_eq_none_iff.mpr hnone, List.count_eq_zero_of_not_mem hnone]
  | some parts =>
    obtain ⟨before, after⟩ := parts
    obtain rfl := cut?_eq_some hcut
    have hcount : (before ++ sep :: after).count sep = after.count sep + 1 := by
      simp [List.count_eq_zero_of_not_mem (notMem_of_cut? hcut)]
    rw [hcount]
    constructor
    · intro hlast
      have hnone := List.count_eq_zero_of_not_mem (notMem_of_cutLast? hlast)
      omega
    · intro hle
      exact cutLast?_append_cons (List.count_eq_zero.mp (by omega)) before

/-- The first part of the cut at the first character is the beginning of the first part of the cut at
the last one. -/
theorem prefix_of_cut?_of_cutLast? {longer rest : List Char}
    (h : cut? sep cs = some (before, after)) (hlast : cutLast? sep cs = some (longer, rest)) :
    before <+: longer := by
  have hsame := (cut?_eq_some h).symm.trans (cutLast?_eq_some hlast)
  rcases List.append_eq_append_iff.mp hsame with ⟨more, rfl, -⟩ | ⟨more, rfl, hmore⟩
  · exact List.prefix_append _ _
  · cases more with
    | nil => simp
    | cons c more =>
      obtain rfl : sep = c := (List.cons.inj hmore).1
      exact absurd (by simp) (notMem_of_cut? h)

end TableTypes.Text
