import Mathlib.Data.String.Basic

/-!
# Cutting a text at a byte

The offsets of a text count bytes in UTF-8, and a text can only be cut where a character begins or
at its end.
-/

namespace TableTypes.Text

open String (utf8Len)

/-- The parts of a text before an offset in bytes and from there on, or `none` if the text is
shorter or a character lies across the offset. -/
def cutAtByte? : ℕ → List Char → Option (List Char × List Char)
  | 0, cs => some ([], cs)
  | _ + 1, [] => none
  | offset + 1, c :: cs =>
    if c.utf8Size ≤ offset + 1 then
      (cutAtByte? (offset + 1 - c.utf8Size) cs).map fun (front, tail) => (c :: front, tail)
    else none

/-- A text is cut at the bytes of its first part. -/
@[simp] theorem cutAtByte?_append (front tail : List Char) :
    cutAtByte? (utf8Len front) (front ++ tail) = some (front, tail) := by
  induction front with
  | nil => simp [cutAtByte?]
  | cons c front ih =>
    obtain ⟨offset, hoffset⟩ : ∃ offset, utf8Len (c :: front) = offset + 1 :=
      ⟨utf8Len (c :: front) - 1, by have := c.utf8Size_pos; rw [String.utf8Len_cons]; omega⟩
    have hrest : offset + 1 - c.utf8Size = utf8Len front := by
      rw [← hoffset, String.utf8Len_cons]
      omega
    have hle : c.utf8Size ≤ offset + 1 := by
      rw [← hoffset, String.utf8Len_cons]
      omega
    rw [hoffset, List.cons_append, cutAtByte?, if_pos hle, hrest, ih]
    rfl

/-- The parts of a cut are the text, and the first one has as many bytes as the offset says. -/
theorem cutAtByte?_eq_some_iff {offset : ℕ} {cs front tail : List Char} :
    cutAtByte? offset cs = some (front, tail) ↔ cs = front ++ tail ∧ utf8Len front = offset := by
  refine ⟨fun h => ?_, fun ⟨hcs, hoffset⟩ => by rw [hcs, ← hoffset, cutAtByte?_append]⟩
  induction offset, cs using cutAtByte?.induct generalizing front with
  | case1 cs =>
    rw [cutAtByte?] at h
    cases h
    exact ⟨rfl, rfl⟩
  | case2 offset => cases h
  | case3 offset c cs hle ih =>
    rw [cutAtByte?, if_pos hle] at h
    obtain ⟨⟨front, tail⟩, hcut, heq⟩ := Option.map_eq_some_iff.mp h
    cases heq
    obtain ⟨rfl, hfront⟩ := ih hcut
    refine ⟨rfl, ?_⟩
    rw [String.utf8Len_cons, hfront]
    omega
  | case4 offset c cs hgt =>
    rw [cutAtByte?, if_neg hgt] at h
    cases h

/-- A text can be cut where its positions are valid. -/
theorem isSome_cutAtByte?_iff {offset : ℕ} {s : String} :
    (cutAtByte? offset s.toList).isSome ↔ (⟨offset⟩ : String.Pos.Raw).IsValid s := by
  rw [Option.isSome_iff_exists, String.Pos.Raw.isValid_iff_exists_append]
  constructor
  · rintro ⟨⟨front, tail⟩, hcut⟩
    obtain ⟨hparts, rfl⟩ := cutAtByte?_eq_some_iff.mp hcut
    refine ⟨.ofList front, .ofList tail, ?_, (String.rawEndPos_ofList front).symm⟩
    rw [← String.ofList_append, ← hparts, String.ofList_toList]
  · rintro ⟨front, tail, rfl, hoffset⟩
    obtain rfl := (String.Pos.Raw.mk.inj hoffset : offset = front.utf8ByteSize)
    refine ⟨(front.toList, tail.toList), ?_⟩
    rw [String.toList_append, ← String.utf8Len_toList, cutAtByte?_append]

end TableTypes.Text
