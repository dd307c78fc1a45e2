import TableTypes.Unicode.Span

/-!
# Blank characters

The characters with the property White_Space, and trimming by them.
-/

namespace TableTypes.Unicode

/-- The characters that separate words: tab to carriage return, the space, and the wider spaces and line separators. -/
def blankSpans : List Span :=
  [⟨0x9, 0xd, 1⟩, ⟨0x20, 0x20, 1⟩, ⟨0x85, 0x85, 1⟩, ⟨0xa0, 0xa0, 1⟩, ⟨0x1680, 0x1680, 1⟩,
   ⟨0x2000, 0x200a, 1⟩, ⟨0x2028, 0x2029, 1⟩, ⟨0x202f, 0x202f, 1⟩, ⟨0x205f, 0x205f, 1⟩,
   ⟨0x3000, 0x3000, 1⟩]

/-- Whether a character is blank. -/
def isBlank (c : Char) : Bool :=
  covers blankSpans c

/-- A list of characters without the blank ones at its end. -/
def trimEnd (cs : List Char) : List Char :=
  (cs.reverse.dropWhile isBlank).reverse

/-- A list of characters without the blank ones at its two ends. -/
def trim (cs : List Char) : List Char :=
  trimEnd (cs.dropWhile isBlank)

/-- A text without the blank characters at its two ends. -/
def trimText (s : String) : String :=
  String.ofList (trim s.toList)

end TableTypes.Unicode
