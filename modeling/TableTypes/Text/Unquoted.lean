import TableTypes.Unicode.Blank

/-!
# Text without quotes

Taking the quotes and blanks around a name or a label away.
-/

namespace TableTypes.Text

/-- Whether a character can stand around a name or a label. -/
def isQuote (c : Char) : Bool :=
  c = '"' || c = '\x60' || c = '\''

/-- A name or label without the blanks and then the quotes around it. -/
def unquote (cs : List Char) : List Char :=
  let cs := (Unicode.trim cs).dropWhile isQuote
  (cs.reverse.dropWhile isQuote).reverse

end TableTypes.Text
