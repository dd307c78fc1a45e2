import TableTypes.Text.Quoted
import TableTypes.Unicode.Printable

/-!
# Text that shows every character

The notation of messages for a text that may hold anything: double quotes around it, and an escape
for each character that could not be seen or would join with the one before it.
-/

namespace TableTypes.Text

/-- A character by its number. -/
def numbered (c : Char) : List Char :=
  ['\\', 'u', '\x7b'] ++ hexDigits c.toNat ++ ['\x7d']

/-- How a message shows a character. -/
def showChar (c : Char) : List Char :=
  match c with
  | '\x00' => ['\\', '0']
  | '\t' => ['\\', 't']
  | '\n' => ['\\', 'n']
  | '\r' => ['\\', 'r']
  | '"' => ['\\', '"']
  | '\\' => ['\\', '\\']
  | c => if Unicode.isPrintable c && !Unicode.isExtending c then [c] else numbered c

/-- How a message shows a text. -/
def shown (s : String) : String :=
  "\"" ++ String.ofList (s.toList.flatMap showChar) ++ "\""

end TableTypes.Text
