import TableTypes.Json.Reader
import TableTypes.Settings.Value
import TableTypes.Toml.Moment

/-!
# Numbers and words of TOML

Booleans, whole numbers in four bases, floating-point numbers and moments. Digits may have single
underscores between them, and decimal notation has no zero in front of other digits.
-/

namespace TableTypes.Toml

/-- Digits of some kind with single underscores between them, without the underscores. -/
def joinDigits? (isDigit : Char → Bool) : List Char → Option (List Char)
  | [] => none
  | [c] => if isDigit c then some [c] else none
  | c :: '_' :: rest => if isDigit c then (joinDigits? isDigit rest).map (c :: ·) else none
  | c :: rest => if isDigit c then (joinDigits? isDigit rest).map (c :: ·) else none

/-- A whole number that fits into 64 bits with a sign. -/
def wholeNumber? (n : Int) : Option Value :=
  if -0x8000000000000000 ≤ n ∧ n < 0x8000000000000000 then some (.integer n) else none

/-- The value of digits in a base. -/
def readBase? (base : Nat) (cs : List Char) : Option Value := do
  let isDigit (c : Char) : Bool := (Json.hexValue? c).any (· < base)
  let digits ← joinDigits? isDigit cs
  let n := digits.foldl (fun n c => base * n + (Json.hexValue? c).getD 0) 0
  wholeNumber? n

/-- A sign in front of a number, and the rest. -/
def splitSign (cs : List Char) : List Char × List Char :=
  cs.splitAt (if cs.head? = some '+' || cs.head? = some '-' then 1 else 0)

/-- The digits of a whole number in decimal notation. -/
def decimalDigits? (cs : List Char) : Option (List Char) := do
  let digits ← joinDigits? Char.isDigit cs
  if digits.head? = some '0' && digits.length > 1 then none else return digits

/-- A whole number in decimal notation. -/
def readDecimal? (cs : List Char) : Option Value := do
  let (sign, rest) := splitSign cs
  let digits ← decimalDigits? rest
  wholeNumber? (← Binary64.signedDigits? (sign ++ digits))

/-- The exponent of a floating-point number, if there is one. -/
def readPower? : List Char → Option (List Char)
  | [] => some []
  | _ :: rest => do
    let (sign, digits) := splitSign rest
    let digits ← joinDigits? Char.isDigit digits
    return 'e' :: sign ++ digits

/-- Whether a character begins an exponent. -/
def isPowerMark (c : Char) : Bool :=
  c = 'e' || c = 'E'

/-- A floating-point number, which must not be too large to be finite. -/
def readFloat? (cs : List Char) : Option Value := do
  let (sign, magnitude) := splitSign cs
  let word := String.ofList magnitude
  if word = "inf" || word = "nan" then
    return .float (← Binary64.ofText? (String.ofList cs))
  let power ← readPower? (magnitude.dropWhile (!isPowerMark ·))
  let mantissa := magnitude.takeWhile (!isPowerMark ·)
  let whole ← decimalDigits? (mantissa.takeWhile (· ≠ '.'))
  let decimals ←
    match mantissa.dropWhile (· ≠ '.') with
    | [] => if power.isEmpty then none else some []
    | _ :: decimals => (joinDigits? Char.isDigit decimals).map ('.' :: ·)
  let x ← Binary64.ofText? (String.ofList (sign ++ whole ++ decimals ++ power))
  if x.exponentBits = 0x7ff then none else return .float x

/-- The value of a word that is not quoted. -/
def readScalar? (cs : List Char) : Option Value :=
  match cs with
  | ['t', 'r', 'u', 'e'] => some (.boolean true)
  | ['f', 'a', 'l', 's', 'e'] => some (.boolean false)
  | '0' :: 'x' :: rest => readBase? 16 rest
  | '0' :: 'o' :: rest => readBase? 8 rest
  | '0' :: 'b' :: rest => readBase? 2 rest
  | cs =>
    (readDecimal? cs).or ((readFloat? cs).or
      ((readMoment? cs).map fun text => .moment (String.ofList text)))

end TableTypes.Toml
