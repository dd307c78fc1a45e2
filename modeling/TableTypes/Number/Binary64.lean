/-!
# Binary floating-point numbers

A number of the 64-bit binary format as its bits, read from and written to decimal notation in exact
arithmetic. Reading rounds to the nearest number, a tie to the even one. Writing takes the fewest
digits that read back, of those the nearest, and uses no exponent.
-/

namespace TableTypes

/-- A 64-bit floating-point number by its bits: a sign, eleven bits of exponent and fifty-two of
fraction. -/
structure Binary64 where
  bits : UInt64
  deriving DecidableEq, Repr, Inhabited

namespace Binary64

/-- The bit above the fraction, which all but the smallest numbers have without storing it. -/
def hiddenBit : Nat := 0x10000000000000

/-- The bit of the sign. -/
def signBit : Nat := 0x8000000000000000

/-- The eleven exponent bits. -/
def exponentBits (x : Binary64) : Nat :=
  x.bits.toNat / hiddenBit % 0x800

/-- The fifty-two fraction bits. -/
def fraction (x : Binary64) : Nat :=
  x.bits.toNat % hiddenBit

/-- Whether the sign bit is set. -/
def isNegative (x : Binary64) : Bool :=
  signBit ≤ x.bits.toNat

/-- The integer factor of a finite number. -/
def mantissa (x : Binary64) : Nat :=
  if x.exponentBits = 0 then x.fraction else hiddenBit + x.fraction

/-- The power of two that a finite number's mantissa is multiplied by. -/
def exponent (x : Binary64) : Int :=
  (max x.exponentBits 1 : Nat) - 1075

/-- A number from its sign and the bits below it. -/
def ofMagnitude (negative : Bool) (magnitude : Nat) : Binary64 :=
  ⟨UInt64.ofNat ((if negative then signBit else 0) + magnitude)⟩

/-- The bits of infinity without its sign. -/
def infinityBits : Nat := 0x7ff * hiddenBit

/-- The quotient of two numbers rounded to the nearest integer, a tie to the even one. -/
def roundQuotient (num den : Nat) : Nat :=
  let q := num / den
  let r := num % den
  if 2 * r < den then q
  else if den < 2 * r then q + 1
  else if q % 2 = 0 then q else q + 1

/-- `num / (den * 2 ^ q)` as a pair of a numerator and a denominator. -/
def scaleTwo (num den : Nat) (q : Int) : Nat × Nat :=
  if 0 ≤ q then (num, den * Nat.pow 2 q.toNat) else (num * Nat.pow 2 (-q).toNat, den)

/-- The magnitude bits of the number nearest to a positive fraction. -/
def nearestBits (num den : Nat) : Nat :=
  let guess : Int := max ((Nat.log2 num : Int) - Nat.log2 den - 52) (-1074)
  let (n, d) := scaleTwo num den guess
  let q := if n / d < hiddenBit && -1074 < guess then guess - 1 else guess
  let (n, d) := scaleTwo num den q
  let m := roundQuotient n d
  if m < hiddenBit then m
  else min ((q + 1074).toNat * hiddenBit + m) infinityBits

/-- The number nearest to `digits * 10 ^ power`. -/
def ofScientific (negative : Bool) (digits : Nat) (power : Int) : Binary64 :=
  if digits = 0 then ofMagnitude negative 0
  else if 400 < power then ofMagnitude negative infinityBits
  else if power + Nat.log2 digits < -1200 then ofMagnitude negative 0
  else if 0 ≤ power then ofMagnitude negative (nearestBits (digits * Nat.pow 10 power.toNat) 1)
  else ofMagnitude negative (nearestBits digits (Nat.pow 10 (-power).toNat))

/-- Whether the fraction `num / den` rounds to the number with the given mantissa and exponent: it
lies between the midpoints to its neighbours, which count if the mantissa is even. -/
def roundsTo (mantissa : Nat) (exponent : Int) (num den : Nat) : Bool :=
  let narrow := mantissa = hiddenBit && -1074 < exponent
  let low := if narrow then 4 * mantissa - 1 else 4 * mantissa - 2
  let high := 4 * mantissa + 2
  let (n, d) := scaleTwo num den (exponent - 2)
  if mantissa % 2 = 0 then low * d ≤ n && n ≤ high * d else low * d < n && n < high * d

/-- `digits * 10 ^ power` as a fraction. -/
def decimalFraction (digits : Nat) (power : Int) : Nat × Nat :=
  if 0 ≤ power then (digits * Nat.pow 10 power.toNat, 1) else (digits, Nat.pow 10 (-power).toNat)

/-- The decimal with unit `10 ^ power` that rounds to the number, if there is one: the nearer of the
two multiples around it, and of two equally near ones the greater. -/
def decimalAt? (mantissa : Nat) (exponent : Int) (power : Int) : Option Nat :=
  let (vn, vd) := if 0 ≤ exponent then (mantissa * Nat.pow 2 exponent.toNat, 1)
    else (mantissa, Nat.pow 2 (-exponent).toNat)
  let (un, ud) := decimalFraction 1 power
  let below := vn * ud / (vd * un)
  let fits := fun k =>
    let (n, d) := decimalFraction k power
    roundsTo mantissa exponent n d
  let twice := 2 * (vn * ud % (vd * un))
  match fits below && below ≠ 0, fits (below + 1) with
  | true, true => if twice < vd * un then some below else some (below + 1)
  | true, false => some below
  | false, true => some (below + 1)
  | false, false => none

/-- The first unit, from the coarsest given one down, whose grid holds a decimal that rounds to the
number. -/
def searchUnit (mantissa : Nat) (exponent power : Int) : Nat → Nat × Int
  | 0 => (0, power)
  | tries + 1 =>
    match decimalAt? mantissa exponent power with
    | some k => (k, power)
    | none => searchUnit mantissa exponent (power - 1) tries

/-- The digits and the power of ten of the shortest decimal that rounds to a positive number. -/
def shortest (mantissa : Nat) (exponent : Int) : Nat × Int :=
  let magnitude : Int := ((Nat.log2 mantissa : Int) + exponent) * 1233 / 4096 + 2
  searchUnit mantissa exponent magnitude 22

/-- The digits of a whole number times a power of ten in positional notation. -/
def positional (digits : Nat) (power : Int) : String :=
  let ds := Nat.toDigits 10 digits
  if 0 ≤ power then String.ofList (ds ++ List.replicate power.toNat '0')
  else
    let places := (-power).toNat
    let padded := List.replicate (places + 1 - ds.length) '0' ++ ds
    let whole := padded.take (padded.length - places)
    let decimals := (padded.drop (padded.length - places)).reverse.dropWhile (· = '0') |>.reverse
    String.ofList (if decimals.isEmpty then whole else whole ++ '.' :: decimals)

/-- A number in decimal notation. -/
def text (x : Binary64) : String :=
  if x.exponentBits = 0x7ff then
    if x.fraction ≠ 0 then "NaN" else if x.isNegative then "-inf" else "inf"
  else
    let magnitude :=
      if x.mantissa = 0 then "0"
      else
        let (digits, power) := shortest x.mantissa x.exponent
        positional digits power
    if x.isNegative then "-" ++ magnitude else magnitude

/-- The value of a list of decimal digits. -/
def digitsValue (cs : List Char) : Nat :=
  cs.foldl (fun n c => 10 * n + (c.toNat - 48)) 0

/-- A whole number with an optional sign. -/
def signedDigits? (cs : List Char) : Option Int :=
  let (negative, ds) :=
    match cs with
    | '-' :: ds => (true, ds)
    | '+' :: ds => (false, ds)
    | ds => (false, ds)
  if ds.isEmpty || !ds.all Char.isDigit then none
  else some (if negative then -(digitsValue ds : Int) else digitsValue ds)

/-- The magnitude written by digits with an optional point and an optional exponent. -/
def unsigned? (negative : Bool) (cs : List Char) : Option Binary64 :=
  let whole := cs.takeWhile Char.isDigit
  let rest := cs.dropWhile Char.isDigit
  let (decimals, rest) :=
    match rest with
    | '.' :: rest => (rest.takeWhile Char.isDigit, rest.dropWhile Char.isDigit)
    | rest => ([], rest)
  if whole.isEmpty && decimals.isEmpty then none
  else
    let digits := digitsValue (whole ++ decimals)
    match rest with
    | [] => some (ofScientific negative digits (-(decimals.length : Int)))
    | e :: power =>
      if e = 'e' || e = 'E' then
        (signedDigits? power).map fun p => ofScientific negative digits (p - decimals.length)
      else none

/-- Reads decimal notation: an optional sign, digits with an optional point and exponent, or a word
for infinity or for no number, in any letter case. -/
def ofText? (s : String) : Option Binary64 :=
  let (negative, cs) :=
    match s.toList with
    | '-' :: cs => (true, cs)
    | '+' :: cs => (false, cs)
    | cs => (false, cs)
  let word := String.ofList (cs.map Char.toLower)
  if word = "inf" || word = "infinity" then some (ofMagnitude negative infinityBits)
  else if word = "nan" then some (ofMagnitude negative (infinityBits + hiddenBit / 2))
  else unsigned? negative cs

end Binary64

end TableTypes
