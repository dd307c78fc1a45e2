/-!
# Dates and times of day

Dates, times and both together as TOML writes them, in canonical notation: `T` between date and
time, seconds always, and no zeros at the end of their fraction.
-/

namespace TableTypes.Toml

/-- The value of decimal digits, if there are just so many of them. -/
def digits? (count : Nat) (cs : List Char) : Option Nat :=
  if cs.length = count && cs.all Char.isDigit then
    some (cs.foldl (fun n c => 10 * n + (c.toNat - 48)) 0)
  else none

/-- The days of a month. -/
def daysIn (year month : Nat) : Nat :=
  if month = 2 then
    if year % 4 = 0 && (year % 100 ≠ 0 || year % 400 = 0) then 29 else 28
  else if [4, 6, 9, 11].contains month then 30
  else 31

/-- A date, and the characters behind it. -/
def readDate? (cs : List Char) : Option (List Char × List Char) :=
  match cs with
  | y1 :: y2 :: y3 :: y4 :: '-' :: m1 :: m2 :: '-' :: d1 :: d2 :: rest => do
    let year ← digits? 4 [y1, y2, y3, y4]
    let month ← digits? 2 [m1, m2]
    let day ← digits? 2 [d1, d2]
    if 1 ≤ month ∧ month ≤ 12 ∧ 1 ≤ day ∧ day ≤ daysIn year month then
      return (cs.take 10, rest)
    else none
  | _ => none

/-- The fraction of a second: nine digits count, and zeros at the end do not. -/
def readSecondFraction? (cs : List Char) : Option (List Char × List Char) :=
  match cs with
  | '.' :: rest =>
    match rest.span Char.isDigit with
    | ([], _) => none
    | (digits, rest) =>
      match ((digits.take 9).reverse.dropWhile (· = '0')).reverse with
      | [] => some ([], rest)
      | digits => some ('.' :: digits, rest)
  | cs => some ([], cs)

/-- The seconds of a time, which may be left out, and the characters behind them. -/
def readSeconds? (cs : List Char) : Option (List Char × List Char) :=
  match cs with
  | ':' :: s1 :: s2 :: rest => do
    let seconds ← digits? 2 [s1, s2]
    if 60 < seconds then none
    let (fraction, rest) ← readSecondFraction? rest
    return (':' :: s1 :: s2 :: fraction, rest)
  | ':' :: _ => none
  | cs => some ([':', '0', '0'], cs)

/-- Hours and minutes. -/
def readHours? (cs : List Char) : Option (List Char × List Char) :=
  match cs with
  | h1 :: h2 :: ':' :: m1 :: m2 :: rest => do
    let hours ← digits? 2 [h1, h2]
    let minutes ← digits? 2 [m1, m2]
    if hours ≤ 23 ∧ minutes ≤ 59 then return (cs.take 5, rest) else none
  | _ => none

/-- A time of day, and the characters behind it. -/
def readTime? (cs : List Char) : Option (List Char × List Char) := do
  let (hours, rest) ← readHours? cs
  let (seconds, rest) ← readSeconds? rest
  return (hours ++ seconds, rest)

/-- The distance from universal time, which must be all that is left. -/
def readOffset? (cs : List Char) : Option (List Char) :=
  match cs with
  | [] => some []
  | ['Z'] => some ['Z']
  | ['z'] => some ['Z']
  | sign :: rest =>
    if sign = '+' || sign = '-' then
      match readHours? rest with
      | some (hours, []) => some (sign :: hours)
      | _ => none
    else none

/-- The canonical notation of a date, a time of day, or both. -/
def readMoment? (cs : List Char) : Option (List Char) :=
  match readDate? cs with
  | some (date, []) => some date
  | some (date, separator :: rest) =>
    if ['T', 't', ' '].contains separator then do
      let (time, rest) ← readTime? rest
      let offset ← readOffset? rest
      return date ++ 'T' :: time ++ offset
    else none
  | none =>
    match readTime? cs with
    | some (time, []) => some time
    | _ => none

end TableTypes.Toml
