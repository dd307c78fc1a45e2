/-!
# Spans of code points

Character properties are kept as lists of arithmetic runs: the code points from `first` to `last`
in steps of `step`. Letters that alternate in case form runs of step two.
-/

namespace TableTypes.Unicode

/-- The code points `first`, `first + step`, …, up to `last`. -/
structure Span where
  first : Nat
  last : Nat
  step : Nat

/-- Whether a code point belongs to a span. -/
def Span.contains (s : Span) (n : Nat) : Bool :=
  s.first ≤ n && n ≤ s.last && (n - s.first) % s.step == 0

/-- Whether a character belongs to one of the spans. -/
def covers (spans : List Span) (c : Char) : Bool :=
  spans.any fun s => s.contains c.toNat

end TableTypes.Unicode
