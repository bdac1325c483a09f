import MarkupTemplate.Number.Rounding

/-!
The fewest decimal digits that identify a double: among the decimals that round to it, one with
the fewest digits, and of those the nearest. All arithmetic is exact.
-/

namespace MarkupTemplate

inductive Tie
  | even
  | up
deriving DecidableEq, Repr

/-- Decimal digits, the first not zero, with the point before the digit number `point`: the value
is `0.d₁d₂… * 10 ^ point`. -/
structure Digits where
  digits : List Char
  point : Int
deriving DecidableEq, Repr

namespace Shortest

/-- The reals that round to a double, and the double itself, over a common denominator. -/
structure Interval where
  low : Nat
  value : Nat
  high : Nat
  denominator : Nat
  /-- Whether the two ends round to the double too. -/
  closed : Bool

/-- From halfway to the magnitude below up to halfway to the one above. Below a power of two the
gap is half as wide. -/
def interval (x : Finite) : Interval :=
  let quarter := Nat.pow 2 x.gap
  let value := 4 * x.significand * quarter
  let below := if x.significand = Nat.pow 2 52 && x.gap > 0 then quarter else 2 * quarter
  { low := value - below
    value := value
    high := value + 2 * quarter
    denominator := 4 * Finite.unitsPerOne
    closed := x.significand % 2 == 0 }

def Interval.scale (range : Interval) (exponent : Int) : Interval :=
  let up := Nat.pow 10 (-exponent).toNat
  { range with
    low := range.low * up
    value := range.value * up
    high := range.high * up
    denominator := range.denominator * Nat.pow 10 exponent.toNat }

def Interval.holds (range : Interval) (n : Nat) : Bool :=
  let point := n * range.denominator
  if range.closed then range.low ≤ point && point ≤ range.high
  else range.low < point && point < range.high

def Interval.nearest? (tie : Tie) (range : Interval) : Option Nat :=
  let below := range.value / range.denominator
  match range.holds below, range.holds (below + 1) with
  | false, false => none
  | true, false => some below
  | false, true => some (below + 1)
  | true, true =>
      match compare (2 * range.value) ((2 * below + 1) * range.denominator) with
      | .lt => some below
      | .gt => some (below + 1)
      | .eq =>
          match tie with
          | .up => some (below + 1)
          | .even => some (if below % 2 = 0 then below else below + 1)

/-- The least `k` with value below `10 ^ k`, found upward from a binary estimate that is at most
two short of it. -/
def magnitude (range : Interval) : Int :=
  let binary : Int := (range.value.log2 : Int) - range.denominator.log2
  let estimate := (binary - 1) * 30103 / 100000
  let below (k : Int) : Bool := (range.scale k).value < (range.scale k).denominator
  if below estimate then estimate
  else if below (estimate + 1) then estimate + 1
  else if below (estimate + 2) then estimate + 2
  else estimate + 3

def digitsOf (n : Nat) (exponent : Int) : Digits :=
  let all := Nat.toDigits 10 n
  { digits := (all.reverse.dropWhile (· == '0')).reverse, point := exponent + all.length }

/-- The shortest digits of a magnitude other than zero. Seventeen digits tell all doubles apart;
what no grid identifies keeps the digits of the finest. -/
def digits (tie : Tie) (x : Finite) : Digits :=
  let range := interval x
  let k := magnitude range
  let found := (List.range 17).findSome? fun n =>
    let exponent := k - (n + 1 : Nat)
    ((range.scale exponent).nearest? tie).map fun n => digitsOf n exponent
  match found with
  | some digits => digits
  | none =>
      let finest := range.scale (k - 17)
      digitsOf (finest.value / finest.denominator) (k - 17)

end Shortest
end MarkupTemplate
