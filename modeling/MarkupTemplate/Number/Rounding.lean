import MarkupTemplate.Number.Double

/-!
The double nearest to an exact number. Halfway cases go to the neighbour of even rank, and a
number beyond the last finite magnitude by half a gap or more goes to infinity.
-/

namespace MarkupTemplate

/-- The whole number nearest to a quotient; a half goes to the even neighbour. -/
def roundDiv (num den : Nat) : Nat :=
  let whole := num / den
  let twice := 2 * (num % den)
  if twice < den || (twice == den && whole % 2 == 0) then whole else whole + 1

/-- The rank nearest to `num / den`. Rounding up from the largest significand of a gap gives the
next rank, which is the smallest significand of the gap above. -/
def nearestRank (num den : Nat) : Nat :=
  let scaled := num * Finite.unitsPerOne
  let gap := (scaled / den).log2 - 52
  gap * Nat.pow 2 52 + roundDiv scaled (den * Nat.pow 2 gap)

namespace Double

def ofRatio (negative : Bool) (num den : Nat) : Double :=
  ofRank negative (nearestRank num den)

def ofInt (value : Int) : Double :=
  ofRatio (decide (value < 0)) value.natAbs 1

/-- `digits * 10 ^ exponent`. Exponents beyond the range are settled before any power is taken. -/
def ofDecimal (negative : Bool) (digits : Nat) (exponent : Int) : Double :=
  if digits = 0 then ofRank negative 0
  else if exponent > 400 then .infinite negative
  else if exponent + (digits.log2 / 3 + 1 : Nat) < -400 then ofRank negative 0
  else ofRatio negative (digits * Nat.pow 10 exponent.toNat) (Nat.pow 10 (-exponent).toNat)

end Double
end MarkupTemplate
