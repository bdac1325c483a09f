import MarkupTemplate.Number.Rounding

/-!
Scaling by powers of ten in floating point. The power is rounded to a double first, and so is the
product or the quotient.
-/

namespace MarkupTemplate
namespace Finite

def product (left right : Finite) : Double :=
  Double.ofRatio (left.negative != right.negative) (left.units * right.units)
    (unitsPerOne * unitsPerOne)

def quotient (left right : Finite) : Double :=
  Double.ofRatio (left.negative != right.negative) left.units right.units

/-- The largest power of ten that a double can hold. -/
def maxPower : Nat := 308

def powerOfTen? (exponent : Nat) : Option Finite :=
  (Double.ofDecimal false 1 exponent).finite?

def timesPower? (x : Finite) (exponent : Nat) : Option Finite := do
  let power ← powerOfTen? exponent
  (x.product power).finite?

def dividedByPower? (x : Finite) (exponent : Nat) : Option Finite := do
  let power ← powerOfTen? exponent
  (x.quotient power).finite?

/-- Divides by the largest power up to `count` times; zero is left alone. -/
def dividedByMaxPower? : Nat → Finite → Option Finite
  | 0, x => some x
  | count + 1, x =>
      if x.isZero then some x else (x.dividedByPower? maxPower).bind (dividedByMaxPower? count)

/-- Divides by a power that the largest one may have to be taken out of first. -/
def scaleDown? (x : Finite) (exponent : Nat) : Option Finite :=
  let count := (exponent - 1) / maxPower
  (dividedByMaxPower? count x).bind fun smaller =>
    smaller.dividedByPower? (exponent - count * maxPower)

def scale? (x : Finite) (exponent : Int) : Option Finite :=
  if exponent < 0 then x.scaleDown? exponent.natAbs
  else if exponent ≤ maxPower then x.timesPower? exponent.toNat
  else if x.isZero then some x
  else none

end Finite
end MarkupTemplate
