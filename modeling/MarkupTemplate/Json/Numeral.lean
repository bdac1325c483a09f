import MarkupTemplate.Json.Basic
import MarkupTemplate.Number.Decimal
import MarkupTemplate.Number.PowerOfTen

/-!
The value of a JSON number. A number without fraction and exponent that fits 64 bits is an integer.
Any other is read from as many leading digits as fit 64 bits: they are rounded to a double, and the
point is moved by one multiplication or division.
-/

namespace MarkupTemplate
namespace Json

structure Numeral where
  negative : Bool
  whole : List Char
  /-- The digits behind the point, if there is one. -/
  part : Option (List Char)
  exponent : Option Int
deriving DecidableEq, Repr

namespace Numeral

/-- Leading digits of a number, and the power of ten that they are to be multiplied by. -/
structure Leading where
  digits : Nat
  exponent : Int
deriving DecidableEq, Repr

def wordSize : Nat := Nat.pow 2 64

/-- Takes digits before the point; those that no longer fit only move the point. -/
def Leading.takeWhole (leading : Leading) : List Char → Leading
  | [] => leading
  | c :: text =>
      let digits := 10 * leading.digits + Decimal.digitValue c
      if digits < wordSize then takeWhole ⟨digits, leading.exponent⟩ text
      else ⟨leading.digits, leading.exponent + (text.length + 1 : Nat)⟩

/-- Takes digits behind the point; those that no longer fit are left out. -/
def Leading.takePart (leading : Leading) : List Char → Leading
  | [] => leading
  | c :: text =>
      let digits := 10 * leading.digits + Decimal.digitValue c
      if digits < wordSize then takePart ⟨digits, leading.exponent - 1⟩ text else leading

def leading (numeral : Numeral) : Leading :=
  let digits := ((⟨0, 0⟩ : Leading).takeWhole numeral.whole).takePart (numeral.part.getD [])
  ⟨digits.digits, digits.exponent + numeral.exponent.getD 0⟩

/-- The integer that a number stands for; a negative zero is none. -/
def int? (numeral : Numeral) : Option Int :=
  let digits := Decimal.natOfDigits numeral.whole
  if numeral.part.isSome || numeral.exponent.isSome then none
  else if numeral.negative then
    if 0 < digits && digits ≤ Nat.pow 2 63 then some (-(digits : Int)) else none
  else if digits < wordSize then some digits
  else none

def float? (numeral : Numeral) : Option Finite := do
  let leading := numeral.leading
  let start ← (Double.ofRatio false leading.digits 1).finite?
  let value ← start.scale? leading.exponent
  some { value with negative := numeral.negative }

def value? (numeral : Numeral) : Option Number :=
  match numeral.int? with
  | some value => some (.int value)
  | none => numeral.float?.map .float

end Numeral
end Json
end MarkupTemplate
