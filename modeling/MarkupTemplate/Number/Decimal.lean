import MarkupTemplate.Number.Rounding
import MarkupTemplate.Text.Basic

/-!
Numbers read from text: an optional sign, then digits with at most one point and at least one
digit, then an optional exponent; or the words for infinity and NaN in any case of letters.
-/

namespace MarkupTemplate
namespace Decimal

def digitValue (c : Char) : Nat :=
  c.toNat - '0'.toNat

def natOfDigits (digits : List Char) : Nat :=
  digits.foldl (fun n c => 10 * n + digitValue c) 0

def digitRun (text : List Char) : List Char × List Char :=
  Text.run Char.isDigit text

def sign : List Char → Bool × List Char
  | '-' :: text => (true, text)
  | '+' :: text => (false, text)
  | text => (false, text)

def fraction : List Char → List Char × List Char
  | '.' :: text => digitRun text
  | text => ([], text)

/-- The exponent that a whole text spells; the empty text spells zero. -/
def exponent? : List Char → Option Int
  | [] => some 0
  | mark :: text =>
      if mark = 'e' || mark = 'E' then
        let (negative, digits) := sign text
        if digits.isEmpty || !digits.all Char.isDigit then none
        else some (if negative then -(natOfDigits digits : Int) else natOfDigits digits)
      else none

def assemble (negative : Bool) (whole part : List Char) (exponent : Int) : Double :=
  Double.ofDecimal negative (natOfDigits (whole ++ part)) (exponent - part.length)

def special? (negative : Bool) (text : List Char) : Option Double :=
  let word := text.map Char.toLower
  if word = "inf".toList || word = "infinity".toList then some (.infinite negative)
  else if word = "nan".toList then some .nan
  else none

def read? (text : List Char) : Option Double :=
  let (negative, unsigned) := sign text
  match special? negative unsigned with
  | some value => some value
  | none =>
      let (whole, afterWhole) := digitRun unsigned
      let (part, afterPart) := fraction afterWhole
      if whole.isEmpty && part.isEmpty then none
      else (exponent? afterPart).map (assemble negative whole part)

end Decimal
end MarkupTemplate
