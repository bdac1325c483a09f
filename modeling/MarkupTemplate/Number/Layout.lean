import MarkupTemplate.Number.Shortest

/-!
How the digits of a number are laid out as text.
-/

namespace MarkupTemplate

/-- The decisions of a number format. Numbers whose leading digit has an exponent from `plainFrom`
up to fifteen are written positionally with at least one digit behind the point, all others with
an exponent. -/
structure Layout where
  plainFrom : Int
  /-- Whether an exponent that is not negative has a sign. -/
  plusSign : Bool
  tie : Tie

namespace Layout

def signText (negative : Bool) : List Char :=
  if negative then ['-'] else []

def natText (n : Nat) : List Char :=
  Nat.toDigits 10 n

def intText (n : Int) : List Char :=
  signText (decide (n < 0)) ++ natText n.natAbs

def zeros (count : Nat) : List Char :=
  List.replicate count '0'

def plain (number : Digits) : List Char :=
  if number.point ≤ 0 then "0.".toList ++ zeros (-number.point).toNat ++ number.digits
  else
    let count := number.point.toNat
    if number.digits.length ≤ count then
      number.digits ++ zeros (count - number.digits.length) ++ ".0".toList
    else number.digits.take count ++ '.' :: number.digits.drop count

def exponential (layout : Layout) (number : Digits) : List Char :=
  let exponent := number.point - 1
  let plus := if layout.plusSign && decide (0 ≤ exponent) then ['+'] else []
  let rest := number.digits.drop 1
  number.digits.take 1 ++ (if rest.isEmpty then [] else '.' :: rest) ++ 'e' :: plus ++
    intText exponent

def finiteText (layout : Layout) (x : Finite) : List Char :=
  let magnitude :=
    if x.isZero then "0.0".toList
    else
      let number := Shortest.digits layout.tie x
      let exponent := number.point - 1
      if layout.plainFrom ≤ exponent && exponent < 16 then plain number
      else layout.exponential number
  signText x.negative ++ magnitude

def infinityText (negative : Bool) : List Char :=
  signText negative ++ "inf".toList

def text (layout : Layout) : Double → List Char
  | .nan => "NaN".toList
  | .infinite negative => infinityText negative
  | .finite x => layout.finiteText x

end Layout
end MarkupTemplate
