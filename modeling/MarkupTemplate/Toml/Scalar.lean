import MarkupTemplate.Toml.Basic
import MarkupTemplate.Toml.DateTime
import MarkupTemplate.Toml.Quoted

/-!
Values that are written as one word: booleans, integers, floating-point numbers, dates and times.
-/

namespace MarkupTemplate
namespace Toml

def digitGroups? (isDigit : Char → Bool) : List Char → Option (List Char)
  | [] => none
  | [c] => if isDigit c then some [c] else none
  | c :: '_' :: text =>
      if isDigit c then (digitGroups? isDigit text).map (c :: ·) else none
  | c :: text => if isDigit c then (digitGroups? isDigit text).map (c :: ·) else none

/-- Decimal digits in groups, which begin with zero only if there is no other digit. -/
def wholeDigits? (text : List Char) : Option (List Char) := do
  let digits ← digitGroups? Char.isDigit text
  if 1 < digits.length && digits.head? == some '0' then none else some digits

def ofInt (value : Int) : Toml :=
  if -Int.ofNat (Nat.pow 2 127) ≤ value && value < Int.ofNat (Nat.pow 2 128) then .integer value
  else .unreadable

def ofMagnitude (value : Double) : Toml :=
  match value.finite? with
  | some finite => .float (.finite finite)
  | none => .unreadable

def natOfRadix (radix : Nat) (digits : List Char) : Nat :=
  digits.foldl (fun n c => radix * n + (Text.hexadecimalValue? c).getD 0) 0

def isRadixDigit (radix : Nat) (c : Char) : Bool :=
  match Text.hexadecimalValue? c with
  | some value => decide (value < radix)
  | none => false

def isHexadecimal (c : Char) : Bool :=
  isRadixDigit 16 c

/-- Whether every underscore of an integer stands between two digits, which for this purpose may be
hexadecimal; `behindDigit` tells whether the text stands behind a digit. -/
def separates (behindDigit : Bool) : List Char → Bool
  | [] => true
  | c :: text =>
      if c = '_' then behindDigit && text.head?.any isHexadecimal && separates false text
      else separates (isHexadecimal c) text

/-- The digits behind the mark of a radix. There may be none, and then they cannot be read. -/
def radixInteger? (radix : Nat) (text : List Char) : Option Toml :=
  let digits := text.filter (· != '_')
  if separates false text && digits.all (isRadixDigit radix) then
    some (if digits.isEmpty then .unreadable else ofInt (natOfRadix radix digits))
  else none

/-- A decimal integer begins with a digit, and with zero only if nothing follows. Digits first and
an underscore behind them are enough for a word to count as one, but only digits can be read. -/
def decimalInteger? (text : List Char) : Option Toml :=
  let (negative, unsigned) := Decimal.sign text
  let (first, rest) := Decimal.digitRun unsigned
  let digits := unsigned.filter (· != '_')
  let size : Int := Decimal.natOfDigits digits
  if first.isEmpty || (unsigned.head? == some '0' && 1 < unsigned.length) then none
  else if !(rest.isEmpty || rest.head? == some '_') then none
  else if rest.any (['.', 'e', 'E'].contains ·) || !separates false unsigned then none
  else if digits.all Char.isDigit then some (ofInt (if negative then -size else size))
  else some .unreadable

def breakAt (p : Char → Bool) (text : List Char) : List Char × Option (List Char) :=
  match text.dropWhile fun c => !p c with
  | [] => (text, none)
  | _ :: rest => (text.takeWhile fun c => !p c, some rest)

def floatExponent? : Option (List Char) → Option Int
  | none => some 0
  | some text => do
      let (negative, unsigned) := Decimal.sign text
      let digits ← digitGroups? Char.isDigit unsigned
      let size : Int := Decimal.natOfDigits digits
      some (if negative then -size else size)

def floatPart? : Option (List Char) → Option (List Char)
  | none => some []
  | some text => digitGroups? Char.isDigit text

def decimalFloat? (text : List Char) : Option Toml := do
  let (negative, unsigned) := Decimal.sign text
  let (mantissa, exponentText) := breakAt (fun c => c == 'e' || c == 'E') unsigned
  let (wholeText, partText) := breakAt (· == '.') mantissa
  let whole ← wholeDigits? wholeText
  let part ← floatPart? partText
  let exponent ← floatExponent? exponentText
  if partText.isSome || exponentText.isSome then
    some (ofMagnitude (Decimal.assemble negative whole part exponent))
  else none

def specialFloat? (text : List Char) : Option Toml :=
  let (negative, unsigned) := Decimal.sign text
  if unsigned = "inf".toList then some (.float (.infinite negative))
  else if unsigned = "nan".toList then some (.float .nan)
  else none

def dateTime? (text : List Char) : Option Toml :=
  if DateTime.isValid text then some (.dateTime text) else none

def boolean? (text : List Char) : Option Toml :=
  if text = "true".toList then some (.boolean true)
  else if text = "false".toList then some (.boolean false)
  else none

def scalar? (text : List Char) : Option Toml :=
  match text with
  | '0' :: 'x' :: digits => radixInteger? 16 digits
  | '0' :: 'o' :: digits => radixInteger? 8 digits
  | '0' :: 'b' :: digits => radixInteger? 2 digits
  | _ =>
      (boolean? text).or <| (specialFloat? text).or <| (decimalInteger? text).or <|
        (dateTime? text).or (decimalFloat? text)

def endsWord (c : Char) : Bool :=
  ['=', ',', '[', ']', '\x7b', '\x7d', '#', ' ', '\t', '\r', '\n'].contains c

def isWordChar (c : Char) : Bool :=
  !endsWord c

def timeBehind (word rest : List Char) : List Char :=
  match rest with
  | ' ' :: c :: text =>
      if DateTime.date? word == some [] && c.isDigit then
        ' ' :: (c :: text).takeWhile isWordChar
      else []
  | _ => []

def readScalar : Text.Reader Toml := fun text =>
  let word := text.takeWhile isWordChar
  let rest := text.dropWhile isWordChar
  let time := timeBehind word rest
  (scalar? (word ++ time)).map fun value => (value, rest.drop time.length)

end Toml
end MarkupTemplate
