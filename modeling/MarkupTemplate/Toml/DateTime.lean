import MarkupTemplate.Number.Decimal
import MarkupTemplate.Text.Basic

/-!
Dates and times of a TOML document. Each reader returns what follows the part that it accepts.
-/

namespace MarkupTemplate
namespace Toml
namespace DateTime

def readDigits (count : Nat) : Text.Reader Nat := fun text =>
  let digits := text.take count
  if digits.length = count && digits.all Char.isDigit then
    some (Decimal.natOfDigits digits, text.drop count)
  else none

def char? (accepted : List Char) : List Char → Option (List Char)
  | [] => none
  | c :: rest => if accepted.contains c then some rest else none

def isLeap (year : Nat) : Bool :=
  year % 4 == 0 && (year % 100 != 0 || year % 400 == 0)

def daysIn (year month : Nat) : Nat :=
  if month = 2 then if isLeap year then 29 else 28
  else if [4, 6, 9, 11].contains month then 30
  else 31

def date? (text : List Char) : Option (List Char) := do
  let (year, rest) ← readDigits 4 text
  let rest ← char? ['-'] rest
  let (month, rest) ← readDigits 2 rest
  let rest ← char? ['-'] rest
  let (day, rest) ← readDigits 2 rest
  if 1 ≤ month && month ≤ 12 && 1 ≤ day && day ≤ daysIn year month then some rest else none

def hourMinute? (text : List Char) : Option (List Char) := do
  let (hour, rest) ← readDigits 2 text
  let rest ← char? [':'] rest
  let (minute, rest) ← readDigits 2 rest
  if hour < 24 && minute < 60 then some rest else none

def fraction? : List Char → Option (List Char)
  | '.' :: text =>
      let (digits, rest) := Decimal.digitRun text
      if digits.isEmpty then none else some rest
  | text => some text

/-- A time; seconds may be left out, and a leap second is one. -/
def time? (text : List Char) : Option (List Char) := do
  let rest ← hourMinute? text
  match rest with
  | ':' :: rest =>
      let (second, rest) ← readDigits 2 rest
      if second ≤ 60 then fraction? rest else none
  | rest => some rest

def offset? (text : List Char) : Option (List Char) :=
  match text with
  | [] => some []
  | c :: rest =>
      if c = 'Z' || c = 'z' then some rest
      else if c = '+' || c = '-' then hourMinute? rest
      else none

def isValid (text : List Char) : Bool :=
  match date? text with
  | some [] => true
  | some rest =>
      match ((char? ['T', 't', ' '] rest).bind time?).bind offset? with
      | some [] => true
      | _ => false
  | none => time? text == some []

end DateTime
end Toml
end MarkupTemplate
