import MarkupTemplate.Json.Numeral
import MarkupTemplate.Text.Hexadecimal

/-!
Strict JSON. Numbers that no double can hold, escapes of lone surrogates, raw controls in strings,
and arrays and objects nested beyond a limit are refused.
-/

namespace MarkupTemplate
namespace Json

open Text (Reader readHexadecimal)

def isBlank (c : Char) : Bool :=
  c == ' ' || c == '\t' || c == '\n' || c == '\r'

def skipBlank (text : List Char) : List Char :=
  text.dropWhile isBlank

/-- What follows `\u`: a code point, or the two halves of a surrogate pair. -/
def readCodePoint : Reader Char := fun text => do
  let (unit, rest) ← readHexadecimal 4 text
  if 0xD800 ≤ unit && unit < 0xDC00 then
    match rest with
    | '\\' :: 'u' :: rest =>
        let (low, rest) ← readHexadecimal 4 rest
        if 0xDC00 ≤ low && low < 0xE000 then
          some (Char.ofNat (0x10000 + (unit - 0xD800) * 0x400 + (low - 0xDC00)), rest)
        else none
    | _ => none
  else if 0xDC00 ≤ unit && unit < 0xE000 then none
  else some (Char.ofNat unit, rest)

def readEscape : Reader Char
  | '"' :: rest => some ('"', rest)
  | '\\' :: rest => some ('\\', rest)
  | '/' :: rest => some ('/', rest)
  | 'b' :: rest => some ('\x08', rest)
  | 'f' :: rest => some ('\x0c', rest)
  | 'n' :: rest => some ('\n', rest)
  | 'r' :: rest => some ('\r', rest)
  | 't' :: rest => some ('\t', rest)
  | 'u' :: rest => readCodePoint rest
  | _ => none

/-- The rest of a string behind its opening quote; each character takes one unit of fuel. -/
def readString : Nat → Reader (List Char)
  | 0, _ => none
  | _ + 1, [] => none
  | fuel + 1, c :: text =>
      if c = '"' then some ([], text)
      else if c = '\\' then do
        let (decoded, rest) ← readEscape text
        let (value, rest) ← readString fuel rest
        some (decoded :: value, rest)
      else if c.toNat < 32 then none
      else do
        let (value, rest) ← readString fuel text
        some (c :: value, rest)

def readDigits : Reader (List Char) := fun text =>
  let (digits, rest) := Decimal.digitRun text
  if digits.isEmpty then none else some (digits, rest)

def readWhole : Reader (List Char)
  | '0' :: rest => if (rest.head?.map Char.isDigit).getD false then none else some (['0'], rest)
  | text => readDigits text

def readFraction : Reader (Option (List Char))
  | '.' :: text => do
      let (digits, rest) ← readDigits text
      some (some digits, rest)
  | text => some (none, text)

def readExponent : Reader (Option Int)
  | [] => some (none, [])
  | mark :: text =>
      if mark = 'e' || mark = 'E' then do
        let (negative, unsigned) := Decimal.sign text
        let (digits, rest) ← readDigits unsigned
        let size : Int := Decimal.natOfDigits digits
        some (some (if negative then -size else size), rest)
      else some (none, mark :: text)

def readNumeral : Reader Numeral := fun text => do
  let (negative, unsigned) := match text with
    | '-' :: unsigned => (true, unsigned)
    | _ => (false, text)
  let (whole, rest) ← readWhole unsigned
  let (part, rest) ← readFraction rest
  let (exponent, rest) ← readExponent rest
  some (⟨negative, whole, part, exponent⟩, rest)

def readNumber : Reader Number := fun text => do
  let (numeral, rest) ← readNumeral text
  let value ← numeral.value?
  some (value, rest)

def readWord (word : String) (value : Json) : Reader Json := fun text =>
  (Text.dropStart? word.toList text).map fun rest => (value, rest)

mutual

/-- A value without blanks before it. Each call takes one unit of fuel, and each array or object
one unit of depth. -/
def readValue : Nat → Nat → Reader Json
  | 0, _, _ => none
  | _ + 1, _, [] => none
  | fuel + 1, depth, c :: text =>
      if c = '"' then do
        let (value, rest) ← readString (text.length + 1) text
        some (.string (String.ofList value), rest)
      else if c = '[' then
        match depth with
        | 0 => none
        | depth + 1 =>
            match skipBlank text with
            | ']' :: rest => some (.array [], rest)
            | text => do
                let (items, rest) ← readItems fuel depth text
                some (.array items, rest)
      else if c = '\x7b' then
        match depth with
        | 0 => none
        | depth + 1 =>
            match skipBlank text with
            | '\x7d' :: rest => some (.object [], rest)
            | text => do
                let (members, rest) ← readMembers fuel depth text
                some (ofMembers members, rest)
      else if c = 'n' then readWord "null" .null (c :: text)
      else if c = 't' then readWord "true" (.bool true) (c :: text)
      else if c = 'f' then readWord "false" (.bool false) (c :: text)
      else do
        let (value, rest) ← readNumber (c :: text)
        some (.number value, rest)

def readItems : Nat → Nat → Reader (List Json)
  | 0, _, _ => none
  | fuel + 1, depth, text => do
      let (item, rest) ← readValue fuel depth text
      match skipBlank rest with
      | ']' :: rest => some ([item], rest)
      | ',' :: rest =>
          let (items, rest) ← readItems fuel depth (skipBlank rest)
          some (item :: items, rest)
      | _ => none

def readMembers : Nat → Nat → Reader (List (String × Json))
  | 0, _, _ => none
  | _ + 1, _, [] => none
  | fuel + 1, depth, c :: text =>
      if c = '"' then do
        let (name, rest) ← readString (text.length + 1) text
        match skipBlank rest with
        | ':' :: rest =>
            let (value, rest) ← readValue fuel depth (skipBlank rest)
            let pair := (String.ofList name, value)
            match skipBlank rest with
            | '\x7d' :: rest => some ([pair], rest)
            | ',' :: rest =>
                let (members, rest) ← readMembers fuel depth (skipBlank rest)
                some (pair :: members, rest)
            | _ => none
        | _ => none
      else none

end

/-- The value that a whole text spells, with arrays and objects nested up to `depth`. Two calls
stand for at least one character, so the fuel is never short. -/
def read? (depth : Nat) (text : List Char) : Option Json :=
  match readValue (2 * text.length + 2) depth (skipBlank text) with
  | some (value, rest) => if (skipBlank rest).isEmpty then some value else none
  | none => none

/-- How deep arrays and objects of a data document may nest. -/
def maxDepth : Nat := 127

def document? (text : List Char) : Option Json :=
  read? maxDepth text

end Json
end MarkupTemplate
