import MarkupTemplate.Json.Basic
import MarkupTemplate.Number.Layout
import MarkupTemplate.Text.Hexadecimal

/-!
JSON text without blanks. Strings escape quotes, backslashes and the ASCII controls, and nothing
else.
-/

namespace MarkupTemplate
namespace Json

/-- Floating-point numbers always show a point or an exponent, and exponents show their sign. -/
def numberLayout : Layout where
  plainFrom := -5
  plusSign := true
  tie := .even

def unicodeEscape (n : Nat) : List Char :=
  let digits := Text.hexadecimal n
  "\\u".toList ++ List.replicate (4 - digits.length) '0' ++ digits

def escapeChar (c : Char) : List Char :=
  if c = '"' then ['\\', '"']
  else if c = '\\' then ['\\', '\\']
  else if c = '\x08' then ['\\', 'b']
  else if c = '\x0c' then ['\\', 'f']
  else if c = '\n' then ['\\', 'n']
  else if c = '\r' then ['\\', 'r']
  else if c = '\t' then ['\\', 't']
  else if c.toNat < 32 then unicodeEscape c.toNat
  else [c]

def stringText (value : String) : List Char :=
  '"' :: value.toList.flatMap escapeChar ++ ['"']

def numberText : Number → List Char
  | .int value => Layout.intText value
  | .float value => numberLayout.finiteText value

def boolText (value : Bool) : List Char :=
  if value then "true".toList else "false".toList

mutual

def text : Json → List Char
  | .null => "null".toList
  | .bool value => boolText value
  | .number value => numberText value
  | .string value => stringText value
  | .array items => '[' :: itemsText items ++ [']']
  | .object members => '\x7b' :: membersText members ++ ['\x7d']

def itemsText : List Json → List Char
  | [] => []
  | item :: items => text item ++ moreItemsText items

def moreItemsText : List Json → List Char
  | [] => []
  | item :: items => ',' :: text item ++ moreItemsText items

def membersText : List (String × Json) → List Char
  | [] => []
  | (name, value) :: members => stringText name ++ ':' :: text value ++ moreMembersText members

def moreMembersText : List (String × Json) → List Char
  | [] => []
  | (name, value) :: members =>
      ',' :: stringText name ++ ':' :: text value ++ moreMembersText members

end

end Json
end MarkupTemplate
