import MarkupTemplate.Text.Basic

/-!
Hexadecimal digits, written in lower case and read in either.
-/

namespace MarkupTemplate
namespace Text

def hexadecimal (n : Nat) : List Char :=
  Nat.toDigits 16 n

def hexadecimalValue? (c : Char) : Option Nat :=
  if c.isDigit then some (c.toNat - '0'.toNat)
  else if 'a' ≤ c && c ≤ 'f' then some (c.toNat - 'a'.toNat + 10)
  else if 'A' ≤ c && c ≤ 'F' then some (c.toNat - 'A'.toNat + 10)
  else none

/-- A number of exactly so many further digits, behind those that make `read`. -/
def readHexadecimalFrom (read : Nat) : Nat → Reader Nat
  | 0, text => some (read, text)
  | _ + 1, [] => none
  | count + 1, c :: text => do
      let value ← hexadecimalValue? c
      readHexadecimalFrom (16 * read + value) count text

def readHexadecimal (count : Nat) : Reader Nat :=
  readHexadecimalFrom 0 count

end Text
end MarkupTemplate
