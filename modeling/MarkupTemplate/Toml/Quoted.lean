import MarkupTemplate.Text.Hexadecimal
import MarkupTemplate.Toml.Filler

/-!
TOML strings: basic ones with escapes between double quotes, literal ones between apostrophes, and
both over several lines between three of their marks.
-/

namespace MarkupTemplate
namespace Toml

open Text (Reader)

def readCodePoint (count : Nat) : Reader Char := fun text => do
  let (code, rest) ← Text.readHexadecimal count text
  if code < 0xD800 || (0xE000 ≤ code && code < 0x110000) then some (Char.ofNat code, rest)
  else none

def readEscape : Reader Char
  | 'b' :: rest => some ('\x08', rest)
  | 't' :: rest => some ('\t', rest)
  | 'n' :: rest => some ('\n', rest)
  | 'f' :: rest => some ('\x0c', rest)
  | 'r' :: rest => some ('\r', rest)
  | 'e' :: rest => some ('\x1b', rest)
  | '"' :: rest => some ('"', rest)
  | '\\' :: rest => some ('\\', rest)
  | 'x' :: rest => readCodePoint 2 rest
  | 'u' :: rest => readCodePoint 4 rest
  | 'U' :: rest => readCodePoint 8 rest
  | _ => none

/-- The rest of a basic string of one line; each character takes one unit of fuel. -/
def readBasic : Nat → Reader (List Char)
  | 0, _ => none
  | _ + 1, [] => none
  | fuel + 1, c :: text =>
      if c = '"' then some ([], text)
      else if c = '\\' then do
        let (decoded, rest) ← readEscape text
        let (value, rest) ← readBasic fuel rest
        some (decoded :: value, rest)
      else if isPlain c then do
        let (value, rest) ← readBasic fuel text
        some (c :: value, rest)
      else none

def readLiteral : Reader (List Char)
  | [] => none
  | c :: text =>
      if c = '\'' then some ([], text)
      else if isPlain c then (readLiteral text).map fun (value, rest) => (c :: value, rest)
      else none

/-- The end of a string over several lines. Two marks more than the three that close it are part
of the string. -/
def closing? (mark : Char) (text : List Char) : Option (List Char × List Char) :=
  let count := (text.takeWhile (· == mark)).length
  if count < 3 then none
  else
    let closed := min count 5
    some (List.replicate (closed - 3) mark, text.drop closed)

def continuation? (text : List Char) : Option (List Char) :=
  (newline? (skipBlank text)).map skipLines

/-- The rest of a string over several lines; a basic one has escapes. Line ends keep their
spelling. -/
def readLines (basic : Bool) (mark : Char) : Nat → Reader (List Char)
  | 0, _ => none
  | fuel + 1, text =>
      match closing? mark text with
      | some closed => some closed
      | none =>
          match readNewline text with
          | some (newline, rest) =>
              (readLines basic mark fuel rest).map fun (value, rest) => (newline ++ value, rest)
          | none =>
              match text with
              | [] => none
              | c :: text =>
                  if basic && c == '\\' then
                    match continuation? text with
                    | some rest => readLines basic mark fuel rest
                    | none => do
                        let (decoded, rest) ← readEscape text
                        let (value, rest) ← readLines basic mark fuel rest
                        some (decoded :: value, rest)
                  else if isPlain c then
                    (readLines basic mark fuel text).map fun (value, rest) => (c :: value, rest)
                  else none

/-- A line end directly behind the opening marks is not part of the string. -/
def readBlock (basic : Bool) (mark : Char) : Reader (List Char) := fun text =>
  let body := (newline? text).getD text
  readLines basic mark (body.length + 1) body

def readString : Reader (List Char)
  | '"' :: '"' :: '"' :: text => readBlock true '"' text
  | '\'' :: '\'' :: '\'' :: text => readBlock false '\'' text
  | '"' :: text => readBasic (text.length + 1) text
  | '\'' :: text => readLiteral text
  | _ => none

end Toml
end MarkupTemplate
