import MarkupTemplate.Text.Blank
import MarkupTemplate.Text.Word

/-!
The value of a repeat attribute: `item in path` or `(item, index) in path`. Every reader takes its
part from the start of a text and returns the rest.
-/

namespace MarkupTemplate

structure Repeat where
  item : List Char
  index : Option (List Char)
  /-- The path of the array. -/
  source : List Char
deriving DecidableEq, Repr

namespace Repeat

def isNamePart (c : Char) : Bool :=
  Text.isWord c || c == '$'

def name? : List Char → Option (List Char × List Char)
  | [] => none
  | c :: text =>
      if Text.isNameStart c then some (c :: text.takeWhile isNamePart, text.dropWhile isNamePart)
      else none

/-- The segments of a path behind its name. A point that no segment follows is left unread. -/
def segments : List Char → List Char × List Char
  | [] => ([], [])
  | '.' :: c :: text =>
      if isNamePart c then ('.' :: c :: (segments text).1, (segments text).2)
      else ([], '.' :: c :: text)
  | c :: text =>
      if isNamePart c then (c :: (segments text).1, (segments text).2) else ([], c :: text)

def path? (text : List Char) : Option (List Char × List Char) := do
  let (name, rest) ← name? text
  some (name ++ (segments rest).1, (segments rest).2)

def gap? : List Char → Option (List Char)
  | [] => none
  | c :: text => if Text.isBlank c then some (Text.trimStart text) else none

def names? (text : List Char) : Option ((List Char × Option (List Char)) × List Char) :=
  match text with
  | '(' :: text => do
      let (item, rest) ← name? (Text.trimStart text)
      let rest ← Text.dropStart? [','] (Text.trimStart rest)
      let (index, rest) ← name? (Text.trimStart rest)
      let rest ← Text.dropStart? [')'] (Text.trimStart rest)
      some ((item, some index), rest)
  | text => do
      let (item, rest) ← name? text
      some ((item, none), rest)

def parse? (text : List Char) : Option Repeat := do
  let ((item, index), rest) ← names? (Text.trimStart text)
  let rest ← gap? rest
  let rest ← Text.dropStart? "in".toList rest
  let rest ← gap? rest
  let (source, rest) ← path? rest
  if (Text.trimStart rest).isEmpty then some ⟨item, index, source⟩ else none

end Repeat
end MarkupTemplate
