import MarkupTemplate.Proofs.Markup.Nesting
import MarkupTemplate.Proofs.Text.Bytes

/-!
Markup read by a cursor that counts bytes. The cursor steps from byte to byte, also inside a
character, and takes every piece of text as a slice between two positions. Two things can go wrong:
a slice that does not exist, and a loop or a recursion that does not end. For the second one every
loop and every level of the recursion is given a number of steps, of which each turn takes one.
-/

namespace MarkupTemplate
namespace Markup
namespace Cursor

open Text (byteLength bytes isAsciiByte isBoundary sees slice?)

inductive Fault
  /-- An end of the slice is out of range or inside a character, or the ends are out of order. -/
  | slice (start stop : Nat)
  | steps
deriving DecidableEq, Repr

def slice (text : List Char) (start stop : Nat) : Except Fault (List Char) :=
  match slice? text start stop with
  | some piece => .ok piece
  | none => .error (.slice start stop)

theorem slice_ok_iff {text : List Char} {start stop : Nat} :
    (∃ piece, slice text start stop = .ok piece) ↔
      isBoundary text start = true ∧ isBoundary text stop = true ∧ start ≤ stop ∧
        stop ≤ byteLength text := by
  rw [← Text.slice?_isSome_iff, Option.isSome_iff_exists, slice]
  cases slice? text start stop <;> simp

def sliceFrom (text : List Char) (start : Nat) : Except Fault (List Char) :=
  slice text start (byteLength text)

/-- The first position from the cursor on where it may not go on. -/
def advance (goesOn : Nat → Bool) : Nat → Nat → Except Fault Nat
  | 0, _ => .error .steps
  | steps + 1, pos => if goesOn pos then advance goesOn steps (pos + 1) else .ok pos

def advanceTo (p : Char → Bool) (text : List Char) (steps pos : Nat) : Except Fault Nat :=
  advance (fun pos => decide (pos < byteLength text) && !sees p text pos) steps pos

def advanceOver (p : Char → Bool) (text : List Char) (steps pos : Nat) : Except Fault Nat :=
  advance (sees p text) steps pos

def find? (mark text : List Char) : Option Nat :=
  (Text.cut? mark text).map fun (before, _) => byteLength before

def isMarkupMark (c : Char) : Bool :=
  c.isAlpha || c == '/' || c == '!' || c == '?'

def atMarkup (text : List Char) (pos : Nat) : Bool :=
  sees (· == '<') text pos && sees isMarkupMark text (pos + 1)

/-- A run of text. Its first byte is taken in any case, so that a lone `<` is one too. -/
def textRun (text : List Char) (steps pos : Nat) : Except Fault (List Char × Nat) := do
  let opening ←
    advance (fun pos => decide (pos < byteLength text) && !atMarkup text pos) steps (pos + 1)
  let stop ← advance (fun pos => !isBoundary text pos) steps opening
  let body ← slice text pos stop
  return (body, stop)

/-- The name of the end tag at the cursor, which has to stand in front of a `</`. -/
def endTagName (text : List Char) (pos : Nat) : Except Fault (Option (List Char)) := do
  let rest ← sliceFrom text pos
  let named ← sliceFrom rest 2
  let length := ((bytes named).takeWhile (isAsciiByte isEndTagName)).length
  if length = 0 then
    return none
  else
    let after ← sliceFrom named length
    if (Text.trimStart after).head? = some '>' then
      let name ← slice named 0 length
      return some name
    else
      return none

def takeThrough (text : List Char) (pos : Nat) : Except Fault (List Char × Nat) := do
  let rest ← sliceFrom text pos
  let stop := match find? ['>'] rest with
    | some length => pos + length + 1
    | none => byteLength text
  let piece ← slice text pos stop
  return (piece, stop)

def comment (text : List Char) (pos : Nat) : Except Fault (Node × Nat) := do
  let inside ← sliceFrom text (pos + 4)
  match find? "-->".toList inside with
  | some length =>
      let body ← slice text (pos + 4) (pos + 4 + length)
      return (.comment body, pos + 4 + length + 3)
  | none =>
      let body ← sliceFrom text pos
      return (.text body, byteLength text)

def pushText (made : List Node) (body : List Char) : List Node :=
  if body.isEmpty then made else addText made body

def declaration (text : List Char) (made : List Node) (pos : Nat) :
    Except Fault (List Node × Nat) := do
  let rest ← sliceFrom text pos
  match find? ['>'] rest with
  | some length =>
      let source ← slice text pos (pos + length + 1)
      return (.declaration source :: made, pos + length + 1)
  | none =>
      let body ← sliceFrom text pos
      return (pushText made body, byteLength text)

def quotedValue (text : List Char) (quoting : Quoting) (pos : Nat) :
    Except Fault (Option ((Quoting × List Char) × Nat)) := do
  let rest ← sliceFrom text pos
  match find? quoting.mark rest with
  | some length =>
      let body ← slice text pos (pos + length)
      return some ((quoting, body), pos + length + 1)
  | none => return none

def value (text : List Char) (steps pos : Nat) :
    Except Fault (Option ((Quoting × List Char) × Nat)) := do
  if byteLength text ≤ pos then
    return none
  else if sees (· == '"') text pos then
    quotedValue text .double (pos + 1)
  else if sees (· == '\'') text pos then
    quotedValue text .single (pos + 1)
  else
    let stop ← advanceTo (fun c => !isBareValue c) text steps pos
    let body ← slice text pos stop
    return some ((.bare, body), stop)

inductive AttrTurn
  /-- The text ends before the tag does. -/
  | unfinished
  | ended (trailing : List Char) (selfClosing : Bool) (stop : Nat)
  | read (attr : Attr) (stop : Nat)

def isNameEnd (c : Char) : Bool :=
  Text.isMarkupBlank c || c == '=' || c == '>'

def atSelfClosing (text : List Char) (pos : Nat) : Bool :=
  sees (· == '/') text pos && sees (· == '>') text (pos + 1)

def advanceName (text : List Char) (steps pos : Nat) : Except Fault Nat := do
  let stop ← advance (fun pos => decide (pos < byteLength text) && !sees isNameEnd text pos &&
    !atSelfClosing text pos) steps pos
  if stop = pos then return pos + 1 else return stop

/-- The attribute behind its leading blanks, which begin at `opening`. -/
def attrAt (text : List Char) (leading : List Char) (opening steps pos : Nat) :
    Except Fault AttrTurn := do
  let nameEnd ← advanceName text steps pos
  let name ← slice text pos nameEnd
  let sign ← advanceOver Text.isMarkupBlank text steps nameEnd
  if sees (· == '=') text sign then
    let begin ← advanceOver Text.isMarkupBlank text steps (sign + 1)
    match ← value text steps begin with
    | none => return .unfinished
    | some ((quoting, body), stop) =>
        let before ← slice text nameEnd sign
        let after ← slice text (sign + 1) begin
        let _source ← slice text opening stop
        return .read ⟨leading, name, some ⟨before, after, quoting, body⟩⟩ stop
  else
    let _source ← slice text opening nameEnd
    return .read ⟨leading, name, none⟩ nameEnd

def attrTurn (text : List Char) (steps pos : Nat) : Except Fault AttrTurn := do
  let start ← advanceOver Text.isMarkupBlank text steps pos
  let leading ← slice text pos start
  if byteLength text ≤ start then
    return .unfinished
  else if sees (· == '>') text start then
    return .ended leading false (start + 1)
  else if atSelfClosing text start then
    return .ended leading true (start + 2)
  else
    attrAt text leading pos steps start

structure TagEnd where
  attrs : List Attr
  trailing : List Char
  selfClosing : Bool
  stop : Nat

/-- The attributes from the cursor on, behind those that are read, the latest first. -/
def attrs (text : List Char) : Nat → List Attr → Nat → Except Fault (Option TagEnd)
  | 0, _, _ => .error .steps
  | steps + 1, read, pos => do
      match ← attrTurn text steps pos with
      | .unfinished => return none
      | .ended trailing selfClosing stop => return some ⟨read.reverse, trailing, selfClosing, stop⟩
      | .read attr stop => attrs text steps (attr :: read) stop

def startTag (text : List Char) (steps pos : Nat) :
    Except Fault (Option ((StartTag × Bool) × Nat)) := do
  let nameEnd ← advanceTo (fun c => !isTagName c) text steps (pos + 1)
  let name ← slice text (pos + 1) nameEnd
  match ← attrs text steps [] nameEnd with
  | none => return none
  | some found =>
      return some ((⟨name, found.attrs, found.trailing⟩, found.selfClosing), found.stop)

inductive RawTurn
  | absent
  | found (length : Nat)
  | again (search : Nat)

def rawTurn (lowered mark : List Char) (search : Nat) : Except Fault RawTurn := do
  let behind ← sliceFrom lowered search
  match find? mark behind with
  | none => return .absent
  | some length =>
      let after ← sliceFrom lowered (search + length + byteLength mark)
      if (Text.trimStart after).head? = some '>' then
        return .found (search + length)
      else
        return .again (search + length + byteLength mark)

def rawSearch (lowered mark : List Char) : Nat → Nat → Except Fault (Option Nat)
  | 0, _ => .error .steps
  | steps + 1, search => do
      match ← rawTurn lowered mark search with
      | .absent => return none
      | .found length => return some length
      | .again search => rawSearch lowered mark steps search

/-- The beginning of the end tags of a raw text element, in lower case. -/
def rawMark (name : List Char) : List Char :=
  '<' :: '/' :: name.map Char.toLower

def rawContent (text : List Char) (tag : StartTag) (steps pos : Nat) :
    Except Fault (Node × Nat) := do
  let rest ← sliceFrom text pos
  match ← rawSearch (rest.map Char.toLower) (rawMark tag.name) steps 0 with
  | some length =>
      let body ← slice rest 0 length
      let (source, stop) ← takeThrough text (pos + length)
      return (rawNode tag body (some source), stop)
  | none => return (rawNode tag rest none, byteLength text)

/-- How an element whose nodes are read ends. An end tag of another name is left where it is. -/
def closing (text name : List Char) (pos : Nat) : Except Fault (Closing × Nat) := do
  if byteLength text ≤ pos then
    return (.missing, pos)
  else if (← endTagName text pos).any fun found => Text.sameName found name then
    let (source, stop) ← takeThrough text pos
    return (.explicit source, stop)
  else
    return (.missing, pos)

/-- What one turn of the loop over nodes comes to. -/
inductive Turn
  | again (made : List Node) (stop : Nat)
  /-- An end tag of an open element stands at the cursor. -/
  | pending

/-- A turn behind the nodes that are made, the latest first, with the names of the elements that
are open and a reader of elements. -/
def turn (text : List Char) (element : Nat → Except Fault (Node × Nat)) (steps : Nat)
    (opened : List (List Char)) (made : List Node) (pos : Nat) : Except Fault Turn := do
  if !atMarkup text pos then
    let (body, stop) ← textRun text steps pos
    return .again (pushText made body) stop
  else if sees (· == '/') text (pos + 1) then
    if (← endTagName text pos).any fun name => opened.any (Text.sameName name) then
      return .pending
    else
      let (source, stop) ← takeThrough text pos
      return .again (pushText made source) stop
  else
    let rest ← sliceFrom text pos
    if (Text.dropStart? "<!--".toList rest).isSome then
      let (node, stop) ← comment text pos
      return .again (node :: made) stop
    else if sees (fun c => c == '!' || c == '?') text (pos + 1) then
      let (made, stop) ← declaration text made pos
      return .again made stop
    else
      let (node, stop) ← element pos
      return .again (node :: made) stop

mutual

def nodes (text : List Char) :
    Nat → List (List Char) → List Node → Nat → Except Fault (List Node × Nat)
  | 0, _, _, _ => .error .steps
  | steps + 1, opened, made, pos => do
      if byteLength text ≤ pos then
        return (made.reverse, pos)
      else
        match ← turn text (fun pos => element text steps opened pos) steps opened made pos with
        | .again made pos => nodes text steps opened made pos
        | .pending => return (made.reverse, pos)

/-- The element at the cursor. Where elements nest too deep it is a text that goes to the end, and
so it is where the text ends before its start tag does. -/
def element (text : List Char) :
    Nat → List (List Char) → Nat → Except Fault (Node × Nat)
  | 0, _, _ => .error .steps
  | steps + 1, opened, pos => do
      if maxDepth ≤ opened.length then
        let body ← sliceFrom text pos
        return (.text body, byteLength text)
      else
        match ← startTag text steps pos with
        | none =>
            let body ← sliceFrom text pos
            return (.text body, byteLength text)
        | some ((tag, selfClosing), inside) =>
            if selfClosing then
              return (.element tag [] .selfClosing, inside)
            else if Vocabulary.isVoid tag.name then
              return (.element tag [] .void, inside)
            else if Vocabulary.isRawText tag.name then
              rawContent text tag steps inside
            else
              let (children, behind) ← nodes text steps (tag.name :: opened) [] inside
              let (closing, stop) ← closing text tag.name behind
              return (.element tag children closing, stop)

end

def parse (text : List Char) (steps : Nat) : Except Fault (List Node × Nat) :=
  nodes text steps [] [] 0

end Cursor
end Markup
end MarkupTemplate
