import MarkupTemplate.Scope.Path
import MarkupTemplate.Text.Entity
import MarkupTemplate.Text.Word

/-!
Markers: paths between double braces, which rendering replaces by the text shown for the path. A
text is cut into markers and the characters between them, from the left and without overlap.
-/

namespace MarkupTemplate

structure Marker where
  before : List Char
  path : List Char
  after : List Char
deriving DecidableEq, Repr

namespace Marker

def isPathChar (c : Char) : Bool :=
  Text.isWord c || c == '.' || c == '$'

def source (marker : Marker) : List Char :=
  '\x7b' :: '\x7b' :: marker.before ++ marker.path ++ marker.after ++ ['\x7d', '\x7d']

def inside? (text : List Char) : Option (Marker × List Char) :=
  let opened := text.dropWhile Text.isBlank
  let behind := opened.dropWhile isPathChar
  let marker : Marker :=
    ⟨text.takeWhile Text.isBlank, opened.takeWhile isPathChar, behind.takeWhile Text.isBlank⟩
  match behind.dropWhile Text.isBlank with
  | '\x7d' :: '\x7d' :: rest => if marker.path.isEmpty then none else some (marker, rest)
  | _ => none

def read? : List Char → Option (Marker × List Char)
  | '\x7b' :: '\x7b' :: text => inside? text
  | _ => none

theorem append_of_inside?
    {text rest : List Char} {marker : Marker}
    (found : inside? text = some (marker, rest)) :
    '\x7b' :: '\x7b' :: text = marker.source ++ rest := by
  simp only [inside?] at found
  split at found
  · next behind_eq =>
      split at found
      · contradiction
      · cases found
        have blanks := List.takeWhile_append_dropWhile (p := Text.isBlank) (l := text)
        have path := List.takeWhile_append_dropWhile (p := isPathChar)
          (l := text.dropWhile Text.isBlank)
        have after := List.takeWhile_append_dropWhile (p := Text.isBlank)
          (l := (text.dropWhile Text.isBlank).dropWhile isPathChar)
        rw [behind_eq] at after
        rw [← after] at path
        rw [← path] at blanks
        simpa [source] using blanks.symm
  · contradiction

theorem append_of_read?
    {text rest : List Char} {marker : Marker}
    (found : read? text = some (marker, rest)) :
    text = marker.source ++ rest := by
  unfold read? at found
  split at found
  · exact append_of_inside? found
  · contradiction

theorem read?_shorter
    {text rest : List Char} {marker : Marker}
    (found : read? text = some (marker, rest)) :
    rest.length < text.length := by
  rw [append_of_read? found]
  simp [source]
  omega

end Marker

/-- A part of a text. -/
inductive Piece
  | literal (c : Char)
  | marker (marker : Marker)
deriving DecidableEq, Repr

namespace Piece

def source : Piece → List Char
  | .literal c => [c]
  | .marker found => found.source

def isMarker : Piece → Bool
  | .literal _ => false
  | .marker _ => true

def split (text : List Char) : List Piece :=
  match text with
  | [] => []
  | c :: text =>
      match _read : Marker.read? (c :: text) with
      | some (found, rest) => .marker found :: split rest
      | none => .literal c :: split text
termination_by text.length
decreasing_by
  · exact Marker.read?_shorter _read
  · simp

theorem split_sources (text : List Char) : (split text).flatMap source = text := by
  fun_induction split text with
  | case1 => rfl
  | case2 c text found rest read ih =>
      simp [ih, source, ← Marker.append_of_read? read]
  | case3 c text _ ih => simp [ih, source]

end Piece

inductive Insertion
  | escaped
  | verbatim
deriving DecidableEq, Repr

namespace Insertion

def apply : Insertion → List Char → List Char
  | .escaped, text => Text.escape text
  | .verbatim, text => text

end Insertion

def Piece.render (insertion : Insertion) (scope : Scope) : Piece → List Char
  | .literal c => [c]
  | .marker found => insertion.apply (scope.display found.path)

def hasMarker (text : List Char) : Bool :=
  (Piece.split text).any Piece.isMarker

/-- A text with each marker replaced, once: what a value brings in is not read again. -/
def interpolate (insertion : Insertion) (scope : Scope) (text : List Char) : List Char :=
  (Piece.split text).flatMap (Piece.render insertion scope)

end MarkupTemplate
