import MarkupTemplate.Json.Coercion
import MarkupTemplate.Scope.Basic

/-!
Dotted paths. The first segment is a name of the scope, and each further one selects a member, an
item by position, or the length of an array or a string.
-/

namespace MarkupTemplate
namespace Scope

/-- The position that a segment spells: decimal digits, with a plus sign or without. -/
def position? (segment : List Char) : Option Nat :=
  let digits := match segment with
    | '+' :: digits => digits
    | _ => segment
  if digits.isEmpty || !digits.all Char.isDigit then none else some (Decimal.natOfDigits digits)

def index? (value : Json) (segment : List Char) : Option Json :=
  match value with
  | .object members => members.lookup (String.ofList segment)
  | .array items => (position? segment).bind fun position => items[position]?
  | _ => none

def size? : Json → Option Nat
  | .array items => some items.length
  | .string value => some value.toList.length
  | _ => none

def length? (value : Json) (segment : List Char) : Option Json :=
  if segment = "length".toList then (size? value).map fun size => .number (.ofNat size) else none

/-- One step along a path. A member of its own hides the length. -/
def step? (value : Json) (segment : List Char) : Option Json :=
  (index? value segment).or (length? value segment)

def walk? (value : Json) (segments : List (List Char)) : Option Json :=
  segments.foldlM step? value

def head (path : List Char) : List Char :=
  (Text.splitOn '.' path).headD []

def resolve? (scope : Scope) (path : List Char) : Option Json :=
  match Text.splitOn '.' path with
  | [] => none
  | name :: segments =>
      if name.isEmpty then none
      else (scope.lookup? (String.ofList name)).bind fun value => walk? value segments

def display (scope : Scope) (path : List Char) : List Char :=
  match scope.resolve? path with
  | some value => value.displayText
  | none => []

end Scope
end MarkupTemplate
