import MarkupTemplate.Number.Rounding

/-!
JSON values. An object holds its members in ascending order of their names, each name once; order
of names is order of code points.
-/

namespace MarkupTemplate

/-- Integers keep their full value; only what is written as a fraction or lies beyond 64 bits is a
floating-point number. -/
inductive Number
  | int (value : Int)
  | float (value : Finite)
deriving DecidableEq, Repr

namespace Number

def ofNat (n : Nat) : Number :=
  .int n

def toDouble : Number → Double
  | .int value => Double.ofInt value
  | .float value => .finite value

/-- Exact equality. An integer and a floating-point number are never the same, and the two zeros
are. -/
def same : Number → Number → Bool
  | .int left, .int right => left == right
  | .float left, .float right => left.key == right.key
  | _, _ => false

end Number

inductive Json
  | null
  | bool (value : Bool)
  | number (value : Number)
  | string (value : String)
  | array (items : List Json)
  | object (members : List (String × Json))
deriving Repr, Inhabited

inductive Kind
  | null
  | boolean
  | number
  | string
  | array
  | object
deriving DecidableEq, Repr

namespace Json

def kind : Json → Kind
  | .null => .null
  | .bool _ => .boolean
  | .number _ => .number
  | .string _ => .string
  | .array _ => .array
  | .object _ => .object

def setMember (name : String) (value : Json) : List (String × Json) → List (String × Json)
  | [] => [(name, value)]
  | (other, held) :: members =>
      if name < other then (name, value) :: (other, held) :: members
      else if name = other then (name, value) :: members
      else (other, held) :: setMember name value members

/-- The object with the given members; of a repeated name the last value counts. -/
def ofMembers (members : List (String × Json)) : Json :=
  .object (members.foldl (fun object (name, value) => setMember name value object) [])

def member? (name : String) : Json → Option Json
  | .object members => members.lookup name
  | _ => none

def items? : Json → Option (List Json)
  | .array items => some items
  | _ => none

def string? : Json → Option String
  | .string value => some value
  | _ => none

def isContainer : Json → Bool
  | .array _ | .object _ => true
  | _ => false

mutual

def same : Json → Json → Bool
  | .null, .null => true
  | .bool left, .bool right => left == right
  | .number left, .number right => left.same right
  | .string left, .string right => left == right
  | .array left, .array right => sameItems left right
  | .object left, .object right => sameMembers left right
  | _, _ => false

def sameItems : List Json → List Json → Bool
  | [], [] => true
  | left :: lefts, right :: rights => left.same right && sameItems lefts rights
  | _, _ => false

def sameMembers : List (String × Json) → List (String × Json) → Bool
  | [], [] => true
  | (leftName, left) :: lefts, (rightName, right) :: rights =>
      leftName == rightName && left.same right && sameMembers lefts rights
  | _, _ => false

end

end Json
end MarkupTemplate
