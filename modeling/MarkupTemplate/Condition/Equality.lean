import MarkupTemplate.Condition.Token
import MarkupTemplate.Json.Coercion

/-!
How a condition compares two values. Two numbers compare as doubles; inside containers equality is
exact.
-/

namespace MarkupTemplate
namespace Condition

def strictlyEqual : Json → Json → Bool
  | .number left, .number right => left.toDouble.equal right.toDouble
  | left, right => left.same right

mutual

/-- The text that stands for a container beside a value that is none: the items of an array joined
by commas, and one fixed text for every object. -/
def joined : Json → List Char
  | .array items => joinedItems items
  | .object _ => "[object Object]".toList
  | other => other.displayText

def joinedItems : List Json → List Char
  | [] => []
  | item :: items => joined item ++ moreJoinedItems items

def moreJoinedItems : List Json → List Char
  | [] => []
  | item :: items => ',' :: joined item ++ moreJoinedItems items

end

def plainValue (value : Json) : Json :=
  if value.isContainer then .string (String.ofList (joined value)) else value

/-- Loose equality of values that are no containers: null equals only null, values of one kind
compare strictly, and others by their numbers. -/
def plainEqual (left right : Json) : Bool :=
  match left, right with
  | .null, .null => true
  | .null, _ => false
  | _, .null => false
  | left, right =>
      if left.kind = right.kind then strictlyEqual left right
      else left.toDouble.equal right.toDouble

def looselyEqual (left right : Json) : Bool :=
  if left.isContainer && right.isContainer then left.same right
  else plainEqual (plainValue left) (plainValue right)

/-- Strings are ordered by code points and everything else by number; NaN has no order. -/
def order? : Json → Json → Option Ordering
  | .string left, .string right => some (compare left right)
  | left, right => left.toDouble.compare? right.toDouble

def Comparison.holds (comparison : Comparison) (left right : Json) : Bool :=
  match comparison with
  | .equal => looselyEqual left right
  | .notEqual => !looselyEqual left right
  | .strictEqual => strictlyEqual left right
  | .strictNotEqual => !strictlyEqual left right
  | .less => (order? left right).any Ordering.isLT
  | .atMost => (order? left right).any Ordering.isLE
  | .greater => (order? left right).any Ordering.isGT
  | .atLeast => (order? left right).any Ordering.isGE

end Condition
end MarkupTemplate
