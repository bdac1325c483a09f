import MarkupTemplate.Json.Writer
import MarkupTemplate.Number.Decimal
import MarkupTemplate.Text.Blank

/-!
What a JSON value counts as where a truth value, a number or a text is asked for.
-/

namespace MarkupTemplate

/-- Whole floating-point numbers below `10 ^ 21` show as integers, without a sign of zero. -/
def Number.displayText : Number → List Char
  | .int value => Layout.intText value
  | .float value =>
      match value.whole? with
      | some whole =>
          if whole < Nat.pow 10 21 then
            Layout.signText (value.negative && whole != 0) ++ Layout.natText whole
          else Json.numberText (.float value)
      | none => Json.numberText (.float value)

namespace Json

def isTruthy : Json → Bool
  | .null => false
  | .bool value => value
  | .number value => !value.toDouble.equal .zero
  | .string value => !value.isEmpty
  | .array _ | .object _ => true

def displayText : Json → List Char
  | .null => []
  | .bool value => boolText value
  | .number value => value.displayText
  | .string value => value.toList
  | .array items => text (.array items)
  | .object members => text (.object members)

/-- The number of a string that is not blank is the one it spells, blanks around it aside. -/
def numberOfText (value : List Char) : Double :=
  let trimmed := Text.trim value
  if trimmed.isEmpty then .zero else (Decimal.read? trimmed).getD .nan

def toDouble : Json → Double
  | .null => .zero
  | .bool value => Double.ofInt (if value then 1 else 0)
  | .number value => value.toDouble
  | .string value => numberOfText value.toList
  | .array _ | .object _ => .nan

end Json
end MarkupTemplate
