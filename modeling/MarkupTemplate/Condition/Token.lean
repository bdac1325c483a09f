import MarkupTemplate.Number.Layout
import MarkupTemplate.Text.Quoted

/-!
The words of a condition, and how an error shows one.
-/

namespace MarkupTemplate
namespace Condition

inductive Comparison
  | equal
  | notEqual
  | strictEqual
  | strictNotEqual
  | less
  | atMost
  | greater
  | atLeast
deriving DecidableEq, Repr

inductive Token
  | number (value : Double)
  | string (value : List Char)
  /-- A name with the segments of a dotted path behind it. -/
  | path (value : List Char)
  | truth (value : Bool)
  | null
  | not
  | and
  | or
  | compare (comparison : Comparison)
  | leftParen
  | rightParen
deriving DecidableEq, Repr

def Comparison.shown : Comparison → String
  | .equal => "Eq"
  | .notEqual => "NotEq"
  | .strictEqual => "StrictEq"
  | .strictNotEqual => "StrictNotEq"
  | .less => "Lt"
  | .atMost => "Le"
  | .greater => "Gt"
  | .atLeast => "Ge"

namespace Token

/-- Numbers in an error show as few digits as identify them, and no sign of a large exponent. -/
def numberLayout : Layout where
  plainFrom := -4
  plusSign := false
  tie := .up

/-- A token that can end an operand, so that a minus sign behind it is not the sign of a number. -/
def endsOperand : Token → Bool
  | .number _ | .string _ | .path _ | .truth _ | .null | .rightParen => true
  | _ => false

def wrapped (name : String) (content : List Char) : String :=
  name ++ "(" ++ String.ofList content ++ ")"

def shown : Token → String
  | .number value => wrapped "Number" (numberLayout.text value)
  | .string value => wrapped "Str" (Text.quoted value)
  | .path value => wrapped "Path" (Text.quoted value)
  | .truth true => "True"
  | .truth false => "False"
  | .null => "Null"
  | .not => "Not"
  | .and => "AndAnd"
  | .or => "OrOr"
  | .compare comparison => comparison.shown
  | .leftParen => "LParen"
  | .rightParen => "RParen"

end Token
end Condition
end MarkupTemplate
