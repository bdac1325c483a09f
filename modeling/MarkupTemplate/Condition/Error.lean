import MarkupTemplate.Condition.Token

/-!
Why a condition has no answer. Offsets count characters from the start of its source.
-/

namespace MarkupTemplate
namespace Condition

/-- How many negations, parentheses and earlier operators of its chains may stand around an
operand. -/
def maxDepth : Nat := 128

inductive Error
  | empty
  | unexpectedChar (c : Char) (offset : Nat)
  | unterminatedString (offset : Nat)
  | invalidNumber (text : List Char) (offset : Nat)
  | emptyPathSegment (offset : Nat)
  | unexpectedToken (token : Token)
  | unexpectedEnd
  /-- The first segment of a path is bound neither in the scope nor in its data. -/
  | unbound (name : List Char)
  | tooDeep
deriving DecidableEq, Repr

def Error.message : Error → String
  | .empty => "empty expression"
  | .unexpectedChar c offset =>
      "unexpected character '" ++ String.ofList [c] ++ "' at offset " ++ toString offset
  | .unterminatedString offset => "unterminated string starting at offset " ++ toString offset
  | .invalidNumber text offset =>
      "invalid number '" ++ String.ofList text ++ "' at offset " ++ toString offset
  | .emptyPathSegment offset => "empty path segment at offset " ++ toString offset
  | .unexpectedToken token => "unexpected token " ++ token.shown
  | .unexpectedEnd => "unexpected end of expression"
  | .unbound name => "'" ++ String.ofList name ++ "' is not defined"
  | .tooDeep => "expression nested deeper than " ++ toString maxDepth ++ " levels"

end Condition
end MarkupTemplate
