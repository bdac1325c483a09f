import MarkupTemplate.Condition.Equality
import MarkupTemplate.Condition.Error
import MarkupTemplate.Condition.Expr
import MarkupTemplate.Scope.Path

/-!
The value of a condition in a scope. The two logical operators answer one of their operands and
look at the right one only if the left one does not decide.
-/

namespace MarkupTemplate
namespace Condition

/-- The value of a path. Its name has to be bound; if a later segment leads nowhere, the value is
the empty string. -/
def pathValue (scope : Scope) (path : List Char) : Except Error Json :=
  match scope.lookup? (String.ofList (Scope.head path)) with
  | none => .error (.unbound (Scope.head path))
  | some _ => .ok ((scope.resolve? path).getD (.string ""))

def Expr.value (scope : Scope) : Expr → Except Error Json
  | .literal value => .ok value
  | .path dotted => pathValue scope dotted
  | .not operand =>
      match operand.value scope with
      | .error error => .error error
      | .ok value => .ok (.bool !value.isTruthy)
  | .and left right =>
      match left.value scope with
      | .error error => .error error
      | .ok value => if value.isTruthy then right.value scope else .ok value
  | .or left right =>
      match left.value scope with
      | .error error => .error error
      | .ok value => if value.isTruthy then .ok value else right.value scope
  | .compare comparison left right =>
      match left.value scope with
      | .error error => .error error
      | .ok leftValue =>
          match right.value scope with
          | .error error => .error error
          | .ok rightValue => .ok (.bool (comparison.holds leftValue rightValue))

def Expr.holds (scope : Scope) (expr : Expr) : Except Error Bool :=
  (expr.value scope).map Json.isTruthy

end Condition
end MarkupTemplate
