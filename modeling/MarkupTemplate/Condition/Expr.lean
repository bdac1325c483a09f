import MarkupTemplate.Condition.Token
import MarkupTemplate.Json.Basic

/-!
The tree of a condition.
-/

namespace MarkupTemplate
namespace Condition

inductive Expr
  | literal (value : Json)
  | path (path : List Char)
  | not (operand : Expr)
  | and (left right : Expr)
  | or (left right : Expr)
  | compare (comparison : Comparison) (left right : Expr)
deriving Repr

end Condition
end MarkupTemplate
