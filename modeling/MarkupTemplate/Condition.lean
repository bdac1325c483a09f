import MarkupTemplate.Condition.Evaluation
import MarkupTemplate.Condition.Lexer
import MarkupTemplate.Condition.Parser

/-!
Conditions: expressions over the names of a scope that are true or false. A condition is read once
and can be evaluated in any number of scopes.
-/

namespace MarkupTemplate

structure Condition where
  source : List Char
  expr : Condition.Expr
deriving Repr

namespace Condition

def Fault.error (source : List Char) (fault : Fault) : Error :=
  let offset := source.length - fault.remaining.length
  match fault.cause with
  | .unexpectedChar c => .unexpectedChar c offset
  | .unterminatedString => .unterminatedString offset
  | .invalidNumber text => .invalidNumber text offset
  | .emptyPathSegment => .emptyPathSegment offset

def tokenize (source : List Char) : Except Error (List Token) :=
  (Lexer.tokens true source).mapError (Fault.error source)

def parse (source : List Char) : Except Error Condition :=
  match tokenize source with
  | .error error => .error error
  | .ok tokens => (Parser.parse tokens).map fun expr => { source := source, expr := expr }

def evaluate (condition : Condition) (scope : Scope) : Except Error Bool :=
  condition.expr.holds scope

/-- Whether a source is a condition that holds; any error counts as no. -/
def holds (scope : Scope) (source : List Char) : Bool :=
  match parse source with
  | .error _ => false
  | .ok condition =>
      match condition.evaluate scope with
      | .error _ => false
      | .ok answer => answer

end Condition
end MarkupTemplate
