import MarkupTemplate.Condition.Error
import MarkupTemplate.Condition.Expr

/-!
From tokens to the tree of a condition. `||` binds loosest, then `&&`, then one comparison between
two operands, then `!`. Every reader has a budget of nesting: a negation, a parenthesis and an
operator of a chain each take one unit of it for what stands to their right.
-/

namespace MarkupTemplate
namespace Condition
namespace Parser

/-- What a reader of tokens answers: a tree, and the tokens behind it. -/
abbrev Answer := Except Error (Expr × List Token)

def numberLiteral (value : Double) : Except Error Expr :=
  match value.finite? with
  | some finite => .ok (.literal (.number (.float finite)))
  | none => .error (.invalidNumber (Token.numberLayout.text value) 0)

def close (group : Expr) : List Token → Answer
  | .rightParen :: rest => .ok (group, rest)
  | other :: _ => .error (.unexpectedToken other)
  | [] => .error .unexpectedEnd

mutual

def disjunction (budget : Nat) (tokens : List Token) : Answer :=
  match conjunction budget tokens with
  | .error error => .error error
  | .ok (left, rest) => moreDisjuncts budget left rest
termination_by 6 * budget + 5

def moreDisjuncts (budget : Nat) (left : Expr) (tokens : List Token) : Answer :=
  match budget, tokens with
  | 0, .or :: _ => .error .tooDeep
  | budget + 1, .or :: rest =>
      match conjunction budget rest with
      | .error error => .error error
      | .ok (right, rest) => moreDisjuncts budget (.or left right) rest
  | _, tokens => .ok (left, tokens)
termination_by 6 * budget + 4

def conjunction (budget : Nat) (tokens : List Token) : Answer :=
  match comparison budget tokens with
  | .error error => .error error
  | .ok (left, rest) => moreConjuncts budget left rest
termination_by 6 * budget + 4

def moreConjuncts (budget : Nat) (left : Expr) (tokens : List Token) : Answer :=
  match budget, tokens with
  | 0, .and :: _ => .error .tooDeep
  | budget + 1, .and :: rest =>
      match comparison budget rest with
      | .error error => .error error
      | .ok (right, rest) => moreConjuncts budget (.and left right) rest
  | _, tokens => .ok (left, tokens)
termination_by 6 * budget + 3

/-- An operand, or two with a comparison between them. A second comparison is left unread. -/
def comparison (budget : Nat) (tokens : List Token) : Answer :=
  match operand budget tokens with
  | .error error => .error error
  | .ok (left, .compare comparison :: rest) =>
      match operand budget rest with
      | .error error => .error error
      | .ok (right, rest) => .ok (.compare comparison left right, rest)
  | .ok (left, rest) => .ok (left, rest)
termination_by 6 * budget + 2

def operand (budget : Nat) (tokens : List Token) : Answer :=
  match budget, tokens with
  | 0, .not :: _ => .error .tooDeep
  | budget + 1, .not :: rest =>
      match operand budget rest with
      | .error error => .error error
      | .ok (inner, rest) => .ok (.not inner, rest)
  | 0, .leftParen :: _ => .error .tooDeep
  | budget + 1, .leftParen :: rest =>
      match disjunction budget rest with
      | .error error => .error error
      | .ok (group, rest) => close group rest
  | _, .number value :: rest =>
      match numberLiteral value with
      | .error error => .error error
      | .ok literal => .ok (literal, rest)
  | _, .string value :: rest => .ok (.literal (.string (String.ofList value)), rest)
  | _, .truth value :: rest => .ok (.literal (.bool value), rest)
  | _, .null :: rest => .ok (.literal .null, rest)
  | _, .path path :: rest => .ok (.path path, rest)
  | _, other :: _ => .error (.unexpectedToken other)
  | _, [] => .error .unexpectedEnd
termination_by 6 * budget + 1

end

def parse (tokens : List Token) : Except Error Expr :=
  if tokens.isEmpty then .error .empty
  else
    match disjunction maxDepth tokens with
    | .error error => .error error
    | .ok (expr, []) => .ok expr
    | .ok (_, other :: _) => .error (.unexpectedToken other)

end Parser
end Condition
end MarkupTemplate
