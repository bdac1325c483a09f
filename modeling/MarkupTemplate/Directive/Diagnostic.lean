import MarkupTemplate.Condition.Error
import MarkupTemplate.Json.Basic

/-!
Problems with directives. None of them stops rendering; each leaves out one element.
-/

namespace MarkupTemplate

inductive Problem
  | malformedRepeat
  /-- The source of a repeat is missing or a value of another kind. -/
  | repeatSourceNotArray (source : List Char) (found : Option Kind)
  | malformedCondition (error : Condition.Error)
  | conditionFailed (error : Condition.Error)
deriving DecidableEq, Repr

namespace Problem

def name : Problem → String
  | .malformedRepeat => "MalformedRepeat"
  | .repeatSourceNotArray _ _ => "RepeatSourceNotArray"
  | .malformedCondition _ => "MalformedCondition"
  | .conditionFailed _ => "ConditionFailed"

def kindPhrase : Option Kind → String
  | none => "nothing"
  | some .null => "null"
  | some .boolean => "a boolean"
  | some .number => "a number"
  | some .string => "a string"
  | some .array => "an array"
  | some .object => "an object"

def message : Problem → String
  | .malformedRepeat => "expected `item in path` or `(item, index) in path`"
  | .repeatSourceNotArray source found =>
      "`" ++ String.ofList source ++ "` resolved to " ++ kindPhrase found ++ ", not an array"
  | .malformedCondition error => error.message
  | .conditionFailed error => error.message

end Problem

structure Diagnostic where
  problem : Problem
  /-- The value of the directive, with its character references decoded. -/
  directive : List Char
deriving DecidableEq, Repr

namespace Diagnostic

def display (diagnostic : Diagnostic) : String :=
  diagnostic.problem.name ++ " in \"" ++ String.ofList diagnostic.directive ++ "\": " ++
    diagnostic.problem.message

end Diagnostic
end MarkupTemplate
