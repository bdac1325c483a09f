import MarkupTemplate.Proofs.Compiler.ReferencedNames
import MarkupTemplate.Proofs.Condition.Composition

/-!
What the answer of a condition hangs on. Evaluation fails in one way only, on a name that is bound
nowhere, and an answer it has given stays the same in every scope that binds the same names to the
same values, whatever else that scope binds.
-/

namespace MarkupTemplate
namespace Scope

structure Unbound (scope : Scope) (name : String) : Prop where
  layers : ∀ bindings ∈ scope.bindings :: scope.enclosing, ∀ value, (name, value) ∉ bindings
  data : scope.data.member? name = none

/-- Every name that is bound in the smaller scope is bound to the same value in the larger one. -/
def Extends (larger smaller : Scope) : Prop :=
  ∀ name value, smaller.lookup? name = some value → larger.lookup? name = some value

theorem lookup?_eq_none_iff (scope : Scope) (name : String) :
    scope.lookup? name = none ↔ scope.Unbound name := by
  simp only [lookup?, Option.or_eq_none_iff, List.findSome?_eq_none_iff, latest?_eq_none_iff]
  constructor
  · intro missing
    exact ⟨missing.1, missing.2⟩
  · intro unbound
    exact ⟨unbound.layers, unbound.data⟩

theorem Extends.resolve?_eq
    {larger smaller : Scope} (extended : larger.Extends smaller) {path : List Char} {value : Json}
    (bound : smaller.lookup? (String.ofList (head path)) = some value) :
    larger.resolve? path = smaller.resolve? path := by
  apply resolve?_agree
  intro name member
  rw [List.mem_singleton.1 member, bound]
  exact extended _ _ bound

theorem extends_self (scope : Scope) : scope.Extends scope :=
  fun _ _ bound => bound

/-- A layer in which a name is bound that was unbound hides nothing. -/
theorem extends_bind {scope : Scope} {name : String} (unbound : scope.Unbound name) (value : Json) :
    (scope.child.bind name value).Extends scope := by
  intro other held bound
  have distinct : other ≠ name := by
    rintro rfl
    rw [(lookup?_eq_none_iff scope other).2 unbound] at bound
    contradiction
  rw [lookup?_bind, if_neg distinct, lookup?_child]
  exact bound

end Scope

namespace Condition

section Operands

variable (scope : Scope)

theorem value_not (operand : Expr) :
    (Expr.not operand).value scope =
      (operand.value scope).bind fun value => .ok (.bool !value.isTruthy) := by
  rw [Expr.value]
  cases operand.value scope <;> rfl

theorem value_and (left right : Expr) :
    (Expr.and left right).value scope =
      (left.value scope).bind fun value =>
        if value.isTruthy then right.value scope else .ok value := by
  rw [Expr.value]
  cases left.value scope <;> rfl

theorem value_or (left right : Expr) :
    (Expr.or left right).value scope =
      (left.value scope).bind fun value =>
        if value.isTruthy then .ok value else right.value scope := by
  rw [Expr.value]
  cases left.value scope <;> rfl

theorem value_compare (comparison : Comparison) (left right : Expr) :
    (Expr.compare comparison left right).value scope =
      (left.value scope).bind fun leftValue =>
        (right.value scope).bind fun rightValue =>
          .ok (.bool (comparison.holds leftValue rightValue)) := by
  rw [Expr.value]
  cases left.value scope with
  | error error => rfl
  | ok leftValue => cases right.value scope <;> rfl

end Operands

/-- How a result lies to the one in a larger scope: a value is the same there, and a failure is that
of an unbound name among those given. -/
structure Stable (scope : Scope) (names : List (List Char)) (result larger : Except Error Json) :
    Prop where
  kept : ∀ value, result = .ok value → larger = .ok value
  unbound : ∀ error, result = .error error →
    ∃ name ∈ names, error = .unbound name ∧ scope.Unbound (String.ofList name)

namespace Stable

variable {scope : Scope} {names more : List (List Char)}

theorem ok (value : Json) : Stable scope names (.ok value) (.ok value) where
  kept := by
    rintro _ ⟨⟩
    rfl
  unbound := by
    rintro _ ⟨⟩

/-- An operand that is looked at behind another one is looked at with the same value of that one. -/
theorem bind
    {first firstLarger : Except Error Json} {second secondLarger : Json → Except Error Json}
    (stable : Stable scope names first firstLarger)
    (behind : ∀ value, Stable scope more (second value) (secondLarger value)) :
    Stable scope (names ++ more) (first.bind second) (firstLarger.bind secondLarger) := by
  cases evaluated : first with
  | error error =>
      obtain ⟨name, member, failed⟩ := stable.unbound error evaluated
      constructor
      · intro value read
        contradiction
      · rintro _ ⟨⟩
        exact ⟨name, List.mem_append_left _ member, failed⟩
  | ok value =>
      rw [stable.kept value evaluated]
      constructor
      · exact (behind value).kept
      · intro error read
        obtain ⟨name, member, failed⟩ := (behind value).unbound error read
        exact ⟨name, List.mem_append_right _ member, failed⟩

end Stable

section Evaluation

variable {scope larger : Scope}

theorem stable_pathValue (extended : larger.Extends scope) (path : List Char) :
    Stable scope [Scope.head path] (pathValue scope path) (pathValue larger path) := by
  cases found : scope.lookup? (String.ofList (Scope.head path)) with
  | none =>
      have failed : pathValue scope path = .error (.unbound (Scope.head path)) := by
        rw [pathValue, found]
      have unbound := (Scope.lookup?_eq_none_iff _ _).1 found
      rw [failed]
      constructor
      · intro value read
        contradiction
      · rintro _ ⟨⟩
        exact ⟨Scope.head path, List.mem_singleton_self _, rfl, unbound⟩
  | some value =>
      have here : pathValue scope path = .ok ((scope.resolve? path).getD (.string "")) := by
        rw [pathValue, found]
      have there : pathValue larger path = .ok ((scope.resolve? path).getD (.string "")) := by
        rw [pathValue, extended _ _ found, extended.resolve?_eq found]
      rw [here, there]
      exact Stable.ok _

theorem stable_value (extended : larger.Extends scope) (expr : Expr) :
    Stable scope expr.names (expr.value scope) (expr.value larger) := by
  induction expr with
  | literal value => exact Stable.ok value
  | path dotted => exact stable_pathValue extended dotted
  | not operand ih =>
      rw [value_not, value_not, Expr.names, ← List.append_nil operand.names]
      exact ih.bind fun value => Stable.ok _
  | and left right left_ih right_ih =>
      rw [value_and, value_and]
      apply left_ih.bind
      intro value
      split
      · exact right_ih
      · exact Stable.ok value
  | or left right left_ih right_ih =>
      rw [value_or, value_or]
      apply left_ih.bind
      intro value
      split
      · exact Stable.ok value
      · exact right_ih
  | compare comparison left right left_ih right_ih =>
      rw [value_compare, value_compare, Expr.names, ← List.append_nil right.names]
      apply left_ih.bind
      intro leftValue
      apply right_ih.bind
      intro rightValue
      exact Stable.ok _

theorem evaluate_eq (condition : Condition) (scope : Scope) :
    condition.evaluate scope = (condition.expr.value scope).bind fun value =>
      .ok value.isTruthy := by
  rw [evaluate, Expr.holds]
  cases condition.expr.value scope <;> rfl

theorem evaluate_extends (extended : larger.Extends scope) {condition : Condition} {answer : Bool}
    (evaluated : condition.evaluate scope = .ok answer) :
    condition.evaluate larger = .ok answer := by
  rw [evaluate_eq] at evaluated ⊢
  cases read : condition.expr.value scope with
  | error error =>
      rw [read] at evaluated
      contradiction
  | ok value =>
      rw [read] at evaluated
      rw [(stable_value extended condition.expr).kept value read]
      exact evaluated

theorem evaluate_error {condition : Condition} {error : Error}
    (failed : condition.evaluate scope = .error error) :
    ∃ name ∈ condition.expr.names,
      error = .unbound name ∧ scope.Unbound (String.ofList name) := by
  rw [evaluate_eq] at failed
  cases read : condition.expr.value scope with
  | error other =>
      rw [read] at failed
      cases failed
      exact (stable_value scope.extends_self condition.expr).unbound error read
  | ok value =>
      rw [read] at failed
      contradiction

end Evaluation

/-- An answer in one scope is the answer in every scope that binds the same names to the same
values. Evaluation fails only with the first segment of a path that is bound neither in the scope
nor in its data, so it does not fail where the first segments of all paths are bound. -/
theorem evaluation_needs_names_only (condition : Condition) (scope : Scope) :
    (∀ larger : Scope, larger.Extends scope → ∀ answer,
      condition.evaluate scope = .ok answer → condition.evaluate larger = .ok answer) ∧
    (∀ error, condition.evaluate scope = .error error →
      ∃ name ∈ condition.expr.names,
        error = .unbound name ∧ scope.Unbound (String.ofList name)) ∧
    ((∀ name ∈ condition.expr.names, ¬scope.Unbound (String.ofList name)) →
      ∃ answer, condition.evaluate scope = .ok answer) := by
  refine ⟨?_, ?_, ?_⟩
  · intro larger extended answer evaluated
    exact evaluate_extends extended evaluated
  · intro error failed
    exact evaluate_error failed
  · intro bound
    cases evaluated : condition.evaluate scope with
    | error error =>
        obtain ⟨name, member, _, unbound⟩ := evaluate_error evaluated
        exact absurd unbound (bound name member)
    | ok answer => exact ⟨answer, rfl⟩

def shopScope (opened : Bool) : Scope :=
  .root (.object [("guest", .bool true), ("open", .bool opened)])

def visitorSource : List Char :=
  "open && user.name || guest".toList

theorem user_unbound (opened : Bool) : (shopScope opened).Unbound "user" :=
  ((shopScope opened).lookup?_eq_none_iff "user").1 rfl

/-- While the shop is closed nobody asks for the user, who is looked for when it is open. -/
theorem evaluation_needs_names_only_visitor :
    ∃ condition, parse visitorSource = .ok condition ∧
      condition.evaluate ((shopScope false).child.bind "user" .null) = .ok true ∧
      condition.evaluate (shopScope true) = .error (.unbound "user".toList) ∧
      ∃ answer, condition.evaluate ((shopScope true).child.bind "user" .null) = .ok answer := by
  have read : (parse visitorSource).toOption.map (fun condition =>
      (condition.expr.names, (condition.evaluate (shopScope false)).toOption,
        (condition.evaluate (shopScope true)).toOption)) =
          some (["open".toList, "user".toList, "guest".toList], some true, none) := by
    decide +kernel
  obtain ⟨condition, parsed, outcomes⟩ := Option.map_eq_some_iff.1 read
  simp only [Prod.mk.injEq] at outcomes
  obtain ⟨names_eq, closed, opened⟩ := outcomes
  have extended := Scope.extends_bind (user_unbound false) .null
  have bound : ∀ name ∈ condition.expr.names,
      ¬((shopScope true).child.bind "user" .null).Unbound (String.ofList name) := by
    intro name member unbound
    rw [names_eq] at member
    have missing := (Scope.lookup?_eq_none_iff _ _).2 unbound
    simp only [List.mem_cons, List.not_mem_nil, or_false] at member
    rcases member with rfl | rfl | rfl <;> contradiction
  refine ⟨condition, ok_of_toOption parsed, ?_, ?_, ?_⟩
  · exact (evaluation_needs_names_only condition (shopScope false)).1 _ extended true
      (ok_of_toOption closed)
  · cases evaluated : condition.evaluate (shopScope true) with
    | ok answer =>
        rw [evaluated] at opened
        contradiction
    | error error =>
        obtain ⟨name, member, rfl, unbound⟩ :=
          (evaluation_needs_names_only condition (shopScope true)).2.1 error evaluated
        have missing := (Scope.lookup?_eq_none_iff _ _).2 unbound
        rw [names_eq] at member
        simp only [List.mem_cons, List.not_mem_nil, or_false] at member
        rcases member with rfl | rfl | rfl
        · contradiction
        · rfl
        · contradiction
  · exact (evaluation_needs_names_only condition _).2.2 bound

end Condition
end MarkupTemplate
