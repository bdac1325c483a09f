import MarkupTemplate.Proofs.Condition.StrictEquality

/-!
Loose and strict equality beside each other. Both work in both directions and the strict one implies
the loose one, from which it differs only between values of two kinds that are not both containers.
-/

namespace MarkupTemplate
namespace Condition

section Plain

variable {left right : Json}

theorem plainEqual_of_kind (sameKind : left.kind = right.kind) :
    plainEqual left right = strictlyEqual left right := by
  cases left <;> cases right <;> first | contradiction | rfl

/-- Null is equal to no value of another kind, and other values of two kinds are by number. -/
theorem plainEqual_of_kinds (otherKind : left.kind ≠ right.kind) :
    plainEqual left right = true ↔
      left.kind ≠ .null ∧ right.kind ≠ .null ∧ left.toDouble.equal right.toDouble = true := by
  cases left <;> cases right <;> first | contradiction | simp [plainEqual, Json.kind]

theorem plainEqual_comm (left right : Json) : plainEqual left right = plainEqual right left := by
  by_cases kinds : left.kind = right.kind
  · rw [plainEqual_of_kind kinds, plainEqual_of_kind kinds.symm, strictlyEqual_comm]
  · rw [Bool.eq_iff_iff, plainEqual_of_kinds kinds, plainEqual_of_kinds (Ne.symm kinds),
      Double.equal_comm]
    exact and_left_comm

end Plain

section Loose

variable {left right : Json}

theorem plainValue_of_plain (plain : left.isContainer = false) : plainValue left = left := by
  simp [plainValue, plain]

theorem isContainer_of_kind (sameKind : left.kind = right.kind) :
    left.isContainer = right.isContainer := by
  cases left <;> cases right <;> first | contradiction | rfl

theorem looselyEqual_of_plain (leftPlain : left.isContainer = false)
    (rightPlain : right.isContainer = false) :
    looselyEqual left right = plainEqual left right := by
  rw [looselyEqual, plainValue_of_plain leftPlain, plainValue_of_plain rightPlain, leftPlain]
  rfl

theorem looselyEqual_of_containers (leftHolds : left.isContainer = true)
    (rightHolds : right.isContainer = true) :
    looselyEqual left right = strictlyEqual left right := by
  have noNumber : left.kind ≠ .number := by
    cases left <;> first | contradiction | simp [Json.kind]
  rw [looselyEqual, leftHolds, rightHolds, strictlyEqual_of_kind noNumber]
  rfl

/-- Values of one kind, and containers of any kind, are loosely equal if they are strictly. -/
theorem looselyEqual_of_alike (alike : left.kind = right.kind ∨
    left.isContainer = true ∧ right.isContainer = true) :
    looselyEqual left right = strictlyEqual left right := by
  rcases alike with sameKind | holds
  · have together := isContainer_of_kind sameKind
    cases leftPlain : left.isContainer with
    | true => exact looselyEqual_of_containers leftPlain (together.symm.trans leftPlain)
    | false =>
        rw [looselyEqual_of_plain leftPlain (together.symm.trans leftPlain),
          plainEqual_of_kind sameKind]
  · exact looselyEqual_of_containers holds.1 holds.2

theorem looselyEqual_comm (left right : Json) :
    looselyEqual left right = looselyEqual right left := by
  rw [looselyEqual, looselyEqual, Json.same_comm, plainEqual_comm, Bool.and_comm]

end Loose

/-- Both equalities work in both directions, strict equality holds of each value and itself and
implies loose equality, and between values of one kind or between two containers they are one. -/
theorem equalities_cohere (left right : Json) :
    Comparison.equal.holds left right = Comparison.equal.holds right left ∧
    Comparison.strictEqual.holds left right = Comparison.strictEqual.holds right left ∧
    Comparison.strictEqual.holds left left = true ∧
    (Comparison.strictEqual.holds left right = true →
      Comparison.equal.holds left right = true) ∧
    (left.kind = right.kind ∨ left.isContainer = true ∧ right.isContainer = true →
      Comparison.equal.holds left right = Comparison.strictEqual.holds left right) := by
  refine ⟨looselyEqual_comm left right, strictlyEqual_comm left right, strictlyEqual_refl left,
    ?_, looselyEqual_of_alike⟩
  intro equal
  have sameKind := kind_of_strictlyEqual equal
  exact (looselyEqual_of_alike (.inl sameKind)).trans equal

/-- An array beside an object, and an integer beside a floating-point number. -/
theorem equalities_cohere_mixed :
    Comparison.equal.holds (.array [.null]) (.object [("k", .bool true)]) =
      Comparison.strictEqual.holds (.array [.null]) (.object [("k", .bool true)]) ∧
    Comparison.equal.holds (.number (.int 2)) (.number (.float floatingTwo)) = true := by
  have containers := equalities_cohere (.array [.null]) (.object [("k", .bool true)])
  have numbers := equalities_cohere (.number (.int 2)) (.number (.float floatingTwo))
  have equal : Comparison.strictEqual.holds (.number (.int 2)) (.number (.float floatingTwo)) =
      true := by decide +kernel
  exact ⟨containers.2.2.2.2 (.inr ⟨rfl, rfl⟩), numbers.2.2.2.1 equal⟩

end Condition
end MarkupTemplate
