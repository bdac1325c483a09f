import Mathlib.Data.String.Basic
import MarkupTemplate.Proofs.Condition.LooseEquality

/-!
The four order operators beside each other and beside loose equality. All of them ask for one
order, which goes the other way when the operands change places and which only NaN does not have.
Values that are no containers are loosely equal if this order has them equal, null aside: it counts
as zero in the order but is equal to nothing else.
-/

namespace MarkupTemplate
namespace Condition

section Order

variable {left right : Json}

theorem order?_of_numbers (noStrings : ¬(left.kind = .string ∧ right.kind = .string)) :
    order? left right = left.toDouble.compare? right.toDouble := by
  match left, right with
  | .string _, .string _ => exact absurd ⟨rfl, rfl⟩ noStrings
  | .string _, .null | .string _, .bool _ | .string _, .number _ | .string _, .array _
  | .string _, .object _ => rfl
  | .null, _ | .bool _, _ | .number _, _ | .array _, _ | .object _, _ => rfl

theorem order?_swap (left right : Json) :
    (order? left right).map Ordering.swap = order? right left := by
  by_cases strings : left.kind = .string ∧ right.kind = .string
  · match left, right, strings with
    | .string s, .string t, _ =>
        change some (compare s t).swap = some (compare t s)
        rw [← Std.OrientedCmp.eq_swap]
  · rw [order?_of_numbers strings, order?_of_numbers (mt And.symm strings), Double.compare?_swap]

theorem order?_eq_none_iff (left right : Json) :
    order? left right = none ↔
      ¬(left.kind = .string ∧ right.kind = .string) ∧
        (left.toDouble = .nan ∨ right.toDouble = .nan) := by
  by_cases strings : left.kind = .string ∧ right.kind = .string
  · match left, right, strings with
    | .string s, .string t, strings => simp [order?, strings]
  · rw [order?_of_numbers strings, Double.compare?_eq_none_iff]
    exact (and_iff_right strings).symm

end Order

section Equality

variable {left right : Json}

theorem equal_bools_iff (left right : Bool) :
    strictlyEqual (.bool left) (.bool right) = true ↔
      order? (.bool left) (.bool right) = some .eq := by
  revert left right
  decide +kernel

theorem equal_numbers_iff (left right : Number) :
    strictlyEqual (.number left) (.number right) = true ↔
      order? (.number left) (.number right) = some .eq :=
  Double.equal_iff _ _

theorem equal_strings_iff (left right : String) :
    strictlyEqual (.string left) (.string right) = true ↔
      order? (.string left) (.string right) = some .eq := by
  simp [strictlyEqual, Json.same, order?]

/-- Between values of one kind neither equality asks for a number of a string. -/
theorem plainEqual_iff_order? (leftPlain : left.isContainer = false)
    (rightPlain : right.isContainer = false) (leftHeld : left.kind ≠ .null)
    (rightHeld : right.kind ≠ .null) :
    plainEqual left right = true ↔ order? left right = some .eq := by
  by_cases kinds : left.kind = right.kind
  · rw [plainEqual_of_kind kinds]
    cases left with
    | bool left =>
        cases right with
        | bool right => exact equal_bools_iff left right
        | _ => contradiction
    | number left =>
        cases right with
        | number right => exact equal_numbers_iff left right
        | _ => contradiction
    | string left =>
        cases right with
        | string right => exact equal_strings_iff left right
        | _ => contradiction
    | _ => contradiction
  · have noStrings : ¬(left.kind = .string ∧ right.kind = .string) :=
      fun strings => kinds (strings.1.trans strings.2.symm)
    rw [plainEqual_of_kinds kinds, order?_of_numbers noStrings, Double.equal_iff]
    simp [leftHeld, rightHeld]

theorem order?_null : order? .null .null = some .eq := by
  change Double.zero.compare? Double.zero = some .eq
  exact Double.compare?_self (Double.ofRank_ne_nan _ _)

theorem order?_of_plainEqual (leftPlain : left.isContainer = false)
    (rightPlain : right.isContainer = false) (equal : plainEqual left right = true) :
    order? left right = some .eq := by
  by_cases kinds : left.kind = right.kind
  · by_cases null : left.kind = .null
    · cases left with
      | null =>
          cases right with
          | null => exact order?_null
          | _ => contradiction
      | _ => contradiction
    · have rightHeld : right.kind ≠ .null := fun other => null (kinds.trans other)
      exact (plainEqual_iff_order? leftPlain rightPlain null rightHeld).1 equal
  · have parts := (plainEqual_of_kinds kinds).1 equal
    exact (plainEqual_iff_order? leftPlain rightPlain parts.1 parts.2.1).1 equal

end Equality

section Operators

variable (left right : Json)

theorem less_eq_greater :
    Comparison.less.holds left right = Comparison.greater.holds right left := by
  simp only [Comparison.holds, ← order?_swap left right]
  cases order? left right <;> simp

theorem atMost_eq_atLeast :
    Comparison.atMost.holds left right = Comparison.atLeast.holds right left := by
  simp only [Comparison.holds, ← order?_swap left right]
  cases order? left right <;> simp

theorem less_excludes_atLeast :
    ¬(Comparison.less.holds left right = true ∧ Comparison.atLeast.holds left right = true) := by
  simp only [Comparison.holds]
  cases order? left right with
  | none => simp
  | some order => cases order <;> simp

theorem both_iff_order? :
    Comparison.atMost.holds left right = true ∧ Comparison.atLeast.holds left right = true ↔
      order? left right = some .eq := by
  simp only [Comparison.holds]
  cases order? left right with
  | none => simp
  | some order => cases order <;> simp

theorem atMost_iff :
    Comparison.atMost.holds left right = true ↔
      Comparison.less.holds left right = true ∨
        Comparison.atMost.holds left right = true ∧
          Comparison.atLeast.holds left right = true := by
  rw [both_iff_order?]
  simp only [Comparison.holds]
  cases order? left right with
  | none => simp
  | some order => cases order <;> simp

theorem no_operator_iff_order? :
    (∀ operator ∈ [Comparison.less, .atMost, .greater, .atLeast],
      operator.holds left right = false) ↔ order? left right = none := by
  simp only [List.forall_mem_cons, Comparison.holds]
  cases order? left right with
  | none => simp
  | some order => cases order <;> simp

end Operators

section Strings

theorem less_strings (s t : String) :
    Comparison.less.holds (.string s) (.string t) = true ↔ s < t := by
  rw [← compare_lt_iff_lt]
  exact Ordering.isLT_iff_eq_lt

/-- Strings compare by the first code points in which they differ, and a beginning of a string
comes before it. -/
theorem less_strings_iff_lex (s t : String) :
    Comparison.less.holds (.string s) (.string t) = true ↔
      List.Lex (fun c d : Char => c.toNat < d.toNat) s.toList t.toList := by
  rw [less_strings, String.lt_iff_toList_lt]
  exact List.lt_iff_lex_lt _ _

end Strings

/-- The order operators are one order read in both directions, which only NaN is left out of.
Between values that are no containers, what is equal is neither less nor greater, and of what is
neither, null aside, the converse holds. Strings are strictly and totally ordered by code points. -/
theorem order_operators_cohere :
    (∀ left right : Json,
      Comparison.less.holds left right = Comparison.greater.holds right left ∧
      Comparison.atMost.holds left right = Comparison.atLeast.holds right left ∧
      ¬(Comparison.less.holds left right = true ∧ Comparison.atLeast.holds left right = true) ∧
      (Comparison.atMost.holds left right = true ↔
        Comparison.less.holds left right = true ∨
          Comparison.atMost.holds left right = true ∧
            Comparison.atLeast.holds left right = true) ∧
      ((∀ operator ∈ [Comparison.less, .atMost, .greater, .atLeast],
          operator.holds left right = false) ↔
        ¬(left.kind = .string ∧ right.kind = .string) ∧
          (left.toDouble = .nan ∨ right.toDouble = .nan)) ∧
      (left.isContainer = false → right.isContainer = false →
        (Comparison.equal.holds left right = true →
          Comparison.atMost.holds left right = true ∧
            Comparison.atLeast.holds left right = true) ∧
        (left.kind ≠ .null → right.kind ≠ .null →
          Comparison.atMost.holds left right = true →
          Comparison.atLeast.holds left right = true →
            Comparison.equal.holds left right = true))) ∧
    (∀ s t : String, Comparison.less.holds (.string s) (.string t) = true ↔
      List.Lex (fun c d : Char => c.toNat < d.toNat) s.toList t.toList) ∧
    (∀ s : String, Comparison.less.holds (.string s) (.string s) = false) ∧
    (∀ s t u : String, Comparison.less.holds (.string s) (.string t) = true →
      Comparison.less.holds (.string t) (.string u) = true →
        Comparison.less.holds (.string s) (.string u) = true) ∧
    ∀ s t : String, Comparison.less.holds (.string s) (.string t) = true ∨ s = t ∨
      Comparison.less.holds (.string t) (.string s) = true := by
  refine ⟨?_, less_strings_iff_lex, ?_, ?_, ?_⟩
  · intro left right
    refine ⟨less_eq_greater left right, atMost_eq_atLeast left right,
      less_excludes_atLeast left right, atMost_iff left right, ?_, ?_⟩
    · exact (no_operator_iff_order? left right).trans (order?_eq_none_iff left right)
    · intro leftPlain rightPlain
      have plain : Comparison.equal.holds left right = plainEqual left right :=
        looselyEqual_of_plain leftPlain rightPlain
      rw [plain]
      constructor
      · intro equal
        exact (both_iff_order? left right).2 (order?_of_plainEqual leftPlain rightPlain equal)
      · intro leftHeld rightHeld atMost atLeast
        have order := (both_iff_order? left right).1 ⟨atMost, atLeast⟩
        exact (plainEqual_iff_order? leftPlain rightPlain leftHeld rightHeld).2 order
  · intro s
    rw [Bool.eq_false_iff, ne_eq, less_strings]
    exact lt_irrefl s
  · intro s t u
    rw [less_strings, less_strings, less_strings]
    exact lt_trans
  · intro s t
    rw [less_strings, less_strings]
    exact lt_trichotomy s t

/-- A string beside the number that it spells, and three strings in their order. -/
theorem order_operators_cohere_twelve :
    Comparison.atMost.holds (.string " 12 ") (.number (.int 12)) = true ∧
    Comparison.equal.holds (.string " 12 ") (.number (.int 12)) = true ∧
    Comparison.less.holds (.string "") (.string "Z") = true ∧
    Comparison.less.holds (.string "Z") (.string "é") = true ∧
    Comparison.less.holds (.string "") (.string "é") = true := by
  have twelve := order_operators_cohere.1 (.string " 12 ") (.number (.int 12))
  have spelled : Comparison.equal.holds (.string " 12 ") (.number (.int 12)) = true := by
    decide +kernel
  have first : Comparison.less.holds (.string "") (.string "Z") = true := by decide +kernel
  have second : Comparison.less.holds (.string "Z") (.string "é") = true := by decide +kernel
  have plain := twelve.2.2.2.2.2 rfl rfl
  have both := plain.1 spelled
  exact ⟨both.1, plain.2 nofun nofun both.1 both.2, first, second,
    order_operators_cohere.2.2.2.1 _ _ _ first second⟩

end Condition
end MarkupTemplate
