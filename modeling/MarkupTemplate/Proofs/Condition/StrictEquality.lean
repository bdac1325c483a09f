import MarkupTemplate.Condition.Equality
import MarkupTemplate.Proofs.Json.Sameness

/-!
Strict equality of values and of what contains them. Two numbers alone are equal if their doubles
are; inside an array or an object they have to be the same number. These two differ for twins only,
which are numbers of one value that are not the same, and for anything else strict equality is one
relation at every depth.
-/

namespace MarkupTemplate

/-- Numbers of one value that are not the same: an integer beside a floating-point number, or two
integers that one double stands for. -/
def Number.Twins : Number → Number → Prop
  | .int left, .int right =>
      left ≠ right ∧ (Double.ofInt left).equal (Double.ofInt right) = true
  | .int left, .float right => (Double.ofInt left).equal (.finite right) = true
  | .float left, .int right => (Double.finite left).equal (Double.ofInt right) = true
  | .float _, .float _ => False

namespace Json

def Twins : Json → Json → Prop
  | .number left, .number right => left.Twins right
  | _, _ => False

end Json

theorem Number.same_iff (left right : Number) :
    left.same right = true ↔
      left.toDouble.equal right.toDouble = true ∧ ¬left.Twins right := by
  cases left with
  | int left =>
      cases right with
      | int right =>
          constructor
          · intro same
            have equal : left = right := by simpa [Number.same] using same
            exact ⟨equal_of_same same, fun twins => twins.1 equal⟩
          · rintro ⟨equal, distinct⟩
            have same : left = right := by
              by_contra other
              exact distinct ⟨other, equal⟩
            simp [Number.same, same]
      | float right => simp [Number.same, Twins, toDouble]
  | float left =>
      cases right with
      | int right => simp [Number.same, Twins, toDouble]
      | float right =>
          rw [Double.equal_iff]
          simp [Number.same, Twins, toDouble, Double.compare?, Double.key?]

namespace Condition

section Strict

variable {left right : Json}

/-- Of values that are no numbers, strict equality is exact equality. -/
theorem strictlyEqual_of_kind (noNumber : left.kind ≠ .number) :
    strictlyEqual left right = left.same right := by
  cases left <;> first | contradiction | rfl

theorem strictlyEqual_refl (value : Json) : strictlyEqual value value = true := by
  cases value with
  | number number => exact Double.equal_self number.toDouble_ne_nan
  | _ => exact Json.same_refl _

theorem strictlyEqual_comm (left right : Json) :
    strictlyEqual left right = strictlyEqual right left := by
  cases left with
  | number left =>
      cases right with
      | number right => exact Double.equal_comm _ _
      | _ => rfl
  | _ =>
      rw [strictlyEqual_of_kind (by simp [Json.kind]), Json.same_comm]
      cases right <;> rfl

theorem kind_of_strictlyEqual (equal : strictlyEqual left right = true) :
    left.kind = right.kind := by
  cases left with
  | number left =>
      cases right with
      | number right => rfl
      | _ => contradiction
  | _ => exact Json.kind_of_same equal

end Strict

section Contained

theorem same_iff_strictlyEqual (x y : Json) :
    x.same y = true ↔ strictlyEqual x y = true ∧ ¬x.Twins y := by
  cases x with
  | number left =>
      cases y with
      | number right => exact left.same_iff right
      | _ => simp [strictlyEqual, Json.Twins]
  | _ => simp [strictlyEqual, Json.Twins]

theorem strictlyEqual_of_twins {x y : Json} (twins : x.Twins y) : strictlyEqual x y = true := by
  match x, y, twins with
  | .number (.int _), .number (.int _), twins => exact twins.2
  | .number (.int _), .number (.float _), twins => exact twins
  | .number (.float _), .number (.int _), twins => exact twins

theorem same_eq_strictlyEqual_iff (x y : Json) : x.same y = strictlyEqual x y ↔ ¬x.Twins y := by
  constructor
  · intro agree twins
    have same : x.same y = true := agree.trans (strictlyEqual_of_twins twins)
    exact ((same_iff_strictlyEqual x y).1 same).2 twins
  · intro distinct
    rw [Bool.eq_iff_iff, same_iff_strictlyEqual]
    exact and_iff_left distinct

theorem strictlyEqual_items (xs ys : List Json) :
    strictlyEqual (.array xs) (.array ys) = true ↔
      List.Forall₂ (fun x y => strictlyEqual x y = true ∧ ¬x.Twins y) xs ys := by
  simp only [← same_iff_strictlyEqual]
  exact Json.sameItems_iff xs ys

theorem strictlyEqual_item (x y : Json) :
    strictlyEqual (.array [x]) (.array [y]) = x.same y := by
  simp [strictlyEqual, Json.same, Json.sameItems]

theorem strictlyEqual_member (key : String) (x y : Json) :
    strictlyEqual (.object [(key, x)]) (.object [(key, y)]) = x.same y := by
  simp [strictlyEqual, Json.same, Json.sameMembers]

end Contained

/-- Twins are equal by themselves and unequal in an array or an object. Any other values are equal
in it exactly if they are equal by themselves, so two arrays are equal exactly if they are equally
long and have equal items that are no twins. -/
theorem contained_equal_iff (x y : Json) (key : String) (xs ys : List Json) :
    (Comparison.strictEqual.holds (.array [x]) (.array [y]) =
      Comparison.strictEqual.holds x y ↔ ¬x.Twins y) ∧
    (Comparison.strictEqual.holds (.object [(key, x)]) (.object [(key, y)]) =
      Comparison.strictEqual.holds x y ↔ ¬x.Twins y) ∧
    (Comparison.strictEqual.holds (.array xs) (.array ys) = true ↔
      List.Forall₂ (fun x y => Comparison.strictEqual.holds x y = true ∧ ¬x.Twins y) xs ys) := by
  simp only [Comparison.holds]
  rw [strictlyEqual_item, strictlyEqual_member]
  have agree := same_eq_strictlyEqual_iff x y
  exact ⟨agree, agree, strictlyEqual_items xs ys⟩

def floatingTwo : Finite :=
  ⟨false, 1024 * Nat.pow 2 52, by decide⟩

/-- The integer two and the floating-point number two, by themselves and in an array. -/
theorem contained_not_always_equal :
    ¬∀ (x y : Json) (key : String),
      Comparison.strictEqual.holds (.array [x]) (.array [y]) =
        Comparison.strictEqual.holds x y ∧
      Comparison.strictEqual.holds (.object [(key, x)]) (.object [(key, y)]) =
        Comparison.strictEqual.holds x y := by
  intro always
  have inArray := (always (.number (.int 2)) (.number (.float floatingTwo)) "k").1
  revert inArray
  decide +kernel

end Condition
end MarkupTemplate
