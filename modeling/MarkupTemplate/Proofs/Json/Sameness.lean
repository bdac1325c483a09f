import Mathlib.Data.List.Forall2
import MarkupTemplate.Proofs.Number.Order

/-!
Exact equality of JSON values. It relates each value to itself and works in both directions, and two
arrays or objects are the same exactly if they are member by member.
-/

namespace MarkupTemplate
namespace Number

theorem same_refl (x : Number) : x.same x = true := by
  cases x <;> simp [same]

theorem same_comm (left right : Number) : left.same right = right.same left := by
  cases left <;> cases right <;> simp [same, Bool.beq_comm]

/-- What is exactly equal has one value. -/
theorem equal_of_same {left right : Number} (same : left.same right = true) :
    left.toDouble.equal right.toDouble = true := by
  cases left with
  | int left =>
      cases right with
      | int right =>
          obtain rfl : left = right := by simpa [Number.same] using same
          exact Double.equal_self (toDouble_ne_nan _)
      | float right => contradiction
  | float left =>
      cases right with
      | int right => contradiction
      | float right =>
          have keys : left.key = right.key := by simpa [Number.same] using same
          rw [Double.equal_iff]
          simp [toDouble, Double.compare?, Double.key?, keys]

end Number

namespace Json

mutual

theorem same_refl (x : Json) : x.same x = true := by
  cases x with
  | null => rfl
  | bool value => simp [same]
  | number value => simp [same, Number.same_refl]
  | string value => simp [same]
  | array items => rw [same, sameItems_refl items]
  | object members => rw [same, sameMembers_refl members]

theorem sameItems_refl (items : List Json) : sameItems items items = true := by
  cases items with
  | nil => rfl
  | cons item items => rw [sameItems, same_refl item, sameItems_refl items, Bool.and_self]

theorem sameMembers_refl (members : List (String × Json)) :
    sameMembers members members = true := by
  match members with
  | [] => rfl
  | (name, value) :: members =>
      rw [sameMembers, same_refl value, sameMembers_refl members, beq_self_eq_true, Bool.and_self,
        Bool.and_self]

end

mutual

theorem same_comm (left right : Json) : left.same right = right.same left := by
  cases left with
  | null => cases right <;> rfl
  | bool left =>
      cases right with
      | bool right => rw [same, same, Bool.beq_comm]
      | _ => rfl
  | number left =>
      cases right with
      | number right => rw [same, same, Number.same_comm]
      | _ => rfl
  | string left =>
      cases right with
      | string right => rw [same, same, Bool.beq_comm]
      | _ => rfl
  | array lefts =>
      cases right with
      | array rights => rw [same, same, sameItems_comm lefts rights]
      | _ => rfl
  | object lefts =>
      cases right with
      | object rights => rw [same, same, sameMembers_comm lefts rights]
      | _ => rfl

theorem sameItems_comm (lefts rights : List Json) :
    sameItems lefts rights = sameItems rights lefts := by
  match lefts, rights with
  | [], [] => rfl
  | [], _ :: _ => rfl
  | _ :: _, [] => rfl
  | left :: lefts, right :: rights =>
      rw [sameItems, sameItems, same_comm left right, sameItems_comm lefts rights]

theorem sameMembers_comm (lefts rights : List (String × Json)) :
    sameMembers lefts rights = sameMembers rights lefts := by
  match lefts, rights with
  | [], [] => rfl
  | [], _ :: _ => rfl
  | _ :: _, [] => rfl
  | (leftName, left) :: lefts, (rightName, right) :: rights =>
      rw [sameMembers, sameMembers, same_comm left right, sameMembers_comm lefts rights,
        Bool.beq_comm]

end

theorem kind_of_same {left right : Json} (same : left.same right = true) :
    left.kind = right.kind := by
  cases left <;> cases right <;> first | contradiction | rfl

theorem sameItems_iff (lefts rights : List Json) :
    sameItems lefts rights = true ↔
      List.Forall₂ (fun left right => left.same right = true) lefts rights := by
  induction lefts generalizing rights with
  | nil => cases rights <;> simp [sameItems]
  | cons left lefts ih => cases rights <;> simp [sameItems, ih]

end Json
end MarkupTemplate
