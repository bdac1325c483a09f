import MarkupTemplate.Json.Basic

/-!
The order of doubles. Every two numbers are ordered in one way or the other, with equality between
numbers of one key; NaN alone is ordered with nothing, not even with itself. No JSON number is NaN.
-/

namespace MarkupTemplate
namespace Double

theorem key?_eq_none_iff (x : Double) : x.key? = none ↔ x = .nan := by
  cases x with
  | nan => simp [key?]
  | infinite negative => cases negative <;> simp [key?]
  | finite value => simp [key?]

/-- Two numbers that are no NaN are ordered by their keys. -/
theorem compare?_of_keys {left right : Double} {leftKey rightKey : Int}
    (leftFound : left.key? = some leftKey) (rightFound : right.key? = some rightKey) :
    left.compare? right = some (compare leftKey rightKey) := by
  rw [compare?, leftFound, rightFound]

theorem compare?_eq_none_iff (left right : Double) :
    left.compare? right = none ↔ left = .nan ∨ right = .nan := by
  rw [← key?_eq_none_iff, ← key?_eq_none_iff]
  cases leftFound : left.key? with
  | none => simp [compare?, leftFound]
  | some leftKey =>
      cases rightFound : right.key? with
      | none => simp [compare?, rightFound]
      | some rightKey => simp [compare?_of_keys leftFound rightFound]

theorem compare?_swap (left right : Double) :
    (left.compare? right).map Ordering.swap = right.compare? left := by
  cases leftFound : left.key? with
  | none => simp [compare?, leftFound]
  | some leftKey =>
      cases rightFound : right.key? with
      | none => simp [compare?, rightFound]
      | some rightKey =>
          rw [compare?_of_keys leftFound rightFound, compare?_of_keys rightFound leftFound,
            Option.map_some, ← Std.OrientedCmp.eq_swap]

theorem compare?_self {x : Double} (isNumber : x ≠ .nan) : x.compare? x = some .eq := by
  obtain ⟨key, found⟩ := Option.ne_none_iff_exists'.1 (mt (key?_eq_none_iff x).1 isNumber)
  rw [compare?_of_keys found found, Std.compare_self]

theorem equal_iff (left right : Double) :
    left.equal right = true ↔ left.compare? right = some .eq := by
  simp [equal]

theorem equal_comm (left right : Double) : left.equal right = right.equal left := by
  rw [Bool.eq_iff_iff, equal_iff, equal_iff, ← compare?_swap right left]
  cases right.compare? left with
  | none => simp
  | some order => cases order <;> simp

theorem equal_self {x : Double} (isNumber : x ≠ .nan) : x.equal x = true :=
  (equal_iff x x).2 (compare?_self isNumber)

theorem ofRank_ne_nan (negative : Bool) (rank : Nat) : ofRank negative rank ≠ .nan := by
  unfold ofRank
  split <;> simp

theorem ofInt_ne_nan (value : Int) : ofInt value ≠ .nan :=
  ofRank_ne_nan _ _

theorem ofDecimal_ne_nan (negative : Bool) (digits : Nat) (exponent : Int) :
    ofDecimal negative digits exponent ≠ .nan := by
  unfold ofDecimal
  split
  · exact ofRank_ne_nan _ _
  split
  · simp
  split
  · exact ofRank_ne_nan _ _
  · exact ofRank_ne_nan _ _

theorem negate_ne_nan {x : Double} (isNumber : x ≠ .nan) : x.negate ≠ .nan := by
  cases x with
  | nan => contradiction
  | infinite negative => simp [negate]
  | finite value => simp [negate]

end Double

namespace Number

theorem toDouble_ne_nan (x : Number) : x.toDouble ≠ .nan := by
  cases x with
  | int value => exact Double.ofInt_ne_nan value
  | float value => simp [toDouble]

end Number
end MarkupTemplate
