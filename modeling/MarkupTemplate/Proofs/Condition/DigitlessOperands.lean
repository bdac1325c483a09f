import MarkupTemplate.Proofs.Condition.OrderOperators
import MarkupTemplate.Proofs.Number.Words
import MarkupTemplate.Proofs.Text.Names

/-!
Strings without a digit beside numbers. Such a string counts as NaN, which no number is equal to,
below or above, unless it is one of the words for infinity that the reading of numbers knows.
-/

namespace MarkupTemplate
namespace Condition

def placing : List Comparison :=
  [.equal, .less, .atMost, .greater, .atLeast]

/-- Whether no placing operator holds between two values, whichever of them comes first. -/
def Unplaced (left right : Json) : Prop :=
  ∀ operator ∈ placing, operator.holds left right = false ∧ operator.holds right left = false

section Digitless

variable {s : String}

theorem toDouble_digitless (visible : ¬Text.IsBlanks s.toList)
    (digitless : ∀ c ∈ s.toList, c.isDigit = false) :
    (Json.string s).toDouble = .nan ↔ ¬Decimal.IsInfinity (Text.trim s.toList) := by
  have shown : ∃ c ∈ s.toList, Text.isBlank c = false := by
    simpa [Text.IsBlanks] using visible
  obtain ⟨c, member, visible⟩ := shown
  have nonempty : (Text.trim s.toList).isEmpty = false := by
    rw [List.isEmpty_eq_false_iff]
    exact List.ne_nil_of_mem (Text.mem_trim member visible)
  have inside : ∀ d ∈ Text.trim s.toList, d.isDigit = false :=
    fun d trimmed => digitless d (Text.trim_subset s.toList d trimmed)
  rw [← Decimal.numberless_iff inside, Json.toDouble, Json.numberOfText]
  simp only [nonempty]
  rfl

/-- Two values of which one counts as a number are unplaced exactly if the other counts as NaN. -/
theorem unplaced_number_iff (s : String) (number : Number) :
    Unplaced (.string s) (.number number) ↔ (Json.string s).toDouble = .nan := by
  have order_iff : order? (.string s) (.number number) = none ↔
      (Json.string s).toDouble = .nan := by
    rw [order?_eq_none_iff]
    simp [Json.kind, Json.toDouble, number.toDouble_ne_nan]
  have orderless := no_operator_iff_order? (.string s) (.number number)
  have swapped := no_operator_iff_order? (.number number) (.string s)
  rw [← order?_swap, Option.map_eq_none_iff] at swapped
  rw [order_iff] at orderless swapped
  constructor
  · intro unplaced
    apply orderless.1
    intro operator listed
    exact (unplaced operator (List.mem_cons_of_mem _ listed)).1
  · intro nan
    have unequal : Comparison.equal.holds (.string s) (.number number) = false := by
      have equal_iff : plainEqual (.string s) (.number number) = true ↔
          order? (.string s) (.number number) = some .eq :=
        plainEqual_iff_order? rfl rfl (by simp [Json.kind]) (by simp [Json.kind])
      rw [order_iff.2 nan] at equal_iff
      rw [Comparison.holds, looselyEqual_of_plain rfl rfl, Bool.eq_false_iff, ne_eq, equal_iff]
      simp
    intro operator listed
    rcases List.mem_cons.1 listed with rfl | ordering
    · refine ⟨unequal, ?_⟩
      rw [Comparison.holds, looselyEqual_comm]
      exact unequal
    · exact ⟨orderless.2 nan operator ordering, swapped.2 nan operator ordering⟩

end Digitless

/-- A string that is not blank and holds no digit compares with no number, unless it is a word for
infinity, which compares with every number. -/
theorem digitless_unplaced_iff {s : String} (visible : ¬Text.IsBlanks s.toList)
    (digitless : ∀ c ∈ s.toList, c.isDigit = false) (number : Number) :
    Unplaced (.string s) (.number number) ↔ ¬Decimal.IsInfinity (Text.trim s.toList) := by
  rw [unplaced_number_iff, toDouble_digitless visible digitless]

theorem digitless_unplaced_dash :
    ¬Text.IsBlanks "n/a".toList ∧ (∀ c ∈ "n/a".toList, c.isDigit = false) ∧
      Unplaced (.string "n/a") (.number (.int 5)) := by
  have visible : ¬Text.IsBlanks "n/a".toList := by
    intro blank
    exact absurd (blank 'n' (by decide)) (by decide)
  have digitless : ∀ c ∈ "n/a".toList, c.isDigit = false := by simp
  exact ⟨visible, digitless, (digitless_unplaced_iff visible digitless (.int 5)).2 (by decide)⟩

/-- Short for infinity, a word that holds no digit is greater than any number. -/
theorem digitless_not_always_unplaced :
    ¬∀ s : String, ¬Text.IsBlanks s.toList → (∀ c ∈ s.toList, c.isDigit = false) →
      Text.trim s.toList ∉ ["Infinity".toList, "+Infinity".toList, "-Infinity".toList] →
        ∀ number : Number, Unplaced (.string s) (.number number) := by
  intro always
  have visible : ¬Text.IsBlanks "inf".toList := by
    intro blank
    exact absurd (blank 'i' (by decide)) (by decide)
  have digitless : ∀ c ∈ "inf".toList, c.isDigit = false := by simp
  have greater := (always "inf" visible digitless (by decide) (.int 1) .greater (by decide)).1
  revert greater
  decide +kernel

end Condition
end MarkupTemplate
