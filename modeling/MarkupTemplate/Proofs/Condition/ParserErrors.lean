import MarkupTemplate.Condition.Lexer
import MarkupTemplate.Proofs.Condition.Parsing

/-!
The errors of the parser. It works on tokens, which do not tell where they stand, so its errors have
no offset; but for one, that of a number that is no operand, which has the offset zero.
-/

namespace MarkupTemplate
namespace Condition

def Error.located? : Error → Option (Cause × Nat)
  | .unexpectedChar c offset => some (.unexpectedChar c, offset)
  | .unterminatedString offset => some (.unterminatedString, offset)
  | .invalidNumber text offset => some (.invalidNumber text, offset)
  | .emptyPathSegment offset => some (.emptyPathSegment, offset)
  | .empty | .unexpectedToken _ | .unexpectedEnd | .unbound _ | .tooDeep => none

namespace Parser

open Grammar

def Raised (tokens : List Token) (error : Error) : Prop :=
  error.located? = none ∨
    ∃ value, Token.number value ∈ tokens ∧ value.finite? = none ∧
      error = .invalidNumber (Token.numberLayout.text value) 0

theorem Raised.behind {tokens : List Token} {error : Error} (raised : Raised tokens error)
    (before : List Token) :
    Raised (before ++ tokens) error := by
  rcases raised with bare | ⟨value, member, infinite, same⟩
  · exact .inl bare
  · exact .inr ⟨value, List.mem_append_right _ member, infinite, same⟩

theorem Raised.cons {tokens : List Token} {error : Error} (raised : Raised tokens error)
    (first : Token) :
    Raised (first :: tokens) error :=
  raised.behind [first]

theorem close_error {group : Expr} {tokens : List Token} {error : Error}
    (failed : close group tokens = .error error) :
    Raised tokens error := by
  unfold close at failed
  split at failed
  · contradiction
  · cases failed
    exact .inl rfl
  · cases failed
    exact .inl rfl

theorem numberLiteral_error {value : Double} {error : Error}
    (failed : numberLiteral value = .error error) :
    value.finite? = none ∧ error = .invalidNumber (Token.numberLayout.text value) 0 := by
  unfold numberLiteral at failed
  split at failed
  · contradiction
  · next infinite =>
      cases failed
      exact ⟨infinite, rfl⟩

mutual

theorem disjunction_error {budget : Nat} {tokens : List Token} {error : Error}
    (failed : disjunction budget tokens = .error error) :
    Raised tokens error := by
  rw [disjunction] at failed
  split at failed
  · next first_failed =>
      cases failed
      exact conjunction_error first_failed
  · next first_read =>
      obtain ⟨first, _, _, rfl⟩ := conjunction_sound first_read
      exact (moreDisjuncts_error failed).behind _
termination_by 6 * budget + 5

theorem moreDisjuncts_error {budget : Nat} {left : Expr} {tokens : List Token} {error : Error}
    (failed : moreDisjuncts budget left tokens = .error error) :
    Raised tokens error := by
  rw [moreDisjuncts.eq_def] at failed
  split at failed
  · cases failed
    exact .inl rfl
  · split at failed
    · next next_failed =>
        cases failed
        exact (conjunction_error next_failed).cons _
    · next next_read =>
        obtain ⟨next, _, _, rfl⟩ := conjunction_sound next_read
        exact ((moreDisjuncts_error failed).behind _).cons _
  · contradiction
termination_by 6 * budget + 4

theorem conjunction_error {budget : Nat} {tokens : List Token} {error : Error}
    (failed : conjunction budget tokens = .error error) :
    Raised tokens error := by
  rw [conjunction] at failed
  split at failed
  · next first_failed =>
      cases failed
      exact comparison_error first_failed
  · next first_read =>
      obtain ⟨first, _, _, rfl⟩ := comparison_sound first_read
      exact (moreConjuncts_error failed).behind _
termination_by 6 * budget + 4

theorem moreConjuncts_error {budget : Nat} {left : Expr} {tokens : List Token} {error : Error}
    (failed : moreConjuncts budget left tokens = .error error) :
    Raised tokens error := by
  rw [moreConjuncts.eq_def] at failed
  split at failed
  · cases failed
    exact .inl rfl
  · split at failed
    · next next_failed =>
        cases failed
        exact (comparison_error next_failed).cons _
    · next next_read =>
        obtain ⟨next, _, _, rfl⟩ := comparison_sound next_read
        exact ((moreConjuncts_error failed).behind _).cons _
  · contradiction
termination_by 6 * budget + 3

theorem comparison_error {budget : Nat} {tokens : List Token} {error : Error}
    (failed : comparison budget tokens = .error error) :
    Raised tokens error := by
  rw [comparison] at failed
  split at failed
  · next left_failed =>
      cases failed
      exact operand_error left_failed
  · next left_read =>
      obtain ⟨left, _, _, rfl⟩ := operand_sound left_read
      split at failed
      · next right_failed =>
          cases failed
          exact ((operand_error right_failed).cons _).behind _
      · contradiction
  · contradiction
termination_by 6 * budget + 2

theorem operand_error {budget : Nat} {tokens : List Token} {error : Error}
    (failed : operand budget tokens = .error error) :
    Raised tokens error := by
  rw [operand.eq_def] at failed
  split at failed
  · cases failed
    exact .inl rfl
  · split at failed
    · next inner_failed =>
        cases failed
        exact (operand_error inner_failed).cons _
    · contradiction
  · cases failed
    exact .inl rfl
  · split at failed
    · next inner_failed =>
        cases failed
        exact (disjunction_error inner_failed).cons _
    · next inner_read =>
        obtain ⟨inner, _, _, rfl⟩ := disjunction_sound inner_read
        exact ((close_error failed).behind _).cons _
  · next value _ =>
      split at failed
      · next literal_failed =>
          cases failed
          have literal := numberLiteral_error literal_failed
          exact .inr ⟨value, List.mem_cons_self, literal.1, literal.2⟩
      · contradiction
  · contradiction
  · contradiction
  · contradiction
  · contradiction
  · cases failed
    exact .inl rfl
  · cases failed
    exact .inl rfl
termination_by 6 * budget + 1

end

theorem parse_error {tokens : List Token} {error : Error} (failed : parse tokens = .error error) :
    Raised tokens error := by
  unfold parse at failed
  split at failed
  · cases failed
    exact .inl rfl
  · split at failed
    · next disjunction_failed =>
        cases failed
        exact disjunction_error disjunction_failed
    · contradiction
    · cases failed
      exact .inl rfl

end Parser
end Condition
end MarkupTemplate
