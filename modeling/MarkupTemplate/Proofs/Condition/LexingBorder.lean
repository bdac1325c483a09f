import MarkupTemplate.Proofs.Condition.NestingLimit
import MarkupTemplate.Proofs.Text.Classes

/-!
The tokens of a text in front of a blank or a closing parenthesis. No token takes in such a border
that stands behind it, except a string that is not closed. So a text that has tokens keeps them in
front of a parenthesis, and what stands behind the parenthesis is read by itself.
-/

namespace MarkupTemplate
namespace Condition
namespace Lexer

/-- A character begins no symbol if it is none by itself and is not one that stands here twice. -/
theorem symbol?_eq_none_iff (c : Char) (text : List Char) :
    symbol? (c :: text) = none ↔
      c ∉ ['<', '>', '!', '(', ')'] ∧ (c ∈ ['=', '&', '|'] → text.head? ≠ some c) := by
  constructor
  · intro absent
    unfold symbol? at absent
    split at absent
    case h_14 =>
      constructor
      · intro single
        simp only [List.mem_cons, List.not_mem_nil, or_false] at single
        rcases single with rfl | rfl | rfl | rfl | rfl <;> solve_by_elim
      · intro double again
        obtain ⟨behind, rfl⟩ := List.head?_eq_some_iff.1 again
        simp only [List.mem_cons, List.not_mem_nil, or_false] at double
        rcases double with rfl | rfl | rfl <;> solve_by_elim
    all_goals contradiction
  · rintro ⟨single, double⟩
    unfold symbol?
    split
    case h_14 => rfl
    all_goals
      next begins =>
        cases begins
        first
        | exact absurd (by decide) single
        | exact absurd rfl (double (by decide))

/-- How a pattern of one character and one of two with the same first exclude a character. -/
theorem ne_of_excluded {c d : Char} {text : List Char}
    (single : c = d → text = [] → False)
    (double : ∀ e more, c = d → text = e :: more → False) :
    c ≠ d := by
  intro same
  cases text with
  | nil => exact single same rfl
  | cons e more => exact double e more same rfl

/-- What no token goes on with. -/
def isBorder (c : Char) : Bool :=
  c == ')' || Text.isBlank c

theorem not_namePart_of_border {c : Char} (ends : isBorder c = true) : isNamePart c = false := by
  simp only [isBorder, Bool.or_eq_true, beq_iff_eq] at ends
  rcases ends with rfl | blank
  · decide
  · have noWord := Text.not_word_of_blank blank
    have noAlphanum : c.isAlphanum = false := by
      apply Bool.eq_false_iff.2
      intro alphanum
      rw [Text.word_of_alphanum alphanum] at noWord
      contradiction
    have other : c ≠ '_' ∧ c ≠ '$' := by
      constructor <;> rintro rfl <;> revert blank <;> decide
    simp [isNamePart, noAlphanum, other]

section Border

variable {border : Char} {rest : List Char}

theorem stringRest?_border {quote : Char} {text value behind : List Char}
    (read : stringRest? quote text = some (value, behind)) :
    stringRest? quote (text ++ border :: rest) = some (value, behind ++ border :: rest) := by
  fun_induction stringRest? quote text generalizing value with
  | case1 => contradiction
  | case2 => contradiction
  | case3 c text ih =>
      obtain ⟨⟨inner, tail⟩, inner_read, pair_eq⟩ := Option.map_eq_some_iff.1 read
      cases pair_eq
      simp [stringRest?, ih inner_read]
  | case4 text single double =>
      cases read
      have plain := ne_of_excluded single double
      simp [stringRest?, plain]
  | case5 c text single double other ih =>
      obtain ⟨⟨inner, tail⟩, inner_read, pair_eq⟩ := Option.map_eq_some_iff.1 read
      cases pair_eq
      have plain := ne_of_excluded single double
      simp [stringRest?, plain, other, ih inner_read]

theorem takeWhile_border {p : Char → Bool} (outside : p border = false) (text : List Char) :
    (text ++ border :: rest).takeWhile p = text.takeWhile p := by
  induction text with
  | nil => simp [outside]
  | cons c text ih => simp [List.takeWhile_cons, ih]

theorem dropWhile_border {p : Char → Bool} (outside : p border = false) (text : List Char) :
    (text ++ border :: rest).dropWhile p = text.dropWhile p ++ border :: rest := by
  induction text with
  | nil => simp [outside]
  | cons c text ih =>
      rw [List.cons_append, List.dropWhile_cons, List.dropWhile_cons, ih]
      split <;> rfl

/-- What is made of a value keeps the border that the value was read in front of. -/
theorem map_border {α β : Type} (f : α → β) {read again : Except Fault (α × List Char)}
    {made : β} {behind : List Char}
    (kept : ∀ {value tail},
      read = .ok (value, tail) → again = .ok (value, tail ++ border :: rest))
    (done : (read.map fun found => (f found.1, found.2)) = .ok (made, behind)) :
    (again.map fun found => (f found.1, found.2)) = .ok (made, behind ++ border :: rest) := by
  cases read with
  | error fault => contradiction
  | ok found =>
      cases done
      rw [kept rfl]
      rfl

variable (ends : isBorder border = true)

include ends

theorem ne_border {c : Char} (inside : isBorder c = false) : border ≠ c := by
  intro same
  rw [same, inside] at ends
  contradiction

theorem not_numberPart_border : isNumberPart border = false := by
  have noPart := not_namePart_of_border ends
  simp only [isNamePart, Char.isAlphanum, Bool.or_eq_false_iff] at noPart
  have noPoint : border ≠ '.' := ne_border ends (by decide)
  simp [isNumberPart, noPart.1.1.2, noPoint]

theorem not_digit_border : border.isDigit = false := by
  have noPart := not_numberPart_border ends
  simp only [isNumberPart, Bool.or_eq_false_iff] at noPart
  exact noPart.1

theorem head_border {text : List Char} {c : Char} (inside : isBorder c = false)
    (absent : text.head? ≠ some c) :
    (text ++ border :: rest).head? ≠ some c := by
  cases text with
  | nil => simpa using ne_border ends inside
  | cons d text => simpa using absent

theorem no_equals_border {behind : List Char} (other : ∀ more, behind = '=' :: more → False)
    (more : List Char) :
    behind ++ border :: rest = '=' :: more → False := by
  cases behind with
  | nil =>
      have noEquals : border ≠ '=' := ne_border ends (by decide)
      simp [noEquals]
  | cons c behind =>
      intro whole
      obtain ⟨rfl, _⟩ := List.cons.inj whole
      exact other behind rfl

theorem symbol?_border {text behind : List Char} {found : Token}
    (read : symbol? text = some (found, behind)) :
    symbol? (text ++ border :: rest) = some (found, behind ++ border :: rest) := by
  unfold symbol? at read
  split at read
  all_goals cases read
  -- the symbols that an equals sign behind them would make longer
  case h_3 other => exact symbol?.eq_3 _ (no_equals_border ends other)
  case h_4 other => exact symbol?.eq_4 _ (no_equals_border ends other)
  case h_9 other => exact symbol?.eq_9 _ (no_equals_border ends other)
  case h_10 other => exact symbol?.eq_10 _ (no_equals_border ends other)
  case h_11 other =>
      have alone := @no_equals_border _ rest ends _ other
      exact symbol?.eq_11 _ (fun more twice => alone ('=' :: more) twice) alone
  all_goals rfl

theorem symbol?_border_none {c : Char} {text : List Char} (absent : symbol? (c :: text) = none) :
    symbol? (c :: (text ++ border :: rest)) = none := by
  rw [symbol?_eq_none_iff] at absent ⊢
  refine ⟨absent.1, fun double => head_border ends ?_ (absent.2 double)⟩
  simp only [List.mem_cons, List.not_mem_nil, or_false] at double
  rcases double with rfl | rfl | rfl <;> decide

theorem number_border {text behind : List Char} {value : Double}
    (read : number text = .ok (value, behind)) :
    number (text ++ border :: rest) = .ok (value, behind ++ border :: rest) := by
  have outside := not_numberPart_border ends
  simp only [number, takeWhile_border outside, dropWhile_border outside] at read ⊢
  split at read
  · cases read
    rfl
  · contradiction

theorem pathRest_border {text path behind : List Char}
    (read : pathRest text = .ok (path, behind)) :
    pathRest (text ++ border :: rest) = .ok (path, behind ++ border :: rest) := by
  fun_induction pathRest text generalizing path behind with
  | case1 =>
      cases read
      have noPart := not_namePart_of_border ends
      have noPoint : border ≠ '.' := ne_border ends (by decide)
      simp [pathRest, noPart, noPoint]
  | case2 => contradiction
  | case3 c text part ih =>
      rw [List.cons_append, List.cons_append, pathRest, if_pos part]
      exact map_border ('.' :: c :: ·) ih read
  | case4 => contradiction
  | case5 c text single double part ih =>
      have noPoint := ne_of_excluded single double
      rw [List.cons_append, pathRest.eq_4 _ _ (by simp [noPoint]) (by simp [noPoint]), if_pos part]
      exact map_border (c :: ·) ih read
  | case6 c text single double stops =>
      cases read
      have noPoint := ne_of_excluded single double
      simp [pathRest, noPoint, stops]

theorem startsNumber_border (c : Char) (text : List Char) :
    startsNumber (c :: (text ++ border :: rest)) = startsNumber (c :: text) := by
  by_cases point : c = '.'
  · subst point
    cases text with
    | nil => exact not_digit_border ends
    | cons d text => rfl
  · simp [startsNumber, point]

theorem signs_border (text : List Char) :
    ((text ++ border :: rest).head?.map Char.isDigit).getD false =
      (text.head?.map Char.isDigit).getD false := by
  cases text with
  | nil => exact not_digit_border ends
  | cons d text => rfl

/-- A token is read in front of a border as it is read at the end of the text. -/
theorem token_border {signed : Bool} {c : Char} {text behind : List Char} {found : Token}
    (read : token signed c text = .ok (found, behind)) :
    token signed c (text ++ border :: rest) = .ok (found, behind ++ border :: rest) := by
  simp only [token] at read ⊢
  split at read
  · next symbol_read =>
      cases read
      have again : symbol? (c :: (text ++ border :: rest)) =
          some (found, behind ++ border :: rest) :=
        symbol?_border ends symbol_read
      rw [again]
  next absent =>
  rw [symbol?_border_none ends absent, startsNumber_border ends, signs_border ends]
  simp only
  split at read
  · next quoted =>
      rw [if_pos quoted]
      split at read
      · next value_read =>
          cases read
          rw [stringRest?_border value_read]
      · contradiction
  next unquoted =>
  rw [if_neg unquoted]
  split at read
  · next digit =>
      rw [if_pos digit]
      exact map_border Token.number (number_border ends) read
  next noDigit =>
  rw [if_neg noDigit]
  split at read
  · next sign =>
      rw [if_pos sign]
      exact map_border (fun value => Token.number value.negate) (number_border ends) read
  next noSign =>
  rw [if_neg noSign]
  split at read
  · next named =>
      rw [if_pos named]
      exact map_border (fun path => pathToken (c :: path)) (pathRest_border ends) read
  · contradiction

end Border

/-- A text with tokens keeps them in front of a parenthesis, and what stands behind it is read as
if it stood at the end of an operand. -/
theorem tokens_border {rest : List Char} {signed : Bool} {text : List Char} {found : List Token}
    (read : tokens signed text = .ok found) :
    tokens signed (text ++ ')' :: rest) =
      (tokens false rest).map fun following => found ++ .rightParen :: following := by
  fun_induction tokens signed text generalizing found with
  | case1 signed =>
      cases read
      exact lex_cons rfl rfl
  | case2 signed c text blank ih =>
      rw [List.cons_append, tokens, if_pos blank]
      exact ih read
  | case3 signed c text visible fault failed => contradiction
  | case4 signed c text visible first behind first_read ih =>
      rw [List.cons_append, lex_cons (Bool.eq_false_iff.2 visible) (token_border rfl first_read)]
      cases following_read : tokens (!first.endsOperand) behind with
      | error fault =>
          rw [following_read] at read
          contradiction
      | ok following =>
          rw [following_read] at read
          cases read
          rw [ih following_read]
          cases tokens false rest <;> rfl

end Lexer
end Condition
end MarkupTemplate
