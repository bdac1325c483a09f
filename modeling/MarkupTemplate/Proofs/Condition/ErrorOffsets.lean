import MarkupTemplate.Proofs.Condition.ParserErrors
import MarkupTemplate.Proofs.Condition.TokenReading
import MarkupTemplate.Proofs.Number.Order

/-!
Where the errors of a source point. The characters at the offset of an error are what it reports,
except where a number is out of the range of doubles: the parser finds this from the token, shows
the number as an infinity and gives the offset zero wherever it stands.
-/

namespace MarkupTemplate

namespace Condition
namespace Lexer

section Numbers

variable {text rest : List Char} {value : Double}

theorem read?_ne_nan (inside : ∀ c ∈ text, isNumberPart c = true) :
    Decimal.read? text ≠ some .nan := by
  cases text with
  | nil => decide
  | cons c text =>
      have unsigned := sign_numberPart (inside c List.mem_cons_self) text
      have ordinary := special?_numberPart (inside c List.mem_cons_self) text
      rw [Decimal.read?, unsigned]
      simp only [ordinary]
      split
      · simp
      · intro read
        obtain ⟨exponent, _, made⟩ := Option.map_eq_some_iff.1 read
        exact Double.ofDecimal_ne_nan _ _ _ made

theorem number_ne_nan (read : number text = .ok (value, rest)) : value ≠ .nan := by
  simp only [number] at read
  split at read
  · next found =>
      cases read
      rintro rfl
      exact read?_ne_nan (fun c member => (List.mem_takeWhile_imp member)) found
  · contradiction

theorem symbol?_ne_number : symbol? text ≠ some (.number value, rest) := by
  intro read
  unfold symbol? at read
  split at read
  all_goals cases read

theorem pathToken_ne_number (path : List Char) : pathToken path ≠ .number value := by
  unfold pathToken
  split
  · simp
  split
  · simp
  split
  · simp
  · simp

/-- No token is a number that is NaN. -/
theorem token_ne_nan {signed : Bool} {c : Char}
    (read : token signed c text = .ok (.number value, rest)) :
    value ≠ .nan := by
  simp only [token] at read
  split at read
  · next symbol_read =>
      cases read
      exact absurd symbol_read symbol?_ne_number
  split at read
  · split at read
    · cases read
    · contradiction
  split at read
  · obtain ⟨⟨number, tail⟩, number_read, pair_eq⟩ := of_map_ok read
    cases pair_eq
    exact number_ne_nan number_read
  split at read
  · obtain ⟨⟨number, tail⟩, number_read, pair_eq⟩ := of_map_ok read
    cases pair_eq
    exact Double.negate_ne_nan (number_ne_nan number_read)
  split at read
  · obtain ⟨⟨path, tail⟩, path_read, pair_eq⟩ := of_map_ok read
    exact absurd (congrArg Prod.fst pair_eq) (pathToken_ne_number _)
  · contradiction

theorem tokens_ne_nan {signed : Bool} {found : List Token}
    (read : tokens signed text = .ok found) (member : Token.number value ∈ found) :
    value ≠ .nan := by
  fun_induction tokens signed text generalizing found with
  | case1 =>
      cases read
      contradiction
  | case2 signed c text blank ih => exact ih read member
  | case3 => contradiction
  | case4 signed c text visible first behind first_read ih =>
      obtain ⟨following, following_read, rfl⟩ := of_map_ok read
      rcases List.mem_cons.1 member with rfl | inFollowing
      · exact token_ne_nan first_read
      · exact ih following_read inFollowing

/-- A minus sign in front of a word is no token. -/
theorem tokens_minus_word (text : List Char) :
    tokens true ('-' :: 'i' :: text) = .error ⟨.unexpectedChar '-', '-' :: 'i' :: text⟩ := by
  apply tokens_error (by decide)
  rw [token_unmarked (by decide), not_startsNumber (by decide)]
  rfl

end Numbers

end Lexer

/-- Whether the characters at the offset of an error are what it reports. Of an error without an
offset nothing is asked. -/
def Error.Located (source : List Char) (error : Error) : Prop :=
  ∀ cause offset, error.located? = some (cause, offset) →
    Lexer.Begins (source.drop offset) cause

theorem located?_error (source : List Char) (fault : Fault) :
    (fault.error source).located? =
      some (fault.cause, source.length - fault.remaining.length) := by
  cases fault with
  | mk cause remaining => cases cause <;> rfl

/-- Every error of the tokenizer tells what stands at its offset. -/
theorem located_of_tokenize {source : List Char} {error : Error}
    (failed : tokenize source = .error error) :
    error.Located source := by
  unfold tokenize at failed
  cases read : Lexer.tokens true source with
  | ok found =>
      rw [read] at failed
      contradiction
  | error fault =>
      rw [read] at failed
      cases failed
      have kept := Lexer.tokens_fault read
      intro cause offset same
      cases (located?_error source fault).symm.trans same
      rw [← List.suffix_iff_eq_drop.1 kept.1]
      exact kept.2

theorem parse_of_tokenize_error {source : List Char} {error : Error}
    (failed : tokenize source = .error error) :
    parse source = .error error := by
  rw [parse, failed]

theorem located_of_bare {source : List Char} {error : Error} (bare : error.located? = none) :
    error.Located source := by
  intro cause offset found
  rw [bare] at found
  contradiction

/-- Whether a source has a number among its tokens that no double can hold. -/
def Overflows (source : List Char) : Prop :=
  ∃ found negative, tokenize source = .ok found ∧ Token.number (.infinite negative) ∈ found

theorem located_of_tokens {source : List Char} {found : List Token} {error : Error}
    (read : tokenize source = .ok found) (failed : Parser.parse found = .error error) :
    error.Located source ∨
      Overflows source ∧
        ∃ negative, error = .invalidNumber (Layout.infinityText negative) 0 := by
  rcases Parser.parse_error failed with bare | ⟨value, member, infinite, same⟩
  · exact .inl (located_of_bare bare)
  · cases value with
    | nan => exact absurd rfl (Lexer.tokens_ne_nan (tokens_of_tokenize.1 read) member)
    | finite value => contradiction
    | infinite negative => exact .inr ⟨⟨found, negative, read, member⟩, negative, same⟩

/-- Only an error that shows an infinite number can point elsewhere. -/
theorem located_or_infinite {source : List Char} {error : Error}
    (failed : parse source = .error error) :
    error.Located source ∨
      Overflows source ∧
        ∃ negative, error = .invalidNumber (Layout.infinityText negative) 0 := by
  cases read : tokenize source with
  | error other =>
      cases (parse_of_tokenize_error read).symm.trans failed
      exact .inl (located_of_tokenize read)
  | ok found =>
      rw [parse, read] at failed
      exact located_of_tokens read (Lexer.of_map_error failed)

/-- No source with a number out of range begins with a minus sign and a word. -/
theorem not_negative_infinity {source : List Char} {offset : Nat}
    (failed : parse source = .error (.invalidNumber (Layout.infinityText true) offset)) :
    ¬Layout.infinityText true <+: source := by
  rintro ⟨rest, rfl⟩
  have unread : tokenize (Layout.infinityText true ++ rest) = .error (.unexpectedChar '-' 0) := by
    change (Lexer.tokens true ('-' :: 'i' :: 'n' :: 'f' :: rest)).mapError _ = _
    rw [Lexer.tokens_minus_word]
    simp [Except.mapError, Fault.error, Layout.infinityText, Layout.signText]
  rw [parse_of_tokenize_error unread] at failed
  cases failed

/-- The characters at the offset of an error are what it reports, unless it shows an infinite
number. Such an error has the offset zero, where its word stands only in a source that happens to
begin with it, and a source without a number out of range does not have it. -/
theorem error_located_iff {source : List Char} {error : Error}
    (failed : parse source = .error error) :
    (error.Located source ↔
      ∀ negative, error = .invalidNumber (Layout.infinityText negative) 0 →
        negative = false ∧ "inf".toList <+: source) ∧
    (¬Overflows source → error.Located source) := by
  constructor
  · constructor
    · rintro located negative rfl
      have stands := (located _ _ rfl).2
      cases negative with
      | true => exact absurd stands (not_negative_infinity failed)
      | false => exact ⟨rfl, stands⟩
    · intro chance
      rcases located_or_infinite failed with located | ⟨_, negative, rfl⟩
      · exact located
      · obtain ⟨rfl, stands⟩ := chance negative rfl
        rintro cause offset ⟨⟩
        exact ⟨by decide, stands⟩
  · intro inRange
    exact (located_or_infinite failed).resolve_right fun infinite => inRange infinite.1

def error? (source : List Char) : Option Error :=
  match parse source with
  | .error error => some error
  | .ok _ => none

theorem error?_eq_some_iff (source : List Char) (error : Error) :
    error? source = some error ↔ parse source = .error error := by
  unfold error?
  cases parse source <;> simp

/-- A second point in a number, and a string whose last quote is escaped. -/
theorem error_located_points :
    parse "x > 1.2.3".toList = .error (.invalidNumber "1.2.3".toList 4) ∧
    (Error.invalidNumber "1.2.3".toList 4).Located "x > 1.2.3".toList ∧
    parse "x === 'it\\'".toList = .error (.unterminatedString 6) ∧
    (Error.unterminatedString 6).Located "x === 'it\\'".toList := by
  have number_failed : parse "x > 1.2.3".toList = .error (.invalidNumber "1.2.3".toList 4) := by
    rw [← error?_eq_some_iff]
    decide +kernel
  have string_failed : parse "x === 'it\\'".toList = .error (.unterminatedString 6) := by
    rw [← error?_eq_some_iff]
    decide +kernel
  have unread : (tokenize "x === 'it\\'".toList).toOption = none := by decide +kernel
  refine ⟨number_failed, (error_located_iff number_failed).1.2 ?_, string_failed,
    (error_located_iff string_failed).2 ?_⟩
  · intro negative same
    cases negative <;> contradiction
  · rintro ⟨found, negative, read, _⟩
    rw [read] at unread
    contradiction

def hugeComparison : List Char :=
  "x > 1".toList ++ List.replicate 309 '0'

theorem error_not_always_located :
    ¬∀ (source : List Char) (error : Error), parse source = .error error →
      error.Located source := by
  intro always
  have failed : parse hugeComparison = .error (.invalidNumber "inf".toList 0) := by
    rw [← error?_eq_some_iff]
    decide +kernel
  have located := always _ _ failed _ _ rfl
  exact absurd located.2 (by decide +kernel)

end Condition
end MarkupTemplate
