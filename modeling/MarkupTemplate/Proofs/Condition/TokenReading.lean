import MarkupTemplate.Proofs.Condition.Spelling

/-!
What the readers of tokens leave of a text, and where they fail. A reader takes its token from the
start of the text, so the rest is an end of it. A fault keeps such an end too, and this begins with
what the fault reports.
-/

namespace MarkupTemplate
namespace Condition
namespace Lexer

def isPathPart (c : Char) : Bool :=
  c == '.' || isNamePart c

theorem of_map_ok {α β : Type} {f : α → β} {read : Except Fault α} {made : β}
    (done : read.map f = .ok made) :
    ∃ value, read = .ok value ∧ f value = made := by
  cases read with
  | error fault => contradiction
  | ok value =>
      cases done
      exact ⟨value, rfl, rfl⟩

theorem of_map_error {α β ε : Type} {f : α → β} {read : Except ε α} {error : ε}
    (failed : read.map f = .error error) :
    read = .error error := by
  cases read with
  | error other =>
      cases failed
      rfl
  | ok value => contradiction

/-- The rest of a path ends where neither a point nor a name part follows. -/
theorem pathRest_sound {text path rest : List Char} (read : pathRest text = .ok (path, rest)) :
    text = path ++ rest ∧ (∀ c ∈ path, isPathPart c = true) ∧ Text.Stops isPathPart rest := by
  fun_induction pathRest text generalizing path with
  | case1 =>
      cases read
      exact ⟨rfl, List.forall_mem_nil _, Text.stops_nil _⟩
  | case2 => contradiction
  | case3 c text part ih =>
      obtain ⟨⟨innerPath, innerRest⟩, inner, pair_eq⟩ := of_map_ok read
      cases pair_eq
      have sound := ih inner
      have first : isPathPart c = true := by simp [isPathPart, part]
      have inside : ∀ d ∈ c :: innerPath, isPathPart d = true :=
        List.forall_mem_cons.2 ⟨first, sound.2.1⟩
      exact ⟨by simp [sound.1], List.forall_mem_cons.2 ⟨rfl, inside⟩, sound.2.2⟩
  | case4 => contradiction
  | case5 c text single double part ih =>
      obtain ⟨⟨innerPath, innerRest⟩, inner, pair_eq⟩ := of_map_ok read
      cases pair_eq
      have sound := ih inner
      have first : isPathPart c = true := by simp [isPathPart, part]
      exact ⟨by simp [sound.1], List.forall_mem_cons.2 ⟨first, sound.2.1⟩, sound.2.2⟩
  | case6 c text single double stops =>
      cases read
      have noPoint := ne_of_excluded single double
      have outside : isPathPart c = false := by simp [isPathPart, noPoint, stops]
      exact ⟨rfl, List.forall_mem_nil _, Text.stops_cons outside _⟩

theorem tokens_error {signed : Bool} {c : Char} {text : List Char} {fault : Fault}
    (visible : Text.isBlank c = false) (failed : token signed c text = .error fault) :
    tokens signed (c :: text) = .error fault := by
  rw [tokens, visible]
  simp only [Bool.false_eq_true, if_false]
  split
  · next again =>
      rw [failed] at again
      cases again
      rfl
  · next read =>
      rw [failed] at read
      contradiction

section Rests

theorem symbol?_suffix {text rest : List Char} {found : Token}
    (read : symbol? text = some (found, rest)) :
    rest <:+ text := by
  unfold symbol? at read
  split at read
  all_goals cases read
  all_goals simp [List.suffix_cons_iff]

theorem stringRest?_suffix {quote : Char} {text value rest : List Char}
    (read : stringRest? quote text = some (value, rest)) :
    rest <:+ text := by
  fun_induction stringRest? quote text generalizing value with
  | case1 => contradiction
  | case2 => contradiction
  | case3 c text ih =>
      obtain ⟨⟨inner, tail⟩, inner_read, pair_eq⟩ := Option.map_eq_some_iff.1 read
      cases pair_eq
      exact (ih inner_read).trans ⟨['\\', c], rfl⟩
  | case4 text =>
      cases read
      exact List.suffix_cons _ _
  | case5 c text _ _ _ ih =>
      obtain ⟨⟨inner, tail⟩, inner_read, pair_eq⟩ := Option.map_eq_some_iff.1 read
      cases pair_eq
      exact (ih inner_read).trans (List.suffix_cons _ _)

theorem number_suffix {text rest : List Char} {value : Double}
    (read : number text = .ok (value, rest)) :
    rest <:+ text := by
  simp only [number] at read
  split at read
  · cases read
    exact List.dropWhile_suffix _
  · contradiction

theorem pathRest_suffix {text path rest : List Char} (read : pathRest text = .ok (path, rest)) :
    rest <:+ text :=
  ⟨path, (pathRest_sound read).1.symm⟩

theorem token_suffix {signed : Bool} {c : Char} {text rest : List Char} {found : Token}
    (read : token signed c text = .ok (found, rest)) :
    rest <:+ c :: text := by
  have behind : ∀ {tail : List Char}, tail <:+ text → tail <:+ c :: text :=
    fun suffix => suffix.trans (List.suffix_cons c text)
  simp only [token] at read
  split at read
  · next symbol_read =>
      cases read
      exact symbol?_suffix symbol_read
  split at read
  · split at read
    · next value_read =>
        cases read
        exact behind (stringRest?_suffix value_read)
    · contradiction
  split at read
  · obtain ⟨⟨value, tail⟩, value_read, pair_eq⟩ := of_map_ok read
    cases pair_eq
    exact number_suffix value_read
  split at read
  · obtain ⟨⟨value, tail⟩, value_read, pair_eq⟩ := of_map_ok read
    cases pair_eq
    exact behind (number_suffix value_read)
  split at read
  · obtain ⟨⟨path, tail⟩, path_read, pair_eq⟩ := of_map_ok read
    cases pair_eq
    exact behind (pathRest_suffix path_read)
  · contradiction

end Rests

/-- What can stand between two quotes: a backslash takes along the character behind it, and no
other character is the quote. -/
inductive Enclosed (quote : Char) : List Char → Prop
  | nil : Enclosed quote []
  | escaped (c : Char) {text : List Char} (more : Enclosed quote text) :
      Enclosed quote ('\\' :: c :: text)
  | plain {c : Char} {text : List Char} (noEscape : c ≠ '\\') (noQuote : c ≠ quote)
      (more : Enclosed quote text) : Enclosed quote (c :: text)

def Closes (quote : Char) (text : List Char) : Prop :=
  ∃ value rest, text = value ++ quote :: rest ∧ Enclosed quote value

theorem stringRest?_enclosed {quote : Char} (quoting : quote ∈ quotes) {value : List Char}
    (enclosed : Enclosed quote value) (rest : List Char) :
    ∃ found, stringRest? quote (value ++ quote :: rest) = some (found, rest) := by
  induction enclosed with
  | nil =>
      apply Exists.intro []
      rcases quote_cases quoting with rfl | rfl <;> simp [stringRest?]
  | escaped c more ih =>
      obtain ⟨found, read⟩ := ih
      exact ⟨unescape c :: found, by simp [stringRest?, read]⟩
  | @plain c text noEscape noQuote more ih =>
      obtain ⟨found, read⟩ := ih
      exact ⟨c :: found, by simp [stringRest?, noEscape, noQuote, read]⟩

theorem not_closes_of_unread {quote : Char} (quoting : quote ∈ quotes) {text : List Char}
    (unread : stringRest? quote text = none) :
    ¬Closes quote text := by
  rintro ⟨value, rest, rfl, enclosed⟩
  obtain ⟨found, read⟩ := stringRest?_enclosed quoting enclosed rest
  rw [read] at unread
  contradiction

/-- Whether a text begins with what a cause reports: the character, a quote that is not closed
behind it, the digits and points of the number, or a point that no segment follows. -/
def Begins (text : List Char) : Cause → Prop
  | .unexpectedChar c => text.head? = some c
  | .unterminatedString =>
      ∃ quote ∈ quotes, ∃ behind, text = quote :: behind ∧ ¬Closes quote behind
  | .invalidNumber number => number ≠ [] ∧ number <+: text
  | .emptyPathSegment => ∃ behind, text = '.' :: behind ∧ Text.Stops isNamePart behind

section Faults

variable {text : List Char} {fault : Fault}

theorem takeWhile_numberPart_ne_nil {c : Char} (part : isNumberPart c = true)
    (text : List Char) :
    (c :: text).takeWhile isNumberPart ≠ [] := by
  rw [List.takeWhile_cons_of_pos part]
  exact List.cons_ne_nil _ _

theorem numberPart_of_starts {c : Char} {text : List Char}
    (starts : startsNumber (c :: text) = true) :
    isNumberPart c = true := by
  by_contra outside
  rw [not_startsNumber (Bool.eq_false_iff.2 outside)] at starts
  contradiction

theorem number_fault {c : Char} (part : isNumberPart c = true)
    (failed : number (c :: text) = .error fault) :
    fault.remaining = c :: text ∧ Begins fault.remaining fault.cause := by
  simp only [number] at failed
  split at failed
  · contradiction
  · cases failed
    exact ⟨rfl, takeWhile_numberPart_ne_nil part text, List.takeWhile_prefix _⟩

theorem pathRest_fault (failed : pathRest text = .error fault) :
    fault.remaining <:+ text ∧ Begins fault.remaining fault.cause := by
  fun_induction pathRest text with
  | case1 => contradiction
  | case2 =>
      cases failed
      exact ⟨List.suffix_rfl, [], rfl, Text.stops_nil _⟩
  | case3 c text part ih =>
      have inner := ih (of_map_error failed)
      exact ⟨inner.1.trans ⟨['.', c], rfl⟩, inner.2⟩
  | case4 c text outside =>
      cases failed
      exact ⟨List.suffix_rfl, c :: text, rfl, Text.stops_cons (Bool.eq_false_iff.2 outside) text⟩
  | case5 c text _ _ part ih =>
      have inner := ih (of_map_error failed)
      exact ⟨inner.1.trans (List.suffix_cons c text), inner.2⟩
  | case6 => contradiction

theorem token_fault {signed : Bool} {c : Char} (failed : token signed c text = .error fault) :
    fault.remaining <:+ c :: text ∧ Begins fault.remaining fault.cause := by
  simp only [token] at failed
  split at failed
  · contradiction
  split at failed
  · next quoted =>
      split at failed
      · contradiction
      · next unread =>
          cases failed
          have quoting : c ∈ quotes := by simpa [quotes] using quoted
          exact ⟨List.suffix_rfl, c, quoting, text, rfl, not_closes_of_unread quoting unread⟩
  split at failed
  · next starts =>
      have whole := number_fault (numberPart_of_starts starts) (of_map_error failed)
      exact ⟨whole.1 ▸ List.suffix_rfl, whole.2⟩
  split at failed
  · next sign =>
      -- the sign is no part of the text that the fault keeps
      cases text with
      | nil => simp at sign
      | cons d text =>
          have digit : d.isDigit = true := by
            simp only [List.head?_cons, Option.map_some, Option.getD_some, Bool.and_eq_true] at sign
            exact sign.2
          have unsigned := number_fault (numberPart_of_digit digit) (of_map_error failed)
          exact ⟨unsigned.1 ▸ List.suffix_cons c _, unsigned.2⟩
  split at failed
  · have path := pathRest_fault (of_map_error failed)
    exact ⟨path.1.trans (List.suffix_cons c text), path.2⟩
  · cases failed
    exact ⟨List.suffix_rfl, rfl⟩

/-- A fault of a text keeps an end of it that begins with what the fault reports. -/
theorem tokens_fault {signed : Bool} (failed : tokens signed text = .error fault) :
    fault.remaining <:+ text ∧ Begins fault.remaining fault.cause := by
  fun_induction tokens signed text with
  | case1 => contradiction
  | case2 signed c text blank ih =>
      have behind := ih failed
      exact ⟨behind.1.trans (List.suffix_cons c text), behind.2⟩
  | case3 signed c text visible first first_failed =>
      cases failed
      exact token_fault first_failed
  | case4 signed c text visible found rest found_read ih =>
      have behind := ih (of_map_error failed)
      exact ⟨behind.1.trans (token_suffix found_read), behind.2⟩

end Faults

end Lexer
end Condition
end MarkupTemplate
