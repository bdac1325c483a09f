import Mathlib.Data.List.Chain
import MarkupTemplate.Proofs.Condition.Composition
import MarkupTemplate.Proofs.Text.Cutting
import MarkupTemplate.Proofs.Text.Names

/-!
How the tokens of a condition are spelled, told without the tokenizer, which undoes it. Every token
is read as itself where its spelling stands alone, and a blank behind it changes nothing. Only the
sign of a number depends on what stands in front of it.
-/

namespace MarkupTemplate

namespace Double

/-- Whether a number has a minus sign, as one of the two zeros does. -/
def isNegative : Double → Bool
  | .nan => false
  | .infinite negative => negative
  | .finite value => value.negative

theorem negate_ofRank (rank : Nat) : (ofRank false rank).negate.isNegative = true := by
  unfold ofRank
  split <;> rfl

theorem negate_ofDecimal (digits : Nat) (exponent : Int) :
    (ofDecimal false digits exponent).negate.isNegative = true := by
  unfold ofDecimal
  split
  · exact negate_ofRank _
  split
  · rfl
  split
  · exact negate_ofRank _
  · exact negate_ofRank _

end Double

namespace Condition
namespace Lexer

/-- The tokens that words and signs stand for; two words stand for null. -/
def fixedSpellings : List (String × Token) :=
  [("===", .compare .strictEqual), ("!==", .compare .strictNotEqual), ("==", .compare .equal),
    ("!=", .compare .notEqual), ("<=", .compare .atMost), (">=", .compare .atLeast),
    ("<", .compare .less), (">", .compare .greater), ("&&", .and), ("||", .or), ("!", .not),
    ("(", .leftParen), (")", .rightParen), ("true", .truth true), ("false", .truth false),
    ("null", .null), ("undefined", .null)]

def reservedWords : List (List Char) :=
  ["true".toList, "false".toList, "null".toList, "undefined".toList]

def quotes : List Char :=
  ['"', '\'']

/-- A character between two quotes: a backslash stands before each of these quotes and before each
backslash. -/
def escape (quote c : Char) : List Char :=
  if c = '\\' ∨ c = quote then ['\\', c] else [c]

def quoted (quote : Char) (value : List Char) : List Char :=
  quote :: (value.flatMap (escape quote) ++ [quote])

/-- Decimal digits, at least one, with at most one point. -/
inductive IsDecimal : List Char → Prop
  | whole {digits : List Char} (nonempty : digits ≠ [])
      (inside : ∀ c ∈ digits, c.isDigit = true) : IsDecimal digits
  | pointed {digits more : List Char} (nonempty : digits ++ more ≠ [])
      (inside : ∀ c ∈ digits, c.isDigit = true) (moreInside : ∀ c ∈ more, c.isDigit = true) :
      IsDecimal (digits ++ '.' :: more)

/-- Whether a text spells a token. -/
inductive Spells : List Char → Token → Prop
  | fixed {word : String} {found : Token} (listed : (word, found) ∈ fixedSpellings) :
      Spells word.toList found
  | string {quote : Char} (quoting : quote ∈ quotes) (value : List Char) :
      Spells (quoted quote value) (.string value)
  | path {path : List Char} (spelled : Text.IsPath isNamePart path)
      (free : path ∉ reservedWords) : Spells path (.path path)
  | number {text : List Char} {value : Double} (spelled : IsDecimal text)
      (read : Decimal.read? text = some value) : Spells text (.number value)
  | negative {c : Char} {text : List Char} {value : Double} (digit : c.isDigit = true)
      (spelled : IsDecimal (c :: text)) (read : Decimal.read? (c :: text) = some value) :
      Spells ('-' :: c :: text) (.number value.negate)

/-- Whether a text spells tokens, with blanks between each two of them. -/
inductive SpellsAll : List Char → List Token → Prop
  | none : SpellsAll [] []
  | last {text : List Char} {found : Token} (spells : Spells text found) : SpellsAll text [found]
  | more {text gap rest : List Char} {found : Token} {following : List Token}
      (spells : Spells text found) (isGap : Text.IsGap gap) (others : SpellsAll rest following) :
      SpellsAll (text ++ (gap ++ rest)) (found :: following)

end Lexer

namespace Token

def isNegative : Token → Bool
  | .number value => value.isNegative
  | _ => false

/-- Whether a token can stand behind another: where an operand has ended, a minus sign is not the
sign of a number. -/
def Follows (before found : Token) : Prop :=
  found.isNegative = true → before.endsOperand = false

end Token

namespace Lexer

/-- A text that is read as one token, where a sign may stand if it has one. -/
inductive IsToken : List Char → Token → Prop
  | intro {c : Char} {text : List Char} {found : Token} (visible : Text.isBlank c = false)
      (read : ∀ signed, (found.isNegative = true → signed = true) →
        token signed c text = .ok (found, [])) : IsToken (c :: text) found

theorem fixed_isToken {word : String} {found : Token} (listed : (word, found) ∈ fixedSpellings) :
    IsToken word.toList found := by
  simp only [fixedSpellings, List.mem_cons, List.not_mem_nil, or_false, Prod.mk.injEq] at listed
  rcases listed with ⟨rfl, rfl⟩ | ⟨rfl, rfl⟩ | ⟨rfl, rfl⟩ | ⟨rfl, rfl⟩ | ⟨rfl, rfl⟩ | ⟨rfl, rfl⟩ |
    ⟨rfl, rfl⟩ | ⟨rfl, rfl⟩ | ⟨rfl, rfl⟩ | ⟨rfl, rfl⟩ | ⟨rfl, rfl⟩ | ⟨rfl, rfl⟩ | ⟨rfl, rfl⟩ |
    ⟨rfl, rfl⟩ | ⟨rfl, rfl⟩ | ⟨rfl, rfl⟩ | ⟨rfl, rfl⟩
  all_goals
    apply IsToken.intro rfl
    intro signed _
    rfl

section Strings

variable {quote : Char} (quoting : quote ∈ quotes)

include quoting

theorem quote_cases : quote = '"' ∨ quote = '\'' := by
  simpa [quotes] using quoting

/-- What stands behind a backslash is the character itself: no quote is one of the letters that
stand for another one there. -/
theorem stringRest?_escape (c : Char) (text : List Char) :
    stringRest? quote (escape quote c ++ text) =
      (stringRest? quote text).map fun found => (c :: found.1, found.2) := by
  by_cases marked : c = '\\' ∨ c = quote
  · have plain : unescape c = c := by
      rcases marked with rfl | rfl
      · rfl
      · rcases quote_cases quoting with rfl | rfl <;> rfl
    rw [escape, if_pos marked]
    simp [stringRest?, plain]
  · rw [escape, if_neg marked]
    simp only [not_or] at marked
    simp [stringRest?, marked]

theorem stringRest?_quoted (value : List Char) :
    stringRest? quote (value.flatMap (escape quote) ++ [quote]) = some (value, []) := by
  induction value with
  | nil => rcases quote_cases quoting with rfl | rfl <;> rfl
  | cons c value ih =>
      rw [List.flatMap_cons, List.append_assoc, stringRest?_escape quoting, ih]
      rfl

theorem string_isToken (value : List Char) : IsToken (quoted quote value) (.string value) := by
  have read := stringRest?_quoted quoting value
  rcases quote_cases quoting with rfl | rfl
  all_goals
    apply IsToken.intro rfl
    intro signed _
    simp [token, symbol?, read]

end Strings

section Words

variable {c : Char}

def marks : List Char :=
  ['<', '>', '!', '(', ')', '=', '&', '|', '"', '\'']

/-- A token that begins with no mark is a number or a path. -/
theorem token_unmarked (unmarked : c ∉ marks) (signed : Bool) (text : List Char) :
    token signed c text =
      if startsNumber (c :: text) then
        (number (c :: text)).map fun found => (.number found.1, found.2)
      else if c = '-' && signed && (text.head?.map Char.isDigit).getD false then
        (number text).map fun found => (.number found.1.negate, found.2)
      else if Text.isNameStart c then
        (pathRest text).map fun found => (pathToken (c :: found.1), found.2)
      else .error ⟨.unexpectedChar c, c :: text⟩ := by
  simp only [marks, List.mem_cons, List.not_mem_nil, or_false, not_or] at unmarked
  have absent : symbol? (c :: text) = none := by
    apply (symbol?_eq_none_iff c text).2
    simp [unmarked]
  have unquoted : ¬(c = '"' ∨ c = '\'') := by simp [unmarked]
  rw [token, absent]
  simp only [Bool.or_eq_true, decide_eq_true_eq, if_neg unquoted]

theorem nameStart_alone (start : Text.isNameStart c = true) :
    c ∉ marks ∧ c ≠ '-' ∧ isNumberPart c = false := by
  have trial : ∀ code : Fin 128, Text.isNameStart (Char.ofNat code) = true →
      Char.ofNat code ∉ marks ∧ Char.ofNat code ≠ '-' ∧
        isNumberPart (Char.ofNat code) = false := by
    decide
  exact Text.ascii_cases (p := fun c => Text.isNameStart c = true →
    c ∉ marks ∧ c ≠ '-' ∧ isNumberPart c = false) trial (Text.ascii_of_nameStart start) start

theorem not_startsNumber (outside : isNumberPart c = false) (text : List Char) :
    startsNumber (c :: text) = false := by
  simp only [isNumberPart, Bool.or_eq_false_iff, beq_eq_false_iff_ne] at outside
  simp [startsNumber, outside]

theorem token_named (start : Text.isNameStart c = true) (signed : Bool) (text : List Char) :
    token signed c text =
      (pathRest text).map fun found => (pathToken (c :: found.1), found.2) := by
  have alone := nameStart_alone start
  rw [token_unmarked alone.1, not_startsNumber alone.2.2]
  simp [alone.2.1, start]

theorem pathRest_part (part : isNamePart c = true) (text : List Char) :
    pathRest (c :: text) = (pathRest text).map fun found => (c :: found.1, found.2) := by
  have noPoint : c ≠ '.' := by
    intro same
    subst same
    revert part
    decide
  rw [pathRest.eq_4 _ _ (by simp [noPoint]) (by simp [noPoint]), if_pos part]

theorem pathRest_run {body text path rest : List Char}
    (inside : ∀ c ∈ body, isNamePart c = true) (read : pathRest text = .ok (path, rest)) :
    pathRest (body ++ text) = .ok (body ++ path, rest) := by
  induction body with
  | nil => exact read
  | cons c body ih =>
      have whole := List.forall_mem_cons.1 inside
      rw [List.cons_append, pathRest_part whole.1, ih whole.2]
      rfl

theorem pathRest_dotted {segments : List (List Char)}
    (segmented : ∀ segment ∈ segments, Text.IsSegment isNamePart segment) :
    pathRest (Text.dotted segments) = .ok (Text.dotted segments, []) := by
  induction segments with
  | nil => rfl
  | cons segment segments ih =>
      have whole := List.forall_mem_cons.1 segmented
      have others := ih whole.2
      cases segment with
      | nil => exact absurd rfl whole.1.nonempty
      | cons c body =>
          have inside := List.forall_mem_cons.1 whole.1.inside
          rw [Text.dotted_cons, List.cons_append, pathRest, if_pos inside.1,
            pathRest_run inside.2 others]
          rfl

theorem pathToken_free {path : List Char} (free : path ∉ reservedWords) :
    pathToken path = .path path := by
  simp only [reservedWords, List.mem_cons, List.not_mem_nil, or_false, not_or] at free
  have noNull : ¬(decide (path = "null".toList) || decide (path = "undefined".toList)) = true := by
    simp only [Bool.or_eq_true, decide_eq_true_eq, free.2.2.1, free.2.2.2, or_self,
      not_false_eq_true]
  rw [pathToken, if_neg free.1, if_neg free.2.1, if_neg noNull]

theorem path_isToken {path : List Char} (spelled : Text.IsPath isNamePart path)
    (free : path ∉ reservedWords) :
    IsToken path (.path path) := by
  cases spelled with
  | intro named segmented =>
      cases named with
      | intro start inside =>
          have read := pathRest_run inside (pathRest_dotted segmented)
          rw [List.cons_append] at free ⊢
          apply IsToken.intro (Text.not_blank_of_nameStart start)
          intro signed _
          rw [token_named start, read, ← pathToken_free free]
          rfl

end Words

section Numbers

variable {text : List Char} {value : Double}

theorem numberPart_of_digit {c : Char} (digit : c.isDigit = true) : isNumberPart c = true := by
  simp [isNumberPart, digit]

theorem IsDecimal.inside (spelled : IsDecimal text) : ∀ c ∈ text, isNumberPart c = true := by
  intro c member
  cases spelled with
  | whole nonempty inside => exact numberPart_of_digit (inside c member)
  | pointed nonempty inside moreInside =>
      rcases List.mem_append.1 member with before | behind
      · exact numberPart_of_digit (inside c before)
      rcases List.mem_cons.1 behind with rfl | after
      · rfl
      · exact numberPart_of_digit (moreInside c after)

theorem startsNumber_digit {c : Char} (digit : c.isDigit = true) (text : List Char) :
    startsNumber (c :: text) = true := by
  have noPoint : c ≠ '.' := by
    intro same
    rw [same] at digit
    contradiction
  simp [startsNumber, noPoint, digit]

theorem IsDecimal.startsNumber (spelled : IsDecimal text) : startsNumber text = true := by
  cases spelled with
  | whole nonempty inside =>
      cases text with
      | nil => exact absurd rfl nonempty
      | cons c digits => exact startsNumber_digit (inside c List.mem_cons_self) digits
  | @pointed digits more nonempty inside moreInside =>
      cases digits with
      | cons c digits => exact startsNumber_digit (inside c List.mem_cons_self) _
      | nil =>
          cases more with
          | nil => exact absurd rfl nonempty
          | cons d more => exact moreInside d List.mem_cons_self

theorem numberPart_alone {c : Char} (part : isNumberPart c = true) :
    c ∉ marks ∧ Text.isBlank c = false ∧ c ∉ ['+', '-'] ∧ c.toLower ∉ ['i', 'n'] := by
  have ascii : c.toNat < 128 := by
    simp only [isNumberPart, Bool.or_eq_true, beq_iff_eq] at part
    rcases part with digit | rfl
    · exact Text.ascii_of_alphanum (by simp [Char.isAlphanum, digit])
    · decide
  have trial : ∀ code : Fin 128, isNumberPart (Char.ofNat code) = true →
      Char.ofNat code ∉ marks ∧ Text.isBlank (Char.ofNat code) = false ∧
        Char.ofNat code ∉ ['+', '-'] ∧ (Char.ofNat code).toLower ∉ ['i', 'n'] := by
    decide
  exact Text.ascii_cases (p := fun c => isNumberPart c = true →
    c ∉ marks ∧ Text.isBlank c = false ∧ c ∉ ['+', '-'] ∧ c.toLower ∉ ['i', 'n']) trial ascii part

theorem sign_numberPart {c : Char} (part : isNumberPart c = true) (text : List Char) :
    Decimal.sign (c :: text) = (false, c :: text) := by
  have alone := numberPart_alone part
  simp only [List.mem_cons, List.not_mem_nil, or_false, not_or] at alone
  simp [Decimal.sign, alone]

theorem special?_numberPart {c : Char} (part : isNumberPart c = true) (text : List Char) :
    Decimal.special? false (c :: text) = none := by
  have alone := numberPart_alone part
  simp only [List.mem_cons, List.not_mem_nil, or_false, not_or] at alone
  simp [Decimal.special?, alone]

/-- A number without sign and exponent is read by its digits before the point and behind it. -/
theorem read?_unsigned {c : Char} {whole after part : List Char} (first : isNumberPart c = true)
    (wholeRead : Decimal.digitRun (c :: text) = (whole, after))
    (partRead : Decimal.fraction after = (part, [])) (nonempty : whole ++ part ≠ []) :
    Decimal.read? (c :: text) = some (Decimal.assemble false whole part 0) := by
  have digits : (whole.isEmpty && part.isEmpty) = false := by
    apply Bool.eq_false_iff.2
    intro both
    simp only [Bool.and_eq_true, List.isEmpty_iff] at both
    simp [both] at nonempty
  rw [Decimal.read?, sign_numberPart first]
  simp only [special?_numberPart first, wholeRead, partRead, digits]
  rfl

theorem IsDecimal.cut (spelled : IsDecimal text) :
    ∃ whole after part, Decimal.digitRun text = (whole, after) ∧
      Decimal.fraction after = (part, []) ∧ whole ++ part ≠ [] := by
  cases spelled with
  | whole nonempty inside =>
      exact ⟨text, [], [], Text.run_all inside, rfl, by simpa using nonempty⟩
  | @pointed digits more nonempty inside moreInside =>
      have stops : Text.Stops Char.isDigit ('.' :: more) := Text.stops_cons rfl more
      exact ⟨digits, '.' :: more, more, Text.run_exact inside stops, Text.run_all moreInside,
        nonempty⟩

/-- Every such number has a value, and a minus sign in front of it is the sign of that value. -/
theorem IsDecimal.read? (spelled : IsDecimal text) :
    ∃ value, Decimal.read? text = some value ∧ value.negate.isNegative = true := by
  have inside := spelled.inside
  have starts := spelled.startsNumber
  obtain ⟨whole, after, part, wholeRead, partRead, nonempty⟩ := spelled.cut
  cases text with
  | nil => exact absurd starts Bool.false_ne_true
  | cons c text =>
      have first := inside c List.mem_cons_self
      exact ⟨_, read?_unsigned first wholeRead partRead nonempty, Double.negate_ofDecimal _ _⟩

theorem number_exact (spelled : IsDecimal text) (read : Decimal.read? text = some value) :
    number text = .ok (value, []) := by
  have cut := Text.run_all spelled.inside
  simp only [Text.run, Prod.mk.injEq] at cut
  simp only [number, cut, read]

theorem number_isToken (spelled : IsDecimal text) (read : Decimal.read? text = some value) :
    IsToken text (.number value) := by
  have inside := spelled.inside
  have starts := spelled.startsNumber
  have whole := number_exact spelled read
  cases text with
  | nil => contradiction
  | cons c text =>
      have alone := numberPart_alone (inside c List.mem_cons_self)
      apply IsToken.intro alone.2.1
      intro signed _
      rw [token_unmarked alone.1, if_pos starts, whole]
      rfl

theorem negative_isToken {c : Char} (digit : c.isDigit = true) (spelled : IsDecimal (c :: text))
    (read : Decimal.read? (c :: text) = some value) :
    IsToken ('-' :: c :: text) (.number value.negate) := by
  obtain ⟨same, again, negative⟩ := spelled.read?
  cases read.symm.trans again
  apply IsToken.intro (by decide)
  intro signed sign
  have unmarked : '-' ∉ marks := by decide
  have noDigit : startsNumber ('-' :: c :: text) = false := not_startsNumber rfl _
  rw [token_unmarked unmarked, noDigit, sign negative, number_exact spelled read]
  simp [digit]
  rfl

end Numbers

/-- What spells a token is read as this token. -/
theorem isToken_of_spells {text : List Char} {found : Token} (spells : Spells text found) :
    IsToken text found := by
  cases spells with
  | fixed listed => exact fixed_isToken listed
  | string quoting value => exact string_isToken quoting value
  | path spelled free => exact path_isToken spelled free
  | number spelled read => exact number_isToken spelled read
  | negative digit spelled read => exact negative_isToken digit spelled read

theorem tokens_blanks {blanks : List Char} (blank : Text.IsBlanks blanks) (signed : Bool)
    (text : List Char) :
    tokens signed (blanks ++ text) = tokens signed text := by
  induction blanks with
  | nil => rfl
  | cons c blanks ih =>
      have whole := List.forall_mem_cons.1 blank
      rw [List.cons_append, tokens, if_pos whole.1]
      exact ih whole.2

section Sequences

variable {text : List Char} {found : Token} {signed : Bool}

theorem tokens_alone (isToken : IsToken text found)
    (sign : found.isNegative = true → signed = true) :
    tokens signed text = .ok [found] := by
  cases isToken with
  | intro visible read =>
      rw [lex_cons visible (read signed sign), tokens]
      rfl

theorem tokens_gap (isToken : IsToken text found)
    (sign : found.isNegative = true → signed = true) {gap : List Char} (isGap : Text.IsGap gap)
    (rest : List Char) :
    tokens signed (text ++ (gap ++ rest)) =
      (tokens (!found.endsOperand) rest).map fun following => found :: following := by
  have behind := tokens_blanks isGap.blank (!found.endsOperand) rest
  cases isToken with
  | intro visible read =>
      cases gap with
      | nil => exact absurd rfl isGap.nonempty
      | cons b blanks =>
          have blank : Text.isBlank b = true := isGap.blank b List.mem_cons_self
          have ends : isBorder b = true := by simp [isBorder, blank]
          rw [← behind]
          exact lex_cons visible (token_border ends (read signed sign))

end Sequences

/-- A sign may stand at the start, and behind a token that does not end an operand. -/
theorem tokens_of_spellsAll {text : List Char} {found : List Token} (spelled : SpellsAll text found)
    (chain : found.IsChain Token.Follows) {signed : Bool}
    (sign : ∀ first ∈ found.head?, first.isNegative = true → signed = true) :
    tokens signed text = .ok found := by
  induction spelled generalizing signed with
  | none => rw [tokens]
  | last spells => exact tokens_alone (isToken_of_spells spells) (sign _ rfl)
  | @more text gap rest found following spells isGap others ih =>
      have apart := List.isChain_cons.1 chain
      have behind : tokens (!found.endsOperand) rest = .ok following := by
        apply ih apart.2
        intro first member negative
        rw [apart.1 first member negative]
        rfl
      rw [tokens_gap (isToken_of_spells spells) (sign found rfl) isGap, behind]
      rfl

end Lexer

theorem tokenize_of_spellsAll {text : List Char} {found : List Token}
    (spelled : Lexer.SpellsAll text found) (chain : found.IsChain Token.Follows) :
    tokenize text = .ok found := by
  apply tokens_of_tokenize.2
  exact Lexer.tokens_of_spellsAll spelled chain fun _ _ _ => rfl

def comparedTo (quote : Char) (value : List Char) : List Char :=
  "x === ".toList ++ Lexer.quoted quote value

def comparedTree (value : List Char) : Grammar.Disjunction :=
  .chain (.chain (.compare (.leaf (.path ['x'])) .strictEqual (.leaf (.string value))) .none) .none

theorem space_isGap : Text.IsGap [' '] where
  nonempty := List.cons_ne_nil _ _
  blank := List.forall_mem_singleton.2 (by decide)

theorem comparedTo_spelled {quote : Char} (quoting : quote ∈ Lexer.quotes) (value : List Char) :
    Lexer.SpellsAll (comparedTo quote value) (comparedTree value).tokens := by
  have named : Text.IsName Lexer.isNamePart ['x'] := .intro rfl (List.forall_mem_nil _)
  have name : Lexer.Spells ['x'] (.path ['x']) :=
    .path (.intro named (List.forall_mem_nil _)) (by decide)
  have sign : Lexer.Spells "===".toList (.compare .strictEqual) := .fixed (by decide)
  have literal : Lexer.Spells (Lexer.quoted quote value) (.string value) := .string quoting value
  exact .more name space_isGap (.more sign space_isGap (.last literal))

theorem comparedTree_follows (value : List Char) :
    (comparedTree value).tokens.IsChain Token.Follows := by
  have behindName : Token.Follows (.path ['x']) (.compare .strictEqual) := by
    intro negative
    contradiction
  have behindSign : Token.Follows (.compare .strictEqual) (.string value) := by
    intro negative
    contradiction
  exact .cons_cons behindName (.cons_cons behindSign (.singleton _))

theorem parse_comparedTo {quote : Char} (quoting : quote ∈ Lexer.quotes) (value : List Char) :
    parse (comparedTo quote value) =
      .ok { source := comparedTo quote value, expr := (comparedTree value).expr } := by
  have read := tokenize_of_spellsAll (comparedTo_spelled quoting value)
    (comparedTree_follows value)
  exact parse_of_tree read (Nat.zero_le _)

theorem holds_comparedTree (s t : String) {scope : Scope}
    (bound : scope.lookup? "x" = some (.string t)) :
    (comparedTree s.toList).expr.holds scope = .ok (decide (s = t)) := by
  have found : pathValue scope ['x'] = .ok (.string t) := by
    have head : String.ofList (Scope.head ['x']) = "x" := rfl
    have resolved : scope.resolve? ['x'] = some (.string t) := by
      change (scope.lookup? "x").bind (fun value => Scope.walk? value []) = some (.string t)
      rw [bound]
      rfl
    rw [pathValue, head, bound, resolved]
    rfl
  have equal : strictlyEqual (.string t) (.string s) = decide (s = t) := by
    change (t == s) = decide (s = t)
    rw [Bool.beq_comm]
    rfl
  have value : (comparedTree s.toList).expr.value scope = .ok (.bool (decide (s = t))) := by
    change (Expr.compare .strictEqual (.path ['x'])
      (.literal (.string (String.ofList s.toList)))).value scope = _
    rw [String.ofList_toList, ← equal]
    simp only [Expr.value, found]
    rfl
  rw [Expr.holds, value]
  rfl

/-- A text that spells tokens is read as these tokens, if no number with a minus sign stands where
an operand has ended. Every run of digits with at most one point has a value, and every string can
be written between either quotes: compared with a name, it is equal to that string alone. -/
theorem tokenize_undoes_spelling :
    (∀ text found, Lexer.SpellsAll text found → found.IsChain Token.Follows →
      tokenize text = .ok found) ∧
    (∀ text, Lexer.IsDecimal text → ∃ value, Decimal.read? text = some value) ∧
    ∀ quote ∈ Lexer.quotes, ∀ s : String, ∃ condition,
      parse ("x === ".toList ++ Lexer.quoted quote s.toList) = .ok condition ∧
        ∀ (scope : Scope) (t : String), scope.lookup? "x" = some (.string t) →
          condition.evaluate scope = .ok (decide (s = t)) := by
  constructor
  · intro text found spelled chain
    exact tokenize_of_spellsAll spelled chain
  constructor
  · intro text spelled
    obtain ⟨value, read, _⟩ := spelled.read?
    exact ⟨value, read⟩
  · intro quote quoting s
    apply Exists.intro _
    apply And.intro (parse_comparedTo quoting s.toList)
    intro scope t bound
    exact holds_comparedTree s t bound

/-- A sign behind an operator, a quote and a backslash inside a string. -/
theorem tokenize_undoes_spelling_mixed :
    tokenize "! x.0 !== -1.5 && 'a\\'\\\\'".toList =
      .ok [.not, .path "x.0".toList, .compare .strictNotEqual,
        .number (Double.ofDecimal false 15 (-1)).negate, .and, .string "a'\\".toList] := by
  have gap := space_isGap
  have negation : Lexer.Spells "!".toList .not := .fixed (by decide)
  have named : Text.IsName Lexer.isNamePart ['x'] := .intro rfl (List.forall_mem_nil _)
  have segment : Text.IsSegment Lexer.isNamePart ['0'] :=
    ⟨List.cons_ne_nil _ _, List.forall_mem_singleton.2 (by decide)⟩
  have path : Lexer.Spells "x.0".toList (.path "x.0".toList) :=
    .path (.intro named (List.forall_mem_singleton.2 segment)) (by decide)
  have differs : Lexer.Spells "!==".toList (.compare .strictNotEqual) := .fixed (by decide)
  have decimal : Lexer.IsDecimal "1.5".toList :=
    .pointed (List.cons_ne_nil '1' ['5']) (List.forall_mem_singleton.2 rfl)
      (List.forall_mem_singleton.2 rfl)
  have number : Lexer.Spells "-1.5".toList (.number (Double.ofDecimal false 15 (-1)).negate) :=
    .negative (by decide) decimal rfl
  have conjunction : Lexer.Spells "&&".toList .and := .fixed (by decide)
  have literal : Lexer.Spells "'a\\'\\\\'".toList (.string "a'\\".toList) :=
    @Lexer.Spells.string '\'' (by decide) ['a', '\'', '\\']
  have spelled := Lexer.SpellsAll.more negation gap (.more path gap (.more differs gap
    (.more number gap (.more conjunction gap (.last literal)))))
  apply tokenize_undoes_spelling.1 _ _ spelled
  simp [Token.Follows, Token.isNegative, Token.endsOperand]

end Condition
end MarkupTemplate
