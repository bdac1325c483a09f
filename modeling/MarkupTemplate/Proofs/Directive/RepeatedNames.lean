import MarkupTemplate.Proofs.Condition.Spelling
import MarkupTemplate.Proofs.Condition.TokenReading
import MarkupTemplate.Proofs.Directive.RepeatReading

/-!
The names of a repeat value as conditions. The two grammars of paths differ in one class only: a
repeat value takes every word character into a name, a condition those of ASCII. So a condition
tests what a repetition binds exactly if its name is ASCII.
-/

namespace MarkupTemplate

namespace Condition

def pathTree (path : List Char) : Grammar.Disjunction :=
  .chain (.chain (.alone (.leaf (.path path))) .none) .none

theorem parse_path {path : List Char} (spelled : Text.IsPath Lexer.isNamePart path)
    (free : path ∉ Lexer.reservedWords) :
    parse path = .ok { source := path, expr := .path path } := by
  have read : tokenize path = .ok (pathTree path).tokens :=
    tokenize_of_spellsAll (.last (.path spelled free)) (.singleton _)
  exact parse_of_tree read (Nat.zero_le _)

/-- What is missing behind a bound name counts as the empty string, which is not true. -/
theorem evaluate_path {source path : List Char} {scope : Scope}
    (bound : (scope.lookup? (String.ofList (Scope.head path))).isSome = true) :
    evaluate { source := source, expr := .path path } scope =
      .ok ((scope.resolve? path).any Json.isTruthy) := by
  obtain ⟨value, found⟩ := Option.isSome_iff_exists.1 bound
  have read : pathValue scope path = .ok ((scope.resolve? path).getD (.string "")) := by
    rw [pathValue, found]
  rw [evaluate, Expr.holds, Expr.value, read]
  cases scope.resolve? path <;> rfl

namespace Lexer

theorem ascii_of_pathPart {c : Char} (part : isPathPart c = true) : c.toNat < 128 := by
  simp only [isPathPart, isNamePart, Bool.or_eq_true, beq_iff_eq] at part
  rcases part with rfl | (alphanum | rfl) | rfl
  · decide
  · exact Text.ascii_of_alphanum alphanum
  · decide
  · decide

/-- No token begins with a character outside ASCII. -/
theorem token_foreign {c : Char} (foreign : 128 ≤ c.toNat) (signed : Bool) (text : List Char) :
    token signed c text = .error ⟨.unexpectedChar c, c :: text⟩ := by
  have other : ∀ d : Char, d.toNat < 128 → c ≠ d := by
    intro d ascii same
    rw [same] at foreign
    omega
  have unmarked : c ∉ marks := by
    intro member
    have ascii : ∀ mark ∈ marks, mark.toNat < 128 := by simp [marks]
    exact other c (ascii c member) rfl
  have noDigit : c.isDigit = false := by
    apply Bool.eq_false_iff.2
    intro digit
    exact other c (Text.ascii_of_alphanum (by simp [Char.isAlphanum, digit])) rfl
  have noNumber : isNumberPart c = false := by
    simp [isNumberPart, noDigit, other '.' (by decide)]
  have noSign : c ≠ '-' := other '-' (by decide)
  have noName : Text.isNameStart c = false := by
    apply Bool.eq_false_iff.2
    intro start
    exact other c (Text.ascii_of_nameStart start) rfl
  rw [token_unmarked unmarked, not_startsNumber noNumber, noName]
  simp [noSign]

theorem namePart_of_ascii {c : Char} (part : Repeat.isNamePart c = true) (ascii : c.toNat < 128) :
    isNamePart c = true := by
  simpa [Repeat.isNamePart, Text.isWord, ascii, isNamePart] using part

/-- A path of a repeat value goes on with a character outside ASCII where a condition ends it. -/
theorem foreign_of_stop {c : Char} (part : c = '.' ∨ Repeat.isNamePart c = true)
    (stop : isPathPart c = false) :
    Text.isBlank c = false ∧ 128 ≤ c.toNat := by
  simp only [isPathPart, Bool.or_eq_false_iff, beq_eq_false_iff_ne] at stop
  have word := part.resolve_left stop.1
  constructor
  · apply Bool.eq_false_iff.2
    intro blank
    rw [Repeat.not_namePart_of_blank blank] at word
    contradiction
  · apply Nat.le_of_not_lt
    intro ascii
    rw [namePart_of_ascii word ascii] at stop
    exact absurd stop.2 (by decide)

theorem ascii_of_tokens {signed : Bool} {c : Char} {text : List Char} {found : List Token}
    (start : Text.isNameStart c = true)
    (parts : ∀ d ∈ text, d = '.' ∨ Repeat.isNamePart d = true)
    (read : tokens signed (c :: text) = .ok found) :
    ∀ d ∈ c :: text, d.toNat < 128 := by
  have visible := Text.not_blank_of_nameStart start
  have named := token_named start signed text
  match behind : pathRest text, named with
  | .error fault, named =>
      rw [tokens_error visible named] at read
      contradiction
  | .ok (path, rest), named =>
      have sound := pathRest_sound behind
      cases rest with
      | nil =>
          have ascii : ∀ d ∈ text, d.toNat < 128 := by
            intro d member
            rw [sound.1, List.append_nil] at member
            exact ascii_of_pathPart (sound.2.1 d member)
          exact List.forall_mem_cons.2 ⟨Text.ascii_of_nameStart start, ascii⟩
      | cons d rest =>
          have member : d ∈ text := by
            rw [sound.1]
            exact List.mem_append_right _ List.mem_cons_self
          have foreign := foreign_of_stop (parts d member) (sound.2.2 d rfl)
          rw [lex_cons visible named, tokens_error foreign.1 (token_foreign foreign.2 _ _)] at read
          contradiction

end Lexer

theorem ascii_of_parse {path : List Char} (spelled : Text.IsPath Repeat.isNamePart path)
    {condition : Condition} (parsed : parse path = .ok condition) :
    ∀ c ∈ path, c.toNat < 128 := by
  have parts := spelled.inside Repeat.namePart_of_nameStart
  have begins := spelled.begins
  obtain ⟨c, text, rfl, start⟩ := begins
  cases read : tokenize (c :: text) with
  | error error =>
      rw [parse, read] at parsed
      contradiction
  | ok found =>
      have others := (List.forall_mem_cons.1 parts).2
      exact Lexer.ascii_of_tokens start others (tokens_of_tokenize.1 read)

end Condition

namespace Repeat

def mentioned (spec : Repeat) : List (List Char) :=
  spec.item :: (spec.index.toList ++ [spec.source])

theorem mentioned_isPath {text : List Char} {spec : Repeat} (read : parse? text = some spec)
    {path : List Char} (member : path ∈ spec.mentioned) :
    Text.IsPath isNamePart path := by
  simp only [mentioned, List.mem_cons, List.mem_append, Option.mem_toList, List.not_mem_nil,
    or_false] at member
  rcases member with rfl | present | rfl
  · exact (item_named read).path
  · exact (index_named read present).path
  · exact source_isPath read

/-- A name or path of a repeat value is a condition exactly if it is ASCII, and then the condition
is whether its value counts as true, wherever its name is bound. -/
theorem mentioned_tested_iff {text : List Char} {spec : Repeat} (read : parse? text = some spec)
    {path : List Char} (member : path ∈ spec.mentioned)
    (free : path ∉ Condition.Lexer.reservedWords) :
    ((∃ condition, Condition.parse path = .ok condition) ↔ ∀ c ∈ path, c.toNat < 128) ∧
    ∀ condition, Condition.parse path = .ok condition →
      ∀ scope : Scope, (scope.lookup? (String.ofList (Scope.head path))).isSome = true →
        condition.evaluate scope = .ok ((scope.resolve? path).any Json.isTruthy) := by
  have spelled := mentioned_isPath read member
  have parses : (∀ c ∈ path, c.toNat < 128) →
      Condition.parse path = .ok { source := path, expr := .path path } := by
    intro ascii
    have narrow := spelled.narrow fun c inside part =>
      Condition.Lexer.namePart_of_ascii part (ascii c inside)
    exact Condition.parse_path narrow free
  constructor
  · constructor
    · intro tested
      obtain ⟨condition, parsed⟩ := tested
      exact Condition.ascii_of_parse spelled parsed
    · intro ascii
      exact ⟨_, parses ascii⟩
  · intro condition parsed scope bound
    have same := parses (Condition.ascii_of_parse spelled parsed)
    cases parsed.symm.trans same
    exact Condition.evaluate_path bound

theorem mentioned_tested_rows :
    parse? "(row, i) in data.rows".toList =
      some ⟨"row".toList, some ['i'], "data.rows".toList⟩ ∧
    ∃ condition, Condition.parse "data.rows".toList = .ok condition ∧
      condition.evaluate (.root (.object [("data", .object [("rows", .array [])])])) =
        .ok true := by
  have read : parse? "(row, i) in data.rows".toList =
      some ⟨"row".toList, some ['i'], "data.rows".toList⟩ := by decide +kernel
  have tested := mentioned_tested_iff read (by decide : "data.rows".toList ∈ mentioned _)
    (by decide)
  have parses := tested.1.2 (by simp)
  obtain ⟨condition, parsed⟩ := parses
  exact ⟨read, condition, parsed, tested.2 condition parsed _ rfl⟩

/-- A name that a repetition binds and no condition can test. -/
theorem mentioned_not_always_tested :
    ¬∀ text spec, parse? text = some spec → ∀ path ∈ spec.mentioned,
      path ∉ Condition.Lexer.reservedWords →
        ∃ condition, Condition.parse path = .ok condition ∧
          ∀ scope : Scope, (scope.lookup? (String.ofList (Scope.head path))).isSome = true →
            condition.evaluate scope = .ok ((scope.resolve? path).any Json.isTruthy) := by
  intro always
  have read : parse? "aé in rows".toList = some ⟨['a', 'é'], none, "rows".toList⟩ := by
    decide +kernel
  have member : ['a', 'é'] ∈ mentioned ⟨['a', 'é'], none, "rows".toList⟩ := by decide
  obtain ⟨condition, parsed, _⟩ := always _ _ read _ member (by decide)
  have ascii := Condition.ascii_of_parse (mentioned_isPath read member) parsed 'é' (by decide)
  exact absurd ascii (by decide)

end Repeat
end MarkupTemplate
