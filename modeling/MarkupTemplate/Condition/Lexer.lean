import MarkupTemplate.Condition.Token
import MarkupTemplate.Number.Decimal
import MarkupTemplate.Text.Blank

/-!
Reading the tokens of a condition. Each reader takes its token from the start of a text and
returns the rest, which is shorter; a fault keeps the text from the place where it occurred.
-/

namespace MarkupTemplate
namespace Condition

inductive Cause
  | unexpectedChar (c : Char)
  | unterminatedString
  | invalidNumber (text : List Char)
  | emptyPathSegment
deriving DecidableEq, Repr

structure Fault where
  cause : Cause
  /-- What remains of the source from the fault on. -/
  remaining : List Char
deriving DecidableEq, Repr

namespace Lexer

def isNamePart (c : Char) : Bool :=
  c.isAlphanum || c == '_' || c == '$'

def isNumberPart (c : Char) : Bool :=
  c.isDigit || c == '.'

/-- Operators and parentheses; of two that fit, the longer. -/
def symbol? : List Char → Option (Token × List Char)
  | '=' :: '=' :: '=' :: rest => some (.compare .strictEqual, rest)
  | '!' :: '=' :: '=' :: rest => some (.compare .strictNotEqual, rest)
  | '=' :: '=' :: rest => some (.compare .equal, rest)
  | '!' :: '=' :: rest => some (.compare .notEqual, rest)
  | '<' :: '=' :: rest => some (.compare .atMost, rest)
  | '>' :: '=' :: rest => some (.compare .atLeast, rest)
  | '&' :: '&' :: rest => some (.and, rest)
  | '|' :: '|' :: rest => some (.or, rest)
  | '<' :: rest => some (.compare .less, rest)
  | '>' :: rest => some (.compare .greater, rest)
  | '!' :: rest => some (.not, rest)
  | '(' :: rest => some (.leftParen, rest)
  | ')' :: rest => some (.rightParen, rest)
  | _ => none

def unescape (c : Char) : Char :=
  if c = 'n' then '\n' else if c = 't' then '\t' else c

def stringRest? (quote : Char) : List Char → Option (List Char × List Char)
  | [] => none
  | ['\\'] => none
  | '\\' :: c :: text =>
      (stringRest? quote text).map fun (value, rest) => (unescape c :: value, rest)
  | c :: text =>
      if c = quote then some ([], text)
      else (stringRest? quote text).map fun (value, rest) => (c :: value, rest)

def number (text : List Char) : Except Fault (Double × List Char) :=
  let digits := text.takeWhile isNumberPart
  match Decimal.read? digits with
  | some value => .ok (value, text.dropWhile isNumberPart)
  | none => .error ⟨.invalidNumber digits, text⟩

/-- The rest of a path behind its first character. A point is part of the path and begins a
segment, which is not empty. -/
def pathRest : List Char → Except Fault (List Char × List Char)
  | [] => .ok ([], [])
  | ['.'] => .error ⟨.emptyPathSegment, ['.']⟩
  | '.' :: c :: text =>
      if isNamePart c then
        (pathRest text).map fun (path, rest) => ('.' :: c :: path, rest)
      else .error ⟨.emptyPathSegment, '.' :: c :: text⟩
  | c :: text =>
      if isNamePart c then (pathRest text).map fun (path, rest) => (c :: path, rest)
      else .ok ([], c :: text)

/-- Four words are literals, whatever data has members of these names. -/
def pathToken (path : List Char) : Token :=
  if path = "true".toList then .truth true
  else if path = "false".toList then .truth false
  else if path = "null".toList || path = "undefined".toList then .null
  else .path path

def startsNumber : List Char → Bool
  | '.' :: c :: _ => c.isDigit
  | c :: _ => c.isDigit
  | [] => false

/-- The first token of a text that begins with `c`, which is not blank. `signed` tells whether a
minus sign may be the sign of a number here. -/
def token (signed : Bool) (c : Char) (text : List Char) : Except Fault (Token × List Char) :=
  match symbol? (c :: text) with
  | some found => .ok found
  | none =>
      if c = '"' || c = '\'' then
        match stringRest? c text with
        | some (value, rest) => .ok (.string value, rest)
        | none => .error ⟨.unterminatedString, c :: text⟩
      else if startsNumber (c :: text) then
        (number (c :: text)).map fun (value, rest) => (.number value, rest)
      else if c = '-' && signed && (text.head?.map Char.isDigit).getD false then
        (number text).map fun (value, rest) => (.number value.negate, rest)
      else if Text.isNameStart c then
        (pathRest text).map fun (path, rest) => (pathToken (c :: path), rest)
      else .error ⟨.unexpectedChar c, c :: text⟩

theorem symbol?_shorter
    {text rest : List Char} {found : Token}
    (read : symbol? text = some (found, rest)) :
    rest.length < text.length := by
  unfold symbol? at read
  split at read <;> simp_all <;> omega

theorem stringRest?_shorter
    {quote : Char} {text value rest : List Char}
    (read : stringRest? quote text = some (value, rest)) :
    rest.length < text.length := by
  fun_induction stringRest? quote text generalizing value with
  | case1 => simp at read
  | case2 => simp at read
  | case3 c text ih =>
      obtain ⟨⟨inner, tail⟩, inner_read, pair_eq⟩ := Option.map_eq_some_iff.1 read
      cases pair_eq
      have := ih inner_read
      simp only [List.length_cons]
      omega
  | case4 text => simp_all
  | case5 c text _ _ _ ih =>
      obtain ⟨⟨inner, tail⟩, inner_read, pair_eq⟩ := Option.map_eq_some_iff.1 read
      cases pair_eq
      have := ih inner_read
      simp only [List.length_cons]
      omega

theorem dropWhile_length_le (p : Char → Bool) (text : List Char) :
    (text.dropWhile p).length ≤ text.length :=
  (List.dropWhile_suffix p).length_le

theorem number_length_le
    {text rest : List Char} {value : Double}
    (read : number text = .ok (value, rest)) :
    rest.length ≤ text.length := by
  simp only [number] at read
  split at read
  · cases read
    exact dropWhile_length_le _ _
  · contradiction

theorem number_shorter
    {text rest : List Char} {value : Double}
    (starts : startsNumber text = true)
    (read : number text = .ok (value, rest)) :
    rest.length < text.length := by
  simp only [number] at read
  split at read
  · cases read
    match text, starts with
    | c :: text, starts =>
        have part : isNumberPart c = true := by
          simp only [startsNumber] at starts
          split at starts <;> simp_all [isNumberPart]
        rw [List.dropWhile_cons_of_pos part]
        have := dropWhile_length_le isNumberPart text
        simp only [List.length_cons]
        omega
  · contradiction

theorem pathRest_length_le
    {text path rest : List Char}
    (read : pathRest text = .ok (path, rest)) :
    rest.length ≤ text.length := by
  fun_induction pathRest text generalizing path with
  | case1 => cases read; simp
  | case2 => cases read
  | case3 c text _ ih =>
      match inner : pathRest text, read with
      | .ok (innerPath, innerRest), read =>
          cases read
          have := ih inner
          simp only [List.length_cons]
          omega
  | case4 => cases read
  | case5 c text _ _ _ ih =>
      match inner : pathRest text, read with
      | .ok (innerPath, innerRest), read =>
          cases read
          have := ih inner
          simp only [List.length_cons]
          omega
  | case6 => cases read; simp

theorem token_shorter
    {signed : Bool} {c : Char} {text rest : List Char} {found : Token}
    (read : token signed c text = .ok (found, rest)) :
    rest.length < (c :: text).length := by
  simp only [token] at read
  split at read
  · next symbol_read => cases read; exact symbol?_shorter symbol_read
  split at read
  · split at read
    · next string_read =>
        cases read
        have := stringRest?_shorter string_read
        simp only [List.length_cons]
        omega
    · cases read
  split at read
  · next starts =>
      match inner : number (c :: text), read with
      | .ok (value, tail), read =>
          cases read
          exact number_shorter starts inner
  split at read
  · match inner : number text, read with
    | .ok (value, tail), read =>
        cases read
        have := number_length_le inner
        simp only [List.length_cons]
        omega
  split at read
  · match inner : pathRest text, read with
    | .ok (path, tail), read =>
        cases read
        have := pathRest_length_le inner
        simp only [List.length_cons]
        omega
  · cases read

def tokens (signed : Bool) (text : List Char) : Except Fault (List Token) :=
  match text with
  | [] => .ok []
  | c :: text =>
      if Text.isBlank c then tokens signed text
      else
        match _read : token signed c text with
        | .error fault => .error fault
        | .ok (found, rest) =>
            (tokens (!found.endsOperand) rest).map fun following => found :: following
termination_by text.length
decreasing_by
  · simp
  · exact token_shorter _read

end Lexer
end Condition
end MarkupTemplate
