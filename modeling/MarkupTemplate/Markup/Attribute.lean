import MarkupTemplate.Markup.Basic

/-!
Reading the attributes of a start tag. Every reader cuts its text in two; what it read and what it
left are the text again.
-/

namespace MarkupTemplate
namespace Markup

open Text (run run_append)

def nameRest : List Char → List Char × List Char
  | [] => ([], [])
  | '/' :: '>' :: text => ([], '/' :: '>' :: text)
  | c :: text =>
      if Text.isMarkupBlank c || c = '=' || c = '>' then ([], c :: text)
      else (c :: (nameRest text).1, (nameRest text).2)

theorem nameRest_append (text : List Char) : (nameRest text).1 ++ (nameRest text).2 = text := by
  fun_induction nameRest text with
  | case1 => rfl
  | case2 => rfl
  | case3 => rfl
  | case4 _ _ _ _ ih => simp [ih]

/-- An attribute name whose first character is given. A first character that is an equals sign is
a name by itself. -/
def attrName (first : Char) (text : List Char) : List Char × List Char :=
  if first = '=' then (['='], text) else (first :: (nameRest text).1, (nameRest text).2)

theorem attrName_append (first : Char) (text : List Char) :
    (attrName first text).1 ++ (attrName first text).2 = first :: text := by
  simp only [attrName]
  split
  · next same => simp [same]
  · simp [nameRest_append]

theorem attrName_shorter (first : Char) (text : List Char) :
    (attrName first text).2.length ≤ text.length := by
  have lengths := congrArg List.length (attrName_append first text)
  have nonempty : 0 < (attrName first text).1.length := by
    simp only [attrName]
    split <;> simp
  simp only [List.length_append, List.length_cons] at lengths
  omega

def isBareValue (c : Char) : Bool :=
  !(Text.isMarkupBlank c || c == '>')

def quotedText? : List Char → Option ((Quoting × List Char) × List Char)
  | [] => none
  | '"' :: text => (Text.cut? ['"'] text).map fun (body, rest) => ((.double, body), rest)
  | '\'' :: text => (Text.cut? ['\''] text).map fun (body, rest) => ((.single, body), rest)
  | text => some ((.bare, (run isBareValue text).1), (run isBareValue text).2)

theorem append_of_quotedText?
    {text body rest : List Char} {quoting : Quoting}
    (read : quotedText? text = some ((quoting, body), rest)) :
    text = quoting.mark ++ body ++ quoting.mark ++ rest := by
  unfold quotedText? at read
  split at read
  · contradiction
  · obtain ⟨⟨inner, tail⟩, found, pair_eq⟩ := Option.map_eq_some_iff.1 read
    cases pair_eq
    simp [Quoting.mark, Text.append_of_cut? found]
  · obtain ⟨⟨inner, tail⟩, found, pair_eq⟩ := Option.map_eq_some_iff.1 read
    cases pair_eq
    simp [Quoting.mark, Text.append_of_cut? found]
  · cases read
    simp [Quoting.mark, run_append]

/-- The value behind a name, if an equals sign follows; nothing at all if the text ends before the
value does. -/
def attrValue? (text : List Char) : Option (Option AttrValue × List Char) :=
  match (run Text.isMarkupBlank text).2 with
  | '=' :: afterSign =>
      (quotedText? (run Text.isMarkupBlank afterSign).2).map fun ((quoting, body), rest) =>
        (some
          { before := (run Text.isMarkupBlank text).1
            after := (run Text.isMarkupBlank afterSign).1
            quoting := quoting
            text := body }, rest)
  | _ => some (none, text)

theorem append_of_attrValue?
    {text rest : List Char} {value : Option AttrValue}
    (read : attrValue? text = some (value, rest)) :
    text = (value.map AttrValue.source).getD [] ++ rest := by
  unfold attrValue? at read
  split at read
  · next afterSign sign_eq =>
      obtain ⟨⟨⟨quoting, body⟩, tail⟩, found, pair_eq⟩ := Option.map_eq_some_iff.1 read
      cases pair_eq
      have split_eq := run_append Text.isMarkupBlank text
      have value_eq := append_of_quotedText? found
      have after_eq := run_append Text.isMarkupBlank afterSign
      rw [sign_eq, ← after_eq, value_eq] at split_eq
      simpa [AttrValue.source] using split_eq.symm
  · cases read
    rfl

theorem attrValue?_length_le
    {text rest : List Char} {value : Option AttrValue}
    (read : attrValue? text = some (value, rest)) :
    rest.length ≤ text.length := by
  rw [append_of_attrValue? read]
  simp

structure TagRest where
  attrs : List Attr
  trailing : List Char
  selfClosing : Bool
  rest : List Char

/-- Reads up to the end of a start tag. A text that ends before the tag does has none. -/
def tagRest? (text : List Char) : Option TagRest :=
  match _blanks : (run Text.isMarkupBlank text).2 with
  | [] => none
  | '>' :: rest => some ⟨[], (run Text.isMarkupBlank text).1, false, rest⟩
  | '/' :: '>' :: rest => some ⟨[], (run Text.isMarkupBlank text).1, true, rest⟩
  | first :: named =>
      match _value : attrValue? (attrName first named).2 with
      | none => none
      | some (value, rest) =>
          (tagRest? rest).map fun following =>
            { following with
              attrs := ⟨(run Text.isMarkupBlank text).1, (attrName first named).1, value⟩ ::
                following.attrs }
termination_by text.length
decreasing_by
  have text_eq := congrArg List.length (run_append Text.isMarkupBlank text)
  have name_le := attrName_shorter first named
  have value_le := attrValue?_length_le _value
  simp only [_blanks, List.length_append, List.length_cons] at text_eq
  omega

theorem append_of_tagRest?
    {text : List Char} {found : TagRest}
    (read : tagRest? text = some found) :
    text = found.attrs.flatMap Attr.source ++ found.trailing ++
      (if found.selfClosing then ['/', '>'] else ['>']) ++ found.rest := by
  fun_induction tagRest? text generalizing found with
  | case1 => contradiction
  | case2 text rest blanks =>
      cases read
      have text_eq := run_append Text.isMarkupBlank text
      rw [blanks] at text_eq
      simpa using text_eq.symm
  | case3 text rest blanks =>
      cases read
      have text_eq := run_append Text.isMarkupBlank text
      rw [blanks] at text_eq
      simpa using text_eq.symm
  | case4 => contradiction
  | case5 text first named _ _ blanks value rest value_read ih =>
      obtain ⟨following, following_read, found_eq⟩ := Option.map_eq_some_iff.1 read
      cases found_eq
      have text_eq := run_append Text.isMarkupBlank text
      rw [blanks, ← attrName_append first named, append_of_attrValue? value_read,
        ih following_read] at text_eq
      simpa [Attr.source] using text_eq.symm

end Markup
end MarkupTemplate
