import MarkupTemplate.Markup.Attribute
import MarkupTemplate.Markup.Token
import MarkupTemplate.Markup.Vocabulary

/-!
Cutting markup into tokens. No text is refused: what does not form a tag, a comment or a declaration
is text. The main statement is that the sources of the tokens, in order, are the text.
-/

namespace MarkupTemplate
namespace Markup

open Text (run run_append)

/-- Whether a `<` at the start of a text opens a tag, an end tag, a comment or a declaration. -/
def opens : List Char → Bool
  | '<' :: c :: _ => c.isAlpha || c == '/' || c == '!' || c == '?'
  | _ => false

def plainRun : List Char → List Char × List Char
  | [] => ([], [])
  | c :: text =>
      if opens (c :: text) then ([], c :: text)
      else (c :: (plainRun text).1, (plainRun text).2)

theorem plainRun_append (text : List Char) : (plainRun text).1 ++ (plainRun text).2 = text := by
  induction text with
  | nil => rfl
  | cons c text ih =>
      simp only [plainRun]
      split
      · rfl
      · simp [ih]

def isEndTagName (c : Char) : Bool :=
  c.isAlphanum || c == '-'

/-- The name in a well-formed end tag at the start of a text: letters, digits and hyphens, behind
which only blanks stand before the `>`. -/
def endTagName? : List Char → Option (List Char)
  | '<' :: '/' :: text =>
      let (name, rest) := run isEndTagName text
      if name.isEmpty then none
      else
        match Text.trimStart rest with
        | '>' :: _ => some name
        | _ => none
  | _ => none

/-- The content of a raw text element: up to its own end tag, or all of the text. -/
def rawBody (name : List Char) : List Char → List Char × List Char
  | [] => ([], [])
  | c :: text =>
      if (endTagName? (c :: text)).any (Text.sameName name) then ([], c :: text)
      else (c :: (rawBody name text).1, (rawBody name text).2)

theorem rawBody_append (name text : List Char) :
    (rawBody name text).1 ++ (rawBody name text).2 = text := by
  induction text with
  | nil => rfl
  | cons c text ih =>
      simp only [rawBody]
      split
      · rfl
      · simp [ih]

def rawElement (tag : StartTag) (text : List Char) : Token × List Char :=
  match (rawBody tag.name text).2 with
  | [] => (.rawElement tag (rawBody tag.name text).1 none, [])
  | c :: rest =>
      (.rawElement tag (rawBody tag.name text).1 (some (Text.through '>' (c :: rest)).1),
        (Text.through '>' (c :: rest)).2)

def isTagName (c : Char) : Bool :=
  !(Text.isMarkupBlank c || c == '>' || c == '/')

def elementToken (text : List Char) : Token × List Char :=
  match tagRest? (run isTagName text).2 with
  | none => (.unfinished ('<' :: text), [])
  | some found =>
      let tag : StartTag := ⟨(run isTagName text).1, found.attrs, found.trailing⟩
      if !found.selfClosing && Vocabulary.isRawText tag.name then rawElement tag found.rest
      else (.startTag tag found.selfClosing, found.rest)

def commentToken (text : List Char) : Token × List Char :=
  match Text.cut? "-->".toList text with
  | some (body, rest) => (.comment body, rest)
  | none => (.unfinished ("<!--".toList ++ text), [])

/-- A declaration, which is text where it is not closed. -/
def declarationToken (text : List Char) : Token × List Char :=
  match Text.cut? ['>'] text with
  | some (body, rest) => (.declaration (body ++ ['>']), rest)
  | none => (.text text, [])

/-- An end tag, or text up to the next `>`. -/
def endTagToken (text : List Char) : Token × List Char :=
  match endTagName? text with
  | some name => (.endTag name (Text.through '>' text).1, (Text.through '>' text).2)
  | none => (.text (Text.through '>' text).1, (Text.through '>' text).2)

def token (c : Char) (text : List Char) : Token × List Char :=
  if opens (c :: text) then
    match text with
    | '/' :: _ => endTagToken (c :: text)
    | '!' :: '-' :: '-' :: rest => commentToken rest
    | '!' :: _ => declarationToken (c :: text)
    | '?' :: _ => declarationToken (c :: text)
    | _ => elementToken text
  else (.text (c :: (plainRun text).1), (plainRun text).2)

theorem rawElement_append (tag : StartTag) (text : List Char) :
    (rawElement tag text).1.source ++ (rawElement tag text).2 = tag.source ++ '>' :: text := by
  have text_eq := rawBody_append tag.name text
  simp only [rawElement]
  split
  · next rest_eq =>
      rw [rest_eq] at text_eq
      simpa [Token.source] using text_eq
  · next c rest rest_eq =>
      have rest_append := Text.through_append '>' (c :: rest)
      rw [← rest_eq] at rest_append ⊢
      simp only [Token.source, Option.getD_some, List.append_assoc, List.cons_append]
      rw [rest_append, text_eq]

theorem elementToken_append (text : List Char) :
    (elementToken text).1.source ++ (elementToken text).2 = '<' :: text := by
  have text_eq := run_append isTagName text
  simp only [elementToken]
  split
  · simp [Token.source]
  · next found read =>
      rw [append_of_tagRest? read] at text_eq
      split
      · next raw =>
          rw [rawElement_append]
          simp only [Bool.and_eq_true, Bool.not_eq_true'] at raw
          simpa [StartTag.source, raw.1] using text_eq
      · simpa [Token.source, StartTag.source, Token.tagEnd] using text_eq

theorem commentToken_append (text : List Char) :
    (commentToken text).1.source ++ (commentToken text).2 = "<!--".toList ++ text := by
  simp only [commentToken]
  split
  · next body rest found =>
      rw [Text.append_of_cut? found]
      simp [Token.source, Node.commentSource]
  · simp [Token.source]

theorem declarationToken_append (text : List Char) :
    (declarationToken text).1.source ++ (declarationToken text).2 = text := by
  simp only [declarationToken]
  split
  · next body rest found =>
      rw [Text.append_of_cut? found]
      simp [Token.source]
  · simp [Token.source]

theorem endTagToken_append (text : List Char) :
    (endTagToken text).1.source ++ (endTagToken text).2 = text := by
  simp only [endTagToken]
  split <;> simpa [Token.source] using Text.through_append '>' text

theorem token_append (c : Char) (text : List Char) :
    (token c text).1.source ++ (token c text).2 = c :: text := by
  simp only [token]
  split
  · next opening =>
      have starts : c = '<' := by
        unfold opens at opening
        split at opening
        · next text_eq => simp_all
        · contradiction
      subst starts
      split
      · exact endTagToken_append _
      · exact commentToken_append _
      · exact declarationToken_append _
      · exact declarationToken_append _
      · exact elementToken_append _
  · simp [Token.source, plainRun_append]

theorem elementToken_source_ne_nil (text : List Char) : (elementToken text).1.source ≠ [] := by
  simp only [elementToken]
  split
  · simp [Token.source]
  · split
    · simp only [rawElement]
      split <;> simp [Token.source, StartTag.source]
    · simp [Token.source, StartTag.source]

theorem commentToken_source_ne_nil (text : List Char) : (commentToken text).1.source ≠ [] := by
  simp only [commentToken]
  split <;> simp [Token.source, Node.commentSource]

theorem declarationToken_source_ne_nil (c : Char) (text : List Char) :
    (declarationToken (c :: text)).1.source ≠ [] := by
  simp only [declarationToken]
  split <;> simp [Token.source]

theorem endTagToken_source_ne_nil (c : Char) (text : List Char) :
    (endTagToken (c :: text)).1.source ≠ [] := by
  have nonempty : (Text.through '>' (c :: text)).1 ≠ [] := by
    simp only [Text.through]
    split <;> simp
  simp only [endTagToken]
  split <;> simpa [Token.source] using nonempty

theorem token_source_ne_nil (c : Char) (text : List Char) : (token c text).1.source ≠ [] := by
  simp only [token]
  split
  · split
    · exact endTagToken_source_ne_nil _ _
    · exact commentToken_source_ne_nil _
    · exact declarationToken_source_ne_nil _ _
    · exact declarationToken_source_ne_nil _ _
    · exact elementToken_source_ne_nil _
  · simp [Token.source]

theorem token_shorter (c : Char) (text : List Char) :
    (token c text).2.length < (c :: text).length := by
  have lengths := congrArg List.length (token_append c text)
  have nonempty := List.length_pos_iff.2 (token_source_ne_nil c text)
  simp only [List.length_append] at lengths
  omega

/-- The tokens of a text. -/
def scan : List Char → List Token
  | [] => []
  | c :: text => (token c text).1 :: scan (token c text).2
termination_by text => text.length
decreasing_by exact token_shorter c text

theorem scan_sources (text : List Char) : (scan text).flatMap Token.source = text := by
  fun_induction scan text with
  | case1 => rfl
  | case2 c text ih => simp [ih, token_append]

end Markup
end MarkupTemplate
