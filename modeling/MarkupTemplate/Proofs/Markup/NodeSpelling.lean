import MarkupTemplate.Proofs.Markup.WrittenMarkup

/-!
How the nodes of a tree are spelled. A comment or a declaration is one that the scanner reads, what
closes an element is an end tag, and the content of a raw text element is a text without the end tag
that closes it.
-/

namespace MarkupTemplate
namespace Markup

def EndTagSource (source : List Char) : Prop :=
  ∃ name blanks, EndTagShape name blanks ∧ source = endTagText name blanks ++ ['>']

/-- The content of a raw text element in front of what closes it. -/
inductive RawContent (tag : StartTag) : List Node → Closing → Prop
  | unclosed {body : List Char} (clear : Clear (endsRaw tag.name) [] body) :
      RawContent tag (if body.isEmpty then [] else [.text body]) .missing
  | closed {body name blanks rest : List Char} (shape : EndTagShape name blanks)
      (same : Text.sameName tag.name name = true)
      (clear : Clear (endsRaw tag.name) (endTagText name blanks ++ '>' :: rest) body) :
      RawContent tag (if body.isEmpty then [] else [.text body])
        (.explicit (endTagText name blanks ++ ['>']))

def Spelled : Node → Prop
  | .element tag children closing =>
      (∀ source, closing = .explicit source → EndTagSource source) ∧
        (Vocabulary.isRawText tag.name = true →
          closing = .selfClosing ∨ RawContent tag children closing)
  | .text _ => True
  | .comment body => ∃ text rest, commentToken text = (.comment body, rest)
  | .declaration source =>
      ∃ mark text rest, (mark = '!' ∨ mark = '?') ∧
        (∀ inner, mark :: text ≠ '!' :: '-' :: '-' :: inner) ∧
        declarationToken ('<' :: mark :: text) = (.declaration source, rest)

theorem gives_spelled_endTag (text : List Char) :
    Gives Spelled (fun _ source => EndTagSource source) (endTagToken text).1 := by
  cases read : endTagName? text with
  | none =>
      rw [endTagToken, read]
      trivial
  | some name =>
      obtain ⟨blanks, rest, shape, text_eq⟩ := endTagName?_sound read
      rw [text_eq, endTagToken_exact shape]
      exact ⟨name, blanks, shape, rfl⟩

theorem gives_spelled_comment (text : List Char) :
    Gives Spelled (fun _ source => EndTagSource source) (commentToken text).1 := by
  cases cut : Text.cut? "-->".toList text with
  | none =>
      rw [commentToken, cut]
      trivial
  | some found =>
      have read : commentToken text = (.comment found.1, found.2) := by rw [commentToken, cut]
      rw [read]
      exact ⟨text, found.2, read⟩

theorem gives_spelled_declaration
    {mark : Char} {text : List Char} (marks : mark = '!' ∨ mark = '?')
    (noComment : ∀ inner, mark :: text ≠ '!' :: '-' :: '-' :: inner) :
    Gives Spelled (fun _ source => EndTagSource source)
      (declarationToken ('<' :: mark :: text)).1 := by
  cases cut : Text.cut? ['>'] ('<' :: mark :: text) with
  | none =>
      rw [declarationToken, cut]
      trivial
  | some found =>
      have read : declarationToken ('<' :: mark :: text) =
          (.declaration (found.1 ++ ['>']), found.2) := by
        rw [declarationToken, cut]
      rw [read]
      exact ⟨mark, text, found.2, marks, noComment, read⟩

theorem gives_spelled_startTag
    {tag : StartTag} {selfClosing : Bool}
    (cooked : (!selfClosing && Vocabulary.isRawText tag.name) = false) :
    Gives Spelled (fun _ source => EndTagSource source) (.startTag tag selfClosing) := by
  cases selfClosing with
  | true => exact ⟨by simp, fun _ => .inl rfl⟩
  | false =>
      have noRaw : Vocabulary.isRawText tag.name = false := cooked
      simp only [Gives, Bool.false_eq_true, if_false]
      split
      · exact ⟨by simp, fun raw => absurd raw (by simp [noRaw])⟩
      · rintro children _ (_ | ⟨_, ended⟩)
        · exact ⟨by simp, fun raw => absurd raw (by simp [noRaw])⟩
        · refine ⟨?_, fun raw => absurd raw (by simp [noRaw])⟩
          rintro _ ⟨⟩
          exact ended

theorem gives_spelled_rawElement (tag : StartTag) (text : List Char) :
    Gives Spelled (fun _ source => EndTagSource source) (rawElement tag text).1 := by
  have clear := rawBody_clear tag.name text
  rcases rawBody_stops tag.name text with ended | closed
  · have cut : rawBody tag.name text = ((rawBody tag.name text).1, []) := Prod.ext rfl ended
    rw [ended] at clear
    rw [rawElement_unclosed cut]
    exact ⟨by simp, fun _ => .inr (.unclosed clear)⟩
  · obtain ⟨name, name_read, same⟩ := (Option.any_eq_true _ _).1 closed
    obtain ⟨blanks, behind, shape, tail_eq⟩ := endTagName?_sound name_read
    have cut : rawBody tag.name text =
        ((rawBody tag.name text).1, endTagText name blanks ++ '>' :: behind) :=
      Prod.ext rfl tail_eq
    rw [tail_eq] at clear
    rw [rawElement_closed shape cut]
    refine ⟨?_, fun _ => .inr (.closed shape same clear)⟩
    rintro _ ⟨⟩
    exact ⟨name, blanks, shape, rfl⟩

theorem gives_spelled {text : List Char} {found : Token} (member : found ∈ scan text) :
    Gives Spelled (fun _ source => EndTagSource source) found := by
  fun_induction scan text with
  | case1 => contradiction
  | case2 c text ih =>
      rcases List.mem_cons.1 member with rfl | member
      · cases token_kind c text with
        | plain _ token_eq =>
            rw [token_eq]
            trivial
        | endTag _ token_eq =>
            rw [token_eq]
            exact gives_spelled_endTag _
        | comment _ token_eq =>
            rw [token_eq]
            exact gives_spelled_comment _
        | declaration _ _ marks noComment token_eq =>
            rw [token_eq]
            exact gives_spelled_declaration marks noComment
        | element _ _ _ token_eq =>
            rw [token_eq]
            cases read : elementToken _ with
            | mk found rest =>
                rcases elementToken_kind read with
                  ⟨rfl, _⟩ | ⟨tag, selfClosing, rfl, cooked⟩ | ⟨tag, following, _, raw⟩
                · trivial
                · exact gives_spelled_startTag cooked
                · have spelled := gives_spelled_rawElement tag following
                  rw [raw] at spelled
                  exact spelled
      · exact ih member

/-- Every node of a tree is spelled as the scanner reads it. -/
theorem spelled_parse (text : List Char) : Holds Spelled (parse text) :=
  holds_parse (fun _ => trivial) fun _ member => gives_spelled member

end Markup
end MarkupTemplate
