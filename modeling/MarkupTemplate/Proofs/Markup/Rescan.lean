import MarkupTemplate.Proofs.Markup.EndTag
import MarkupTemplate.Proofs.Markup.StartTag

/-!
Scanning a text whose pieces of text have changed. A token that ends in a `>` is read again whatever
follows it. Outside of tokens, a character adds to the markup only if it opens a token, and a text
without `>` completes none.
-/

namespace MarkupTemplate
namespace Markup

def shapes (names : List (List Char)) (text : List Char) : List Token :=
  (parts names (scan text)).filterMap Part.shape?

theorem scan_of_token {c : Char} {text rest : List Char} {found : Token}
    (read : token c text = (found, rest)) :
    scan (c :: text) = found :: scan rest := by
  rw [scan, read]

theorem shapes_nil (names : List (List Char)) : shapes names [] = [] := by
  simp [shapes, scan, parts]

theorem shapes_text {c : Char} {text body rest : List Char}
    (read : token c text = (.text body, rest)) (names : List (List Char)) :
    shapes names (c :: text) = shapes names rest := by
  rw [shapes, scan_of_token read, parts, List.filterMap_cons]
  rfl

theorem shapes_unfinished {c : Char} {text body rest : List Char}
    (read : token c text = (.unfinished body, rest)) (names : List (List Char)) :
    shapes names (c :: text) = shapes names rest := by
  rw [shapes, scan_of_token read, parts, List.filterMap_cons]
  rfl

theorem shapes_plainRun (names : List (List Char)) (text : List Char) :
    shapes names (plainRun text).2 = shapes names text := by
  cases text with
  | nil => rfl
  | cons c text =>
      by_cases opening : opens (c :: text) = true
      · rw [plainRun, if_pos opening]
      · rw [plainRun, if_neg opening, shapes_text (token_plain opening)]

/-- A character that opens nothing makes no difference. -/
theorem shapes_plain {c : Char} {text : List Char} (plain : ¬opens (c :: text) = true)
    (names : List (List Char)) :
    shapes names (c :: text) = shapes names text := by
  rw [shapes_text (token_plain plain), shapes_plainRun]

theorem not_opens {c : Char} (other : c ≠ '<') (text : List Char) : ¬opens (c :: text) = true := by
  intro opening
  exact other (Option.some.inj (head_of_opens opening))

theorem shapes_append_plain {before : List Char} (plain : '<' ∉ before)
    (names : List (List Char)) (text : List Char) :
    shapes names (before ++ text) = shapes names text := by
  induction before with
  | nil => rfl
  | cons c before ih =>
      simp only [List.mem_cons, not_or] at plain
      rw [List.cons_append, shapes_plain (not_opens (Ne.symm plain.1) _), ih plain.2]

def Token.isText : Token → Bool
  | .text _ => true
  | .unfinished _ => true
  | _ => false

theorem elementToken_closes (text : List Char) :
    (elementToken text).1.isText = true ∨ '>' ∈ (elementToken text).1.source := by
  simp only [elementToken]
  split
  · exact .inl rfl
  · next found _ =>
      split
      · right
        unfold rawElement
        split <;> simp [Token.source]
      · right
        cases closing : found.selfClosing <;> simp [Token.source, Token.tagEnd]

theorem endTagToken_closes (text : List Char) :
    (endTagToken text).1.isText = true ∨ '>' ∈ (endTagToken text).1.source := by
  cases read : endTagName? text with
  | none =>
      left
      simp [endTagToken, read, Token.isText]
  | some name =>
      right
      obtain ⟨blanks, rest, shape, text_eq⟩ := endTagName?_sound read
      rw [text_eq, endTagToken_exact shape]
      simp [Token.source]

theorem token_closes (c : Char) (text : List Char) :
    (token c text).1.isText = true ∨ '>' ∈ (token c text).1.source := by
  cases token_kind c text with
  | plain _ token_eq =>
      rw [token_eq]
      exact .inl rfl
  | endTag _ token_eq =>
      rw [token_eq]
      exact endTagToken_closes _
  | comment _ token_eq =>
      rw [token_eq, commentToken]
      split
      · simp [Token.source, Node.commentSource]
      · exact .inl rfl
  | declaration _ _ _ _ token_eq =>
      rw [token_eq, declarationToken]
      split
      · simp [Token.source]
      · exact .inl rfl
  | element _ _ _ token_eq =>
      rw [token_eq]
      exact elementToken_closes _

/-- A text without `>` is text, whatever else it holds. -/
theorem shapes_of_no_close {text : List Char} (open_ended : '>' ∉ text)
    (names : List (List Char)) :
    shapes names text = [] := by
  fun_induction scan text with
  | case1 => exact shapes_nil names
  | case2 c text ih =>
      rw [← token_append c text, List.mem_append, not_or] at open_ended
      have isText := (token_closes c text).resolve_right open_ended.1
      have rest_shapes := ih open_ended.2
      cases read : token c text with
      | mk found rest =>
          rw [read] at isText rest_shapes
          cases found with
          | text body => rw [shapes_text read, rest_shapes]
          | unfinished body => rw [shapes_unfinished read, rest_shapes]
          | _ => contradiction

theorem scan_comment_again {text body rest : List Char}
    (read : commentToken text = (.comment body, rest)) (other : List Char) :
    scan (Node.commentSource body ++ other) = .comment body :: scan other := by
  unfold commentToken at read
  split at read
  · next found =>
      cases read
      have text_eq : Node.commentSource body ++ other =
          '<' :: '!' :: '-' :: '-' :: (body ++ "-->".toList ++ other) := by
        simp [Node.commentSource]
      have again : commentToken (body ++ "-->".toList ++ other) = (.comment body, other) := by
        rw [commentToken, Text.cut?_again found]
      rw [text_eq]
      exact scan_of_token again
  · cases read

theorem scan_declaration_again
    {mark : Char} {rest source after : List Char} (marks : mark = '!' ∨ mark = '?')
    (noComment : ∀ inner, mark :: rest ≠ '!' :: '-' :: '-' :: inner)
    (read : declarationToken ('<' :: mark :: rest) = (.declaration source, after))
    (other : List Char) :
    scan (source ++ other) = .declaration source :: scan other := by
  unfold declarationToken at read
  split at read
  · next body following found =>
      cases read
      have absent := Text.not_mem_of_cut? found
      have text_eq := Text.append_of_cut? found
      obtain ⟨inner, rfl⟩ : ∃ inner, body = '<' :: mark :: inner := by
        rcases body with _ | ⟨c, _ | ⟨d, inner⟩⟩
        · simp at text_eq
        · rcases marks with rfl | rfl <;> simp at text_eq
        · simp only [List.cons_append, List.cons.injEq] at text_eq
          exact ⟨inner, by rw [← text_eq.1, ← text_eq.2.1]⟩
      simp only [List.cons_append, List.cons.injEq, true_and] at text_eq
      have still : ∀ first, mark :: (inner ++ '>' :: other) ≠ '!' :: '-' :: '-' :: first := by
        intro first opens_comment
        rcases inner with _ | ⟨c, _ | ⟨d, inner⟩⟩
        · simp at opens_comment
        · simp at opens_comment
        · simp only [List.cons_append, List.cons.injEq] at opens_comment
          apply noComment (inner ++ ['>'] ++ after)
          rw [text_eq, opens_comment.1, opens_comment.2.1, opens_comment.2.2.1]
          simp
      have again : token '<' (mark :: (inner ++ '>' :: other)) =
          (.declaration ('<' :: mark :: inner ++ ['>']), other) := by
        rw [token_declaration marks still, declarationToken]
        have inner_eq : '<' :: mark :: (inner ++ '>' :: other) =
            '<' :: mark :: inner ++ '>' :: other := rfl
        rw [inner_eq, Text.cut?_mark absent]
      have source_eq : '<' :: mark :: inner ++ ['>'] ++ other =
          '<' :: mark :: (inner ++ '>' :: other) := by
        simp
      rw [source_eq]
      exact scan_of_token again
  · cases read

theorem scan_endTag_again {name blanks : List Char} (shape : EndTagShape name blanks)
    (other : List Char) :
    scan (endTagText name blanks ++ '>' :: other) =
      .endTag name (endTagText name blanks ++ ['>']) :: scan other :=
  scan_of_token (endTagToken_exact shape other)

/-- A tag without its end, a start tag, or a raw text element. -/
theorem elementToken_kind {text rest : List Char} {found : Token}
    (read : elementToken text = (found, rest)) :
    (found = .unfinished ('<' :: text) ∧ rest = []) ∨
    (∃ tag selfClosing, found = .startTag tag selfClosing ∧
      (!selfClosing && Vocabulary.isRawText tag.name) = false) ∨
    ∃ tag following, Vocabulary.isRawText tag.name = true ∧
      rawElement tag following = (found, rest) := by
  simp only [elementToken] at read
  split at read
  · cases read
    exact .inl ⟨rfl, rfl⟩
  · split at read
    · next raw =>
        simp only [Bool.and_eq_true] at raw
        exact .inr (.inr ⟨_, _, raw.2, read⟩)
    · next plain =>
        cases read
        exact .inr (.inl ⟨_, _, rfl, Bool.eq_false_iff.2 plain⟩)

theorem token_of_source {tag : StartTag} {selfClosing : Bool}
    (shaped : tag.Shaped) (apart : tag.separated (Token.tagEnd selfClosing) = true)
    (more : List Char) :
    ∃ text, tag.source ++ (Token.tagEnd selfClosing ++ more) = '<' :: text ∧
      token '<' text =
        if !selfClosing && Vocabulary.isRawText tag.name then rawElement tag more
        else (.startTag tag selfClosing, more) := by
  obtain ⟨first, name, name_eq, alpha⟩ := shaped.name_start
  have read := elementToken_exact shaped apart more
  rw [name_eq, List.cons_append] at read
  refine ⟨first :: (name ++ tag.rest (Token.tagEnd selfClosing ++ more)), ?_, ?_⟩
  · rw [source_eq_rest, name_eq]
    rfl
  · rw [token_letter alpha, read, name_eq]

end Markup
end MarkupTemplate
