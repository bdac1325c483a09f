import MarkupTemplate.Markup.Tree
import MarkupTemplate.Proofs.Text.Cutting

/-!
The kinds of tokens, and where one token ends and the next begins: behind a `>` or in front of a
`<`, so that nothing without these two stands across the border.
-/

namespace MarkupTemplate
namespace Markup

theorem opens_cons_cons {c d : Char} {text : List Char} (opening : opens (c :: d :: text) = true) :
    c = '<' ∧ (d.isAlpha = true ∨ d = '/' ∨ d = '!' ∨ d = '?') := by
  unfold opens at opening
  split at opening
  · next d' _ text_eq =>
      cases text_eq
      simpa [or_assoc] using opening
  · contradiction

theorem token_plain {c : Char} {text : List Char} (plain : ¬opens (c :: text) = true) :
    token c text = (.text (c :: (plainRun text).1), (plainRun text).2) := by
  unfold token
  rw [if_neg plain]

inductive TokenKind : Char → List Char → Prop
  | plain {c : Char} {text : List Char} (closed : ¬opens (c :: text) = true)
      (token_eq : token c text = (.text (c :: (plainRun text).1), (plainRun text).2)) :
      TokenKind c text
  | endTag (rest : List Char)
      (token_eq : token '<' ('/' :: rest) = endTagToken ('<' :: '/' :: rest)) :
      TokenKind '<' ('/' :: rest)
  | comment (rest : List Char)
      (token_eq : token '<' ('!' :: '-' :: '-' :: rest) = commentToken rest) :
      TokenKind '<' ('!' :: '-' :: '-' :: rest)
  | declaration (mark : Char) (rest : List Char) (marks : mark = '!' ∨ mark = '?')
      (noComment : ∀ inner, mark :: rest ≠ '!' :: '-' :: '-' :: inner)
      (token_eq : token '<' (mark :: rest) = declarationToken ('<' :: mark :: rest)) :
      TokenKind '<' (mark :: rest)
  | element (letter : Char) (rest : List Char) (alpha : letter.isAlpha = true)
      (token_eq : token '<' (letter :: rest) = elementToken (letter :: rest)) :
      TokenKind '<' (letter :: rest)

theorem token_kind (c : Char) (text : List Char) : TokenKind c text := by
  by_cases opening : opens (c :: text) = true
  · cases text with
    | nil => simp [opens] at opening
    | cons d text =>
        obtain ⟨rfl, second⟩ := opens_cons_cons opening
        have token_eq : token '<' (d :: text) = token '<' (d :: text) := rfl
        conv at token_eq =>
          rhs
          unfold token
        rw [if_pos opening] at token_eq
        split at token_eq
        · next rest text_eq =>
            cases text_eq
            exact .endTag _ token_eq
        · next rest text_eq =>
            cases text_eq
            exact .comment _ token_eq
        · next rest noComment text_eq =>
            cases text_eq
            refine .declaration _ _ (.inl rfl) ?_ token_eq
            rintro inner ⟨⟩
            exact noComment inner rfl
        · next rest text_eq =>
            cases text_eq
            exact .declaration _ _ (.inr rfl) (by simp) token_eq
        · next noEnd _ noMark noQuestion =>
            refine .element _ _ ?_ token_eq
            rcases second with letter | rfl | rfl | rfl
            · exact letter
            · exact (noEnd text rfl).elim
            · exact (noMark text rfl).elim
            · exact (noQuestion text rfl).elim
  · exact .plain opening (token_plain opening)

theorem token_letter {letter : Char} (alpha : letter.isAlpha = true) (text : List Char) :
    token '<' (letter :: text) = elementToken (letter :: text) := by
  cases token_kind '<' (letter :: text) with
  | plain closed => simp [opens, alpha] at closed
  | endTag => contradiction
  | comment => contradiction
  | declaration _ _ marks => rcases marks with rfl | rfl <;> contradiction
  | element _ _ _ token_eq => exact token_eq

theorem token_declaration {mark : Char} {rest : List Char} (marks : mark = '!' ∨ mark = '?')
    (noComment : ∀ inner, mark :: rest ≠ '!' :: '-' :: '-' :: inner) :
    token '<' (mark :: rest) = declarationToken ('<' :: mark :: rest) := by
  cases token_kind '<' (mark :: rest) with
  | plain closed => rcases marks with rfl | rfl <;> simp [opens] at closed
  | endTag => simp at marks
  | comment inner => exact absurd rfl (noComment inner)
  | declaration _ _ _ _ token_eq => exact token_eq
  | element _ _ alpha => rcases marks with rfl | rfl <;> contradiction

/-- Texts at whose border nothing but a `<` or a `>` can stand across it. -/
def Apart (left right : List Char) : Prop :=
  right = [] ∨ right.head? = some '<' ∨ ∃ before, left = before ++ ['>']

theorem Apart.append_left {left right : List Char} (apart : Apart left right)
    (before : List Char) :
    Apart (before ++ left) right := by
  rcases apart with ended | starts | ⟨inner, left_eq⟩
  · exact .inl ended
  · exact .inr (.inl starts)
  · exact .inr (.inr ⟨before ++ inner, by simp [left_eq]⟩)

theorem apart_through (text : List Char) :
    Apart (Text.through '>' text).1 (Text.through '>' text).2 :=
  (Text.through_end '>' text).imp_right .inr

theorem plainRun_stops (text : List Char) :
    (plainRun text).2 = [] ∨ opens (plainRun text).2 = true := by
  induction text with
  | nil => exact .inl rfl
  | cons c text ih =>
      simp only [plainRun]
      split
      · next opening => exact .inr opening
      · exact ih

theorem head_of_opens {text : List Char} (opening : opens text = true) :
    text.head? = some '<' := by
  unfold opens at opening
  split at opening
  · rfl
  · contradiction

theorem apart_plainRun (left text : List Char) : Apart left (plainRun text).2 := by
  rcases plainRun_stops text with ended | opening
  · exact .inl ended
  · exact .inr (.inl (head_of_opens opening))

theorem apart_endTagToken (text : List Char) :
    Apart (endTagToken text).1.source (endTagToken text).2 := by
  unfold endTagToken
  split <;> exact apart_through text

theorem apart_commentToken (text : List Char) :
    Apart (commentToken text).1.source (commentToken text).2 := by
  unfold commentToken
  split
  · next body rest _ =>
      exact .inr (.inr ⟨"<!--".toList ++ body ++ ['-', '-'], by
        simp [Token.source, Node.commentSource]⟩)
  · exact .inl rfl

theorem apart_declarationToken (text : List Char) :
    Apart (declarationToken text).1.source (declarationToken text).2 := by
  unfold declarationToken
  split
  · next body rest _ => exact .inr (.inr ⟨body, rfl⟩)
  · exact .inl rfl

theorem apart_rawElement (tag : StartTag) (text : List Char) :
    Apart (rawElement tag text).1.source (rawElement tag text).2 := by
  unfold rawElement
  split
  · exact .inl rfl
  · next c rest _ => exact (apart_through (c :: rest)).append_left _

theorem apart_tagEnd (selfClosing : Bool) (right : List Char) :
    Apart (Token.tagEnd selfClosing) right := by
  cases selfClosing
  · exact .inr (.inr ⟨[], rfl⟩)
  · exact .inr (.inr ⟨['/'], rfl⟩)

theorem apart_elementToken (text : List Char) :
    Apart (elementToken text).1.source (elementToken text).2 := by
  simp only [elementToken]
  split
  · exact .inl rfl
  · next found _ =>
      split
      · exact apart_rawElement _ _
      · exact (apart_tagEnd found.selfClosing found.rest).append_left _

theorem apart_token (c : Char) (text : List Char) :
    Apart (token c text).1.source (token c text).2 := by
  cases token_kind c text with
  | plain _ token_eq =>
      rw [token_eq]
      exact apart_plainRun _ _
  | endTag _ token_eq =>
      rw [token_eq]
      exact apart_endTagToken _
  | comment _ token_eq =>
      rw [token_eq]
      exact apart_commentToken _
  | declaration _ _ _ _ token_eq =>
      rw [token_eq]
      exact apart_declarationToken _
  | element _ _ _ token_eq =>
      rw [token_eq]
      exact apart_elementToken _

def Chained : List Token → Prop
  | [] => True
  | found :: tokens => Apart found.source (sources tokens) ∧ Chained tokens

theorem chained_scan (text : List Char) : Chained (scan text) := by
  fun_induction scan text with
  | case1 => trivial
  | case2 c text ih =>
      refine ⟨?_, ih⟩
      rw [sources, scan_sources]
      exact apart_token c text

end Markup
end MarkupTemplate
