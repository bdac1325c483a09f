import MarkupTemplate.Compiler
import MarkupTemplate.Proofs.Markup.NodeSpelling

/-!
Texts whose start tags carry no directive. Where the text of a template is put in front of such a
text with its markers replaced, no start tag comes about, unless a `<` in it meets a marker or the
text behind it.
-/

namespace MarkupTemplate

open Markup

namespace Compiler

def undirectedTag (compiler : Compiler) (tag : StartTag) : Bool :=
  tag.attrs.all fun attr => !compiler.isDirective attr

/-- Whether no start tag in a text carries a directive, wherever elements nest. -/
def undirected (compiler : Compiler) (text : List Char) : Bool :=
  (scan text).all fun found => found.tag?.all fun (tag, _) => compiler.undirectedTag tag

theorem undirected_nil (compiler : Compiler) : compiler.undirected [] = true := by
  simp [undirected, scan]

theorem undirected_of_scan
    {text rest : List Char} {found : Token} (scan_eq : scan text = found :: scan rest)
    (compiler : Compiler) :
    compiler.undirected text =
      (found.tag?.all (fun (tag, _) => compiler.undirectedTag tag) &&
        compiler.undirected rest) := by
  rw [undirected, scan_eq, List.all_cons]
  rfl

theorem undirected_of_text
    {c : Char} {text body rest : List Char} (read : token c text = (.text body, rest))
    (compiler : Compiler) :
    compiler.undirected (c :: text) = compiler.undirected rest :=
  undirected_of_scan (scan_of_token read) compiler

theorem undirected_plainRun (compiler : Compiler) (text : List Char) :
    compiler.undirected (plainRun text).2 = compiler.undirected text := by
  cases text with
  | nil => rfl
  | cons c text =>
      by_cases opening : opens (c :: text) = true
      · rw [plainRun, if_pos opening]
      · rw [plainRun, if_neg opening, undirected_of_text (token_plain opening)]

theorem undirected_plain
    {c : Char} {text : List Char} (plain : ¬opens (c :: text) = true) (compiler : Compiler) :
    compiler.undirected (c :: text) = compiler.undirected text := by
  rw [undirected_of_text (token_plain plain), undirected_plainRun]

theorem undirected_append_plain
    {before : List Char} (plain : '<' ∉ before) (compiler : Compiler) (text : List Char) :
    compiler.undirected (before ++ text) = compiler.undirected text := by
  induction before with
  | nil => rfl
  | cons c before ih =>
      simp only [List.mem_cons, not_or] at plain
      rw [List.cons_append, undirected_plain (not_opens (Ne.symm plain.1) _), ih plain.2]

/-- From `</` to the next `>`, there is an end tag or text. -/
theorem undirected_closed
    {inner : List Char} (absent : '>' ∉ inner) (compiler : Compiler) (following : List Char) :
    compiler.undirected ('<' :: '/' :: inner ++ '>' :: following) =
      compiler.undirected following := by
  have front_absent : '>' ∉ '<' :: '/' :: inner := by simp [absent]
  have token_eq : token '<' ('/' :: inner ++ '>' :: following) =
      endTagToken ('<' :: '/' :: inner ++ '>' :: following) := rfl
  rw [endTagToken, Text.through_exact front_absent following] at token_eq
  cases read : endTagName? ('<' :: '/' :: inner ++ '>' :: following) with
  | none =>
      rw [read] at token_eq
      exact undirected_of_text token_eq compiler
  | some name =>
      rw [read] at token_eq
      exact undirected_of_scan (scan_of_token token_eq) compiler

def opensNoMarker : List Piece → Bool
  | [] => true
  | .literal c :: pieces =>
      (c != '<' || !pieces.head?.any Piece.isMarker) && opensNoMarker pieces
  | .marker _ :: pieces => opensNoMarker pieces

def settledToken : Token → Bool
  | .text body =>
      if opens body then body.getLast? == some '>' else opensNoMarker (Piece.split body)
  | .endTag _ _ => true
  | _ => false

/-- Whether a text adds no start tag to what follows it when its markers are replaced, but for a `<`
at its end. -/
def settledText (text : List Char) : Bool :=
  (scan text).all settledToken

def staysText (text : List Char) : Bool :=
  !exposed (textParts text) && (shapes [] text).isEmpty

section Written

variable (compiler : Compiler) (scope : Scope)

theorem getLast?_of_append
    {before text : List Char} {border : Prop}
    (ends : (before ++ text).getLast? = some '<' → border) :
    text.getLast? = some '<' → border := by
  intro last
  apply ends
  rw [List.getLast?_append, last]
  rfl

/-- A `<` in a plain text opens nothing if neither a marker nor what follows the text stands behind
it. -/
theorem plain_written
    {c : Char} {pieces : List Piece} {rest following : List Char}
    (plain : opens (c :: (Piece.sources pieces ++ rest)) = false)
    (unmarked : opensNoMarker (.literal c :: pieces) = true)
    (border : (c :: Piece.sources pieces).getLast? = some '<' →
      opens ('<' :: following) = false) :
    ¬opens (c :: (Piece.written scope pieces ++ following)) = true := by
  by_cases starts : c = '<'
  · subst starts
    cases pieces with
    | nil => exact Bool.eq_false_iff.1 (border rfl)
    | cons piece pieces =>
        cases piece with
        | marker marker => simp [opensNoMarker, Piece.isMarker] at unmarked
        | literal d =>
            rw [Piece.sources_literal, List.cons_append, opens_of_second] at plain
            exact Bool.eq_false_iff.1 plain
  · exact not_opens starts _

theorem undirected_written_plain
    {pieces : List Piece} {rest following : List Char}
    (clear : Clear opens rest (Piece.sources pieces)) (unmarked : opensNoMarker pieces = true)
    (border : (Piece.sources pieces).getLast? = some '<' → opens ('<' :: following) = false) :
    compiler.undirected (Piece.written scope pieces ++ following) =
      compiler.undirected following := by
  induction pieces with
  | nil => rfl
  | cons piece pieces ih =>
      cases piece with
      | marker marker =>
          rw [Piece.sources_marker] at clear border
          rw [Piece.written_marker, List.append_assoc,
            undirected_append_plain (Piece.shown_no_delimiter scope (by decide) marker)]
          exact ih clear.of_append unmarked (getLast?_of_append border)
      | literal c =>
          rw [Piece.sources_literal] at clear border
          have plain := plain_written scope clear.1 unmarked border
          simp only [opensNoMarker, Bool.and_eq_true] at unmarked
          have border_rest : ([c] ++ Piece.sources pieces).getLast? = some '<' →
              opens ('<' :: following) = false := border
          rw [Piece.written_literal, List.cons_append, undirected_plain plain]
          exact ih clear.2 unmarked.2 (getLast?_of_append border_rest)

theorem undirected_written_closed
    {inner : List Char} (absent : '>' ∉ inner) (following : List Char) :
    compiler.undirected (interpolate .escaped scope ('<' :: '/' :: inner ++ ['>']) ++ following) =
      compiler.undirected following := by
  obtain ⟨pieces, _, written_open, written_eq⟩ := interpolate_closed scope absent
  rw [written_eq, List.append_assoc, List.singleton_append,
    undirected_closed written_open compiler following]

/-- What the scanner reads from `</` on as a text or an end tag with a `>` at its end. -/
theorem closed_of_endTagToken
    {text : List Char} (settled : settledToken (endTagToken ('<' :: '/' :: text)).1 = true) :
    ∃ inner, '>' ∉ inner ∧
      (endTagToken ('<' :: '/' :: text)).1.source = '<' :: '/' :: inner ++ ['>'] := by
  rcases Text.through_cases '>' text with absent | ⟨inner, after, absent, rfl⟩
  · exfalso
    have open_ended : '>' ∉ '<' :: '/' :: text := by simp [absent]
    cases read : endTagName? ('<' :: '/' :: text) with
    | none =>
        rw [endTagToken, read, Text.through_absent open_ended] at settled
        have opening : opens ('<' :: '/' :: text) = true := rfl
        simp only [settledToken, opening, if_true, beq_iff_eq] at settled
        exact open_ended (List.mem_of_getLast? settled)
    | some name =>
        obtain ⟨blanks, rest, _, text_eq⟩ := endTagName?_sound read
        rw [text_eq] at open_ended
        simp at open_ended
  · have front : '>' ∉ '<' :: '/' :: inner := by simp [absent]
    have through_eq := Text.through_exact front after
    refine ⟨inner, absent, ?_⟩
    unfold endTagToken
    split <;> exact congrArg Prod.fst through_eq

theorem opens_append_false {left right : List Char} (plain : opens (left ++ right) = false) :
    opens left = false := by
  match left with
  | [] => rfl
  | [_] => simp [opens]
  | c :: d :: left =>
      rw [List.cons_append, List.cons_append, opens_of_second] at plain
      exact plain

theorem undirected_settled_plain
    {c : Char} {text following : List Char} (closed : ¬opens (c :: text) = true)
    (settled : settledToken (.text (c :: (plainRun text).1)) = true)
    (border : (c :: (plainRun text).1).getLast? = some '<' → opens ('<' :: following) = false) :
    compiler.undirected (interpolate .escaped scope (c :: (plainRun text).1) ++ following) =
      compiler.undirected following := by
  have plain : opens (c :: (plainRun text).1 ++ (plainRun text).2) = false := by
    rw [List.cons_append, plainRun_append]
    exact Bool.eq_false_iff.2 closed
  have clear : Clear opens (plainRun text).2 (c :: (plainRun text).1) :=
    ⟨plain, plainRun_clear text⟩
  have sources_eq : Piece.sources (Piece.split (c :: (plainRun text).1)) = c :: (plainRun text).1 :=
    Piece.split_sources _
  rw [settledToken, opens_append_false plain, if_neg Bool.false_ne_true] at settled
  rw [← sources_eq] at clear border
  exact undirected_written_plain compiler scope clear settled border

theorem not_settled_comment (text : List Char) : settledToken (commentToken text).1 = false := by
  unfold commentToken
  split <;> rfl

theorem not_settled_declaration {mark : Char} (marks : mark = '!' ∨ mark = '?')
    (text : List Char) :
    settledToken (declarationToken ('<' :: mark :: text)).1 = false := by
  cases cut : Text.cut? ['>'] ('<' :: mark :: text) with
  | none =>
      have absent := Text.not_mem_of_cut?_none cut
      have opening : opens ('<' :: mark :: text) = true := by
        rcases marks with rfl | rfl <;> rfl
      rw [declarationToken, cut]
      simp only [settledToken, opening, if_true, beq_eq_false_iff_ne]
      exact fun last => absent (List.mem_of_getLast? last)
  | some found =>
      rw [declarationToken, cut]
      rfl

theorem not_settled_element (text : List Char) : settledToken (elementToken text).1 = false := by
  cases read : elementToken text with
  | mk found rest =>
      rcases elementToken_kind read with
        ⟨rfl, _⟩ | ⟨tag, selfClosing, rfl, _⟩ | ⟨tag, more, _, raw⟩
      · rfl
      · rfl
      · unfold rawElement at raw
        split at raw <;> cases raw <;> rfl

/-- A settled text adds no start tag. -/
theorem undirected_settled
    {text following : List Char} (settled : settledText text = true)
    (border : text.getLast? = some '<' → opens ('<' :: following) = false) :
    compiler.undirected (interpolate .escaped scope text ++ following) =
      compiler.undirected following := by
  fun_induction scan text with
  | case1 => simp [interpolate, Piece.split]
  | case2 c text ih =>
      have text_eq := token_append c text
      rw [settledText, scan, List.all_cons, Bool.and_eq_true] at settled
      rw [← text_eq] at border
      have rest_eq := ih settled.2 (getLast?_of_append border)
      rw [← text_eq, (splits_interpolate scope).append _ _ (apart_token c text), List.append_assoc,
        ← rest_eq]
      cases token_kind c text with
      | plain closed token_eq =>
          rw [token_eq] at settled border ⊢
          apply undirected_settled_plain compiler scope closed settled.1
          intro last
          -- a `<` at the end of the run meets `following` only where the text ends with the run
          rcases plainRun_stops text with ended | opening
          · rw [ended] at border ⊢
            rw [(splits_interpolate scope).nil]
            exact border (by rw [List.append_nil]; exact last)
          · apply border_not_opens
            right
            rw [List.head?_append, interpolate_head scope (head_of_opens opening)]
            rfl
      | endTag rest token_eq =>
          rw [token_eq] at settled ⊢
          obtain ⟨inner, absent, source_eq⟩ := closed_of_endTagToken settled.1
          rw [source_eq]
          exact undirected_written_closed compiler scope absent _
      | comment rest token_eq =>
          rw [token_eq, not_settled_comment] at settled
          exact absurd settled.1 (by simp)
      | declaration mark rest marks noComment token_eq =>
          rw [token_eq, not_settled_declaration marks] at settled
          exact absurd settled.1 (by simp)
      | element letter rest alpha token_eq =>
          rw [token_eq, not_settled_element] at settled
          exact absurd settled.1 (by simp)

end Written

section Markup

variable (compiler : Compiler)

/-- Without markup there is no start tag. -/
theorem undirected_of_no_shapes {text : List Char} (empty : shapes [] text = []) :
    compiler.undirected text = true := by
  rw [shapes] at empty
  rw [undirected]
  generalize scan text = tokens at empty ⊢
  induction tokens with
  | nil => rfl
  | cons found tokens ih =>
      cases found with
      | text body => exact ih empty
      | unfinished body => exact ih empty
      | endTag name source => exact ih empty
      | _ => contradiction

/-- A text that stays text when its markers are replaced, if nothing follows it. -/
theorem undirected_stays
    {text : List Char} (stays : staysText text = true) (scope : Scope) :
    compiler.undirected (interpolate .escaped scope text) = true := by
  rw [staysText, Bool.and_eq_true, Bool.not_eq_true', List.isEmpty_iff] at stays
  obtain ⟨hidden, empty⟩ := stays
  apply undirected_of_no_shapes
  rw [← written_of_no_shapes scope empty]
  exact (keeps_markup scope text [] hidden).trans empty

theorem undirected_comment
    {text body rest : List Char} (read : commentToken text = (.comment body, rest))
    (following : List Char) :
    compiler.undirected (Node.commentSource body ++ following) = compiler.undirected following :=
  undirected_of_scan (scan_comment_again read following) compiler

theorem undirected_declaration
    {mark : Char} {text source rest : List Char} (marks : mark = '!' ∨ mark = '?')
    (noComment : ∀ inner, mark :: text ≠ '!' :: '-' :: '-' :: inner)
    (read : declarationToken ('<' :: mark :: text) = (.declaration source, rest))
    (following : List Char) :
    compiler.undirected (source ++ following) = compiler.undirected following :=
  undirected_of_scan (scan_declaration_again marks noComment read following) compiler

theorem undirected_endTag {source : List Char} (ended : EndTagSource source)
    (following : List Char) :
    compiler.undirected (source ++ following) = compiler.undirected following := by
  obtain ⟨name, blanks, shape, rfl⟩ := ended
  rw [List.append_assoc, List.singleton_append]
  exact undirected_of_scan (scan_endTag_again shape following) compiler

theorem undirected_startTag
    {tag : StartTag} {selfClosing : Bool}
    (shaped : tag.Shaped) (apart : tag.separated (Token.tagEnd selfClosing) = true)
    (cooked : (!selfClosing && Vocabulary.isRawText tag.name) = false) (following : List Char) :
    compiler.undirected (tag.source ++ (Token.tagEnd selfClosing ++ following)) =
      (compiler.undirectedTag tag && compiler.undirected following) := by
  obtain ⟨text, text_eq, token_eq⟩ := token_of_source shaped apart following
  rw [cooked, if_neg Bool.false_ne_true] at token_eq
  rw [text_eq]
  exact undirected_of_scan (scan_of_token token_eq) compiler

theorem undirected_rawClosed
    {tag : StartTag} {body name blanks following : List Char}
    (shaped : tag.Shaped) (apart : tag.separated (Token.tagEnd false) = true)
    (raw : Vocabulary.isRawText tag.name = true) (shape : EndTagShape name blanks)
    (cut : rawBody tag.name (body ++ (endTagText name blanks ++ '>' :: following)) =
      (body, endTagText name blanks ++ '>' :: following)) :
    compiler.undirected (tag.source ++ '>' :: (body ++ (endTagText name blanks ++
        '>' :: following))) =
      (compiler.undirectedTag tag && compiler.undirected following) := by
  obtain ⟨text, text_eq, token_eq⟩ := token_of_rawTag shaped apart raw
    (body ++ (endTagText name blanks ++ '>' :: following))
  rw [rawElement_closed shape cut] at token_eq
  rw [text_eq]
  exact undirected_of_scan (scan_of_token token_eq) compiler

theorem undirected_rawUnclosed
    {tag : StartTag} {body : List Char}
    (shaped : tag.Shaped) (apart : tag.separated (Token.tagEnd false) = true)
    (raw : Vocabulary.isRawText tag.name = true) (cut : rawBody tag.name body = (body, [])) :
    compiler.undirected (tag.source ++ '>' :: body) = compiler.undirectedTag tag := by
  obtain ⟨text, text_eq, token_eq⟩ := token_of_rawTag shaped apart raw body
  rw [rawElement_unclosed cut] at token_eq
  rw [text_eq, undirected_of_scan (scan_of_token token_eq), undirected_nil, Bool.and_true]
  rfl

end Markup

end Compiler
end MarkupTemplate
