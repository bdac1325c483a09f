import MarkupTemplate.Proofs.Markup.RoundTrip
import MarkupTemplate.Proofs.Markup.WrittenParts

/-!
A text scanned again with the markers in its texts replaced. If no marker is exposed, the markup is
the same, token by token.
-/

namespace MarkupTemplate
namespace Markup

section Written

variable (scope : Scope)

theorem splits_interpolate : Splits (interpolate .escaped scope) where
  nil := by simp [interpolate, Piece.split]
  append := by
    intro left right apart
    rw [interpolate, Piece.split_append apart, List.flatMap_append]
    rfl

def writtenParts (found : List Part) : List Char :=
  found.flatMap (Part.filled (interpolate .escaped scope))

theorem writtenParts_cons (part : Part) (later : List Part) :
    writtenParts scope (part :: later) =
      part.filled (interpolate .escaped scope) ++ writtenParts scope later := rfl

theorem interpolate_head {body : List Char} (starts : body.head? = some '<') :
    (interpolate .escaped scope body).head? = some '<' := by
  obtain ⟨rest, rfl⟩ := List.head?_eq_some_iff.1 starts
  rw [interpolate, Piece.split_literal (by decide)]
  rfl

theorem part_filled_head {part : Part} (starts : part.source.head? = some '<') :
    (part.filled (interpolate .escaped scope)).head? = some '<' := by
  cases part with
  | markup found =>
      cases found with
      | rawElement tag body closing => rfl
      | _ => exact starts
  | inert opened body => exact interpolate_head scope starts
  | broken opened body => exact interpolate_head scope starts
  | beyond body => exact interpolate_head scope starts

theorem part_filled_nil {part : Part} (empty : part.source = []) :
    part.filled (interpolate .escaped scope) = [] := by
  have nil_eq : interpolate .escaped scope [] = [] := by simp [interpolate, Piece.split]
  cases part with
  | markup found =>
      cases found with
      | rawElement tag body closing => simp [Part.source, Token.source] at empty
      | _ => exact empty
  | inert opened body =>
      cases empty
      exact nil_eq
  | broken opened body =>
      cases empty
      exact nil_eq
  | beyond body =>
      cases empty
      exact nil_eq

theorem part_filled_close {part : Part}
    (member : '>' ∈ part.filled (interpolate .escaped scope)) :
    '>' ∈ part.source := by
  have inside : ∀ body, '>' ∈ interpolate .escaped scope body → '>' ∈ body :=
    fun body => (mem_interpolate_iff (by decide) scope body).1
  cases part with
  | markup found =>
      cases found with
      | rawElement tag body closing => simp [Part.source, Token.source]
      | _ => exact member
  | inert opened body => exact inside body member
  | broken opened body => exact inside body member
  | beyond body => exact inside body member

theorem written_head {found : List Part}
    (starts : (found.flatMap Part.source).head? = some '<') :
    (writtenParts scope found).head? = some '<' := by
  induction found with
  | nil => contradiction
  | cons part later ih =>
      rw [writtenParts_cons, List.head?_append]
      rw [List.flatMap_cons, List.head?_append] at starts
      cases source_eq : part.source with
      | nil =>
          rw [source_eq] at starts
          rw [part_filled_nil scope source_eq, ih starts]
          rfl
      | cons c source =>
          rw [source_eq] at starts
          have head : part.source.head? = some '<' := by
            rw [source_eq]
            exact starts
          rw [part_filled_head scope head]
          rfl

theorem written_close {found : List Part} (member : '>' ∈ writtenParts scope found) :
    '>' ∈ found.flatMap Part.source := by
  obtain ⟨part, inside, close⟩ := List.mem_flatMap.1 member
  exact List.mem_flatMap.2 ⟨part, inside, part_filled_close scope close⟩

theorem scan_parts_sources (names : List (List Char)) (text : List Char) :
    (parts names (scan text)).flatMap Part.source = text := by
  rw [parts_sources, sources, scan_sources]

theorem written_borders {names : List (List Char)} {text : List Char} (border : Borders text) :
    Borders (writtenParts scope (parts names (scan text))) := by
  rcases border with rfl | starts
  · left
    simp [scan, parts, writtenParts]
  · right
    apply written_head
    rw [scan_parts_sources]
    exact starts

/-- Markup that is read again, in front of texts with the same markup. -/
theorem shapes_step
    {names outer : List (List Char)} {text again rest restAgain : List Char} {found other : Token}
    (scan_eq : scan text = found :: scan rest) (again_eq : scan again = other :: scan restAgain)
    (found_parts : ∀ tokens, parts names (found :: tokens) = .markup found :: parts outer tokens)
    (other_parts : ∀ tokens, parts names (other :: tokens) = .markup other :: parts outer tokens)
    (shape_eq : (Part.markup other).shape? = (Part.markup found).shape?)
    (rest_eq : shapes outer restAgain = shapes outer rest) :
    shapes names again = shapes names text := by
  rw [shapes, shapes, scan_eq, again_eq, found_parts, other_parts, List.filterMap_cons,
    List.filterMap_cons, shape_eq]
  rw [shapes, shapes] at rest_eq
  rw [rest_eq]

/-- Replacing the markers in the texts leaves the markup as it is, if none of them is exposed. -/
def KeepsMarkup (text : List Char) : Prop :=
  ∀ names, exposed (parts names (scan text)) = false →
    shapes names (writtenParts scope (parts names (scan text))) = shapes names text

theorem keeps_markup_nil : KeepsMarkup scope [] := by
  intro names _
  simp [scan, parts, writtenParts]

theorem exposes_plain
    {body : List Char} (noEndTag : ∀ begun, body ≠ '<' :: '/' :: begun)
    (names : List (List Char)) (later : List Char) :
    (Part.inert names body).exposes later = behindOpening (mayOpen later) (Piece.split body) := by
  simp only [Part.exposes]

theorem keeps_markup_plain {c : Char} {text : List Char} (closed : ¬opens (c :: text) = true)
    (rest_keeps : KeepsMarkup scope (plainRun text).2) :
    KeepsMarkup scope (c :: text) := by
  intro names hidden
  have token_eq := token_plain closed
  rw [shapes_text token_eq]
  rw [scan_of_token token_eq, parts] at hidden ⊢
  simp only [exposed, Bool.or_eq_false_iff, scan_parts_sources] at hidden
  rw [writtenParts_cons, ← rest_keeps names hidden.2]
  have clear : Clear opens (plainRun text).2
      (Piece.sources (Piece.split (c :: (plainRun text).1))) := by
    rw [Piece.sources, Piece.split_sources]
    refine ⟨?_, plainRun_clear text⟩
    rw [plainRun_append]
    exact Bool.eq_false_iff.2 closed
  have border : Borders (plainRun text).2 := (plainRun_stops text).imp_right head_of_opens
  have noEndTag : ∀ begun, c :: (plainRun text).1 ≠ '<' :: '/' :: begun := by
    intro begun body_eq
    apply closed
    rw [← plainRun_append text, ← List.cons_append, body_eq]
    rfl
  have unexposed := hidden.1
  rw [exposes_plain noEndTag] at unexposed
  apply shapes_written_plain scope clear (written_borders scope border) _ unexposed
  intro member
  have inside := written_close scope member
  rwa [scan_parts_sources] at inside

theorem interpolate_endTag {name blanks : List Char} (shape : EndTagShape name blanks) :
    interpolate .escaped scope (endTagText name blanks ++ ['>']) =
      endTagText name blanks ++ ['>'] := by
  have plain : '\x7b' ∉ endTagText name blanks ++ ['>'] := by
    intro member
    rcases List.mem_append.1 member with member | member
    · rcases List.mem_cons.1 member with same | member
      · contradiction
      · have inside := endTagText_inside shape '\x7b' member
        contradiction
    · simp at member
  change Piece.written scope (Piece.split _) = _
  rw [Piece.split_plain plain, Piece.written_literals]

theorem keeps_markup_endTag {text : List Char}
    (rest_keeps : KeepsMarkup scope (endTagToken ('<' :: '/' :: text)).2) :
    KeepsMarkup scope ('<' :: '/' :: text) := by
  intro names hidden
  have token_eq : token '<' ('/' :: text) = endTagToken ('<' :: '/' :: text) := rfl
  cases read : endTagName? ('<' :: '/' :: text) with
  | none =>
      cases cut : Text.through '>' ('<' :: '/' :: text) with
      | mk body rest =>
          rw [endTagToken, read, cut] at token_eq rest_keeps
          rw [shapes_text token_eq]
          rw [scan_of_token token_eq, parts] at hidden ⊢
          simp only [exposed, Bool.or_eq_false_iff, scan_parts_sources] at hidden
          rw [writtenParts_cons, ← rest_keeps names hidden.2]
          refine shapes_written_endTag scope cut ?_ hidden.1
          rintro rfl
          simp [scan, parts, writtenParts]
  | some name =>
      obtain ⟨blanks, rest, shape, text_eq⟩ := endTagName?_sound read
      rw [text_eq, endTagToken_exact shape] at token_eq rest_keeps
      rw [text_eq]
      rw [text_eq, scan_endTag_again shape] at hidden
      rw [scan_endTag_again shape]
      cases closes : outside? name names with
      | none =>
          simp only [parts, closes, exposed, Bool.or_eq_false_iff] at hidden
          simp only [parts, closes]
          have again : ∀ other, token '<' ('/' :: (name ++ blanks) ++ '>' :: other) =
              (.endTag name (endTagText name blanks ++ ['>']), other) := endTagToken_exact shape
          have skipped : ∀ other, shapes names (endTagText name blanks ++ '>' :: other) =
              shapes names other := fun other => shapes_stray (again other) closes
          rw [writtenParts_cons, Part.filled, interpolate_endTag scope shape, List.append_assoc,
            List.singleton_append, skipped, skipped]
          exact rest_keeps names hidden.2
      | some outer =>
          simp only [parts, closes, exposed, Bool.or_eq_false_iff] at hidden
          simp only [parts, closes]
          have filled_eq : Part.filled (interpolate .escaped scope)
              (.markup (.endTag name (endTagText name blanks ++ ['>']))) =
                endTagText name blanks ++ ['>'] := rfl
          rw [writtenParts_cons, filled_eq, List.append_assoc, List.singleton_append]
          have endTag_parts : ∀ tokens,
              parts names (.endTag name (endTagText name blanks ++ ['>']) :: tokens) =
                .markup (.endTag name (endTagText name blanks ++ ['>'])) :: parts outer tokens := by
            intro tokens
            simp only [parts, closes]
          exact shapes_step (scan_endTag_again shape rest) (scan_endTag_again shape _) endTag_parts
            endTag_parts rfl (rest_keeps outer hidden.2)

theorem keeps_markup_comment {inner : List Char}
    (rest_keeps : KeepsMarkup scope (commentToken inner).2) :
    KeepsMarkup scope ('<' :: '!' :: '-' :: '-' :: inner) := by
  intro names hidden
  have token_eq : token '<' ('!' :: '-' :: '-' :: inner) = commentToken inner := rfl
  cases cut : Text.cut? "-->".toList inner with
  | none =>
      rw [commentToken, cut] at token_eq
      rw [shapes_unfinished token_eq, shapes_nil]
      rw [scan_of_token token_eq, parts] at hidden ⊢
      simp only [exposed, Bool.or_eq_false_iff] at hidden
      have nothing : writtenParts scope (parts names (scan [])) = [] := by
        simp [scan, parts, writtenParts]
      rw [writtenParts_cons, nothing, List.append_nil]
      exact shapes_written_comment scope hidden.1 names
  | some found =>
      obtain ⟨body, rest⟩ := found
      have read : commentToken inner = (.comment body, rest) := by rw [commentToken, cut]
      rw [read] at token_eq rest_keeps
      rw [scan_of_token token_eq, parts] at hidden ⊢
      simp only [exposed, Bool.or_eq_false_iff] at hidden
      rw [writtenParts_cons]
      exact shapes_step (scan_of_token token_eq) (scan_comment_again read _) (fun _ => rfl)
        (fun _ => rfl) rfl (rest_keeps names hidden.2)

theorem keeps_markup_declaration
    {mark : Char} {text : List Char} (marks : mark = '!' ∨ mark = '?')
    (noComment : ∀ inner, mark :: text ≠ '!' :: '-' :: '-' :: inner)
    (rest_keeps : KeepsMarkup scope (declarationToken ('<' :: mark :: text)).2) :
    KeepsMarkup scope ('<' :: mark :: text) := by
  intro names hidden
  have token_eq := token_declaration marks noComment
  cases cut : Text.cut? ['>'] ('<' :: mark :: text) with
  | none =>
      rw [declarationToken, cut] at token_eq
      have absent := Text.not_mem_of_cut?_none cut
      have written_open : '>' ∉ writtenParts scope (parts names (scan ('<' :: mark :: text))) := by
        intro member
        apply absent
        rw [← scan_parts_sources names ('<' :: mark :: text)]
        exact written_close scope member
      rw [shapes_of_no_close written_open, shapes_text token_eq, shapes_nil]
  | some found =>
      obtain ⟨body, rest⟩ := found
      have read : declarationToken ('<' :: mark :: text) =
          (.declaration (body ++ ['>']), rest) := by
        rw [declarationToken, cut]
      rw [read] at token_eq rest_keeps
      rw [scan_of_token token_eq, parts] at hidden ⊢
      simp only [exposed, Bool.or_eq_false_iff] at hidden
      rw [writtenParts_cons]
      exact shapes_step (scan_of_token token_eq)
        (scan_declaration_again marks noComment read _) (fun _ => rfl) (fun _ => rfl) rfl
        (rest_keeps names hidden.2)

/-- Where elements are nested too deep, the text from the next tag on is one part. -/
theorem parts_deep {names : List (List Char)} (deep : maxDepth ≤ names.length)
    {letter : Char} (alpha : letter.isAlpha = true) (text : List Char) :
    parts names (scan ('<' :: letter :: text)) = [.broken names ('<' :: letter :: text)] ∨
      parts names (scan ('<' :: letter :: text)) = [.beyond ('<' :: letter :: text)] := by
  have whole := scan_sources ('<' :: letter :: text)
  cases read : elementToken (letter :: text) with
  | mk found rest =>
      have token_eq := (token_letter alpha text).trans read
      rw [scan_of_token token_eq] at whole ⊢
      rcases elementToken_kind read with
        ⟨rfl, rfl⟩ | ⟨tag, selfClosing, rfl, _⟩ | ⟨tag, following, _, raw⟩
      · left
        simp [parts, scan]
      · right
        rw [parts, if_pos deep, sources, whole]
      · right
        unfold rawElement at raw
        split at raw
        · cases raw
          rw [parts, if_pos deep, sources, whole]
        · cases raw
          rw [parts, if_pos deep, sources, whole]

theorem shapes_deep {names : List (List Char)} (deep : maxDepth ≤ names.length)
    {letter : Char} (alpha : letter.isAlpha = true) (text : List Char) :
    shapes names ('<' :: letter :: text) = [] := by
  rcases parts_deep deep alpha text with parts_eq | parts_eq
  · rw [shapes, parts_eq]
    rfl
  · rw [shapes, parts_eq]
    rfl

theorem written_deep {names : List (List Char)} (deep : maxDepth ≤ names.length)
    {letter : Char} (alpha : letter.isAlpha = true) (text : List Char) :
    writtenParts scope (parts names (scan ('<' :: letter :: text))) =
      interpolate .escaped scope ('<' :: letter :: text) := by
  rcases parts_deep deep alpha text with parts_eq | parts_eq
  · rw [parts_eq]
    exact List.append_nil _
  · rw [parts_eq]
    exact List.append_nil _

theorem keeps_markup_deep {names : List (List Char)} (deep : maxDepth ≤ names.length)
    {letter : Char} (alpha : letter.isAlpha = true) (text : List Char) :
    shapes names (writtenParts scope (parts names (scan ('<' :: letter :: text)))) =
      shapes names ('<' :: letter :: text) := by
  have noBrace : letter ≠ '\x7b' := by
    rintro rfl
    contradiction
  have written_eq : interpolate .escaped scope ('<' :: letter :: text) =
      '<' :: letter :: interpolate .escaped scope text := by
    change Piece.written scope (Piece.split _) = _
    rw [Piece.split_literal (by decide), Piece.split_literal noBrace]
    rfl
  rw [written_deep scope deep alpha, written_eq, shapes_deep deep alpha, shapes_deep deep alpha]

theorem exposes_tag {letter : Char} (alpha : letter.isAlpha = true) (text : List Char)
    {names : List (List Char)} (shallow : ¬maxDepth ≤ names.length) (later : List Char) :
    (Part.broken names ('<' :: letter :: text)).exposes later =
      Reader.startTag.mayFinish .tagName (Piece.split (letter :: text)) := by
  simp only [Part.exposes, if_neg shallow]
  split
  · next inner body_eq =>
      cases body_eq
      contradiction
  · next inner _ body_eq =>
      cases body_eq
      rfl
  · next other => exact absurd rfl (other _)

theorem keeps_markup_unfinished {letter : Char} {text : List Char} (alpha : letter.isAlpha = true)
    (read : elementToken (letter :: text) = (.unfinished ('<' :: letter :: text), []))
    {names : List (List Char)} (shallow : ¬maxDepth ≤ names.length)
    (hidden : exposed (parts names (scan ('<' :: letter :: text))) = false) :
    shapes names (writtenParts scope (parts names (scan ('<' :: letter :: text)))) =
      shapes names ('<' :: letter :: text) := by
  have token_eq := (token_letter alpha text).trans read
  rw [shapes_unfinished token_eq, shapes_nil]
  rw [scan_of_token token_eq, parts] at hidden ⊢
  simp only [exposed, Bool.or_eq_false_iff] at hidden
  have nothing : writtenParts scope (parts names (scan [])) = [] := by
    simp [scan, parts, writtenParts]
  have unexposed := hidden.1
  rw [exposes_tag alpha text shallow] at unexposed
  rw [writtenParts_cons, nothing, List.append_nil]
  exact shapes_written_tag scope alpha unexposed names

theorem keeps_markup_startTag
    {letter : Char} {text rest : List Char} {tag : StartTag} {selfClosing : Bool}
    (alpha : letter.isAlpha = true)
    (read : elementToken (letter :: text) = (.startTag tag selfClosing, rest))
    (cooked : (!selfClosing && Vocabulary.isRawText tag.name) = false)
    (rest_keeps : KeepsMarkup scope rest)
    {names : List (List Char)} (shallow : ¬maxDepth ≤ names.length)
    (hidden : exposed (parts names (scan ('<' :: letter :: text))) = false) :
    shapes names (writtenParts scope (parts names (scan ('<' :: letter :: text)))) =
      shapes names ('<' :: letter :: text) := by
  have token_eq := (token_letter alpha text).trans read
  have tag_eq : (elementToken (letter :: text)).1.tag? = some (tag, selfClosing) := by
    rw [read]
    rfl
  obtain ⟨shaped, apart⟩ := elementToken_sound alpha tag_eq
  rw [scan_of_token token_eq, parts, if_neg shallow] at hidden ⊢
  simp only [exposed, Bool.or_eq_false_iff] at hidden
  obtain ⟨again, again_eq, again_token⟩ := token_of_source shaped apart (writtenParts scope
    (parts (if selfClosing || Vocabulary.isVoid tag.name then names else tag.name :: names)
      (scan rest)))
  rw [cooked, if_neg (by simp)] at again_token
  have filled_eq : Part.filled (interpolate .escaped scope) (.markup (.startTag tag selfClosing)) =
      tag.source ++ Token.tagEnd selfClosing := rfl
  rw [writtenParts_cons, filled_eq, List.append_assoc, again_eq]
  have tag_parts : ∀ tokens, parts names (.startTag tag selfClosing :: tokens) =
      .markup (.startTag tag selfClosing) ::
        parts (if selfClosing || Vocabulary.isVoid tag.name then names else tag.name :: names)
          tokens := by
    intro tokens
    rw [parts, if_neg shallow]
  exact shapes_step (scan_of_token token_eq) (scan_of_token again_token) tag_parts tag_parts rfl
    (rest_keeps _ hidden.2)

theorem rawBody_stops (name text : List Char) :
    (rawBody name text).2 = [] ∨ endsRaw name (rawBody name text).2 = true := by
  induction text with
  | nil => exact .inl rfl
  | cons c text ih =>
      by_cases ended : endsRaw name (c :: text) = true
      · rw [rawBody_cons, if_pos ended]
        exact .inr ended
      · rw [rawBody_cons, if_neg ended]
        exact ih

theorem rawElement_unclosed {tag : StartTag} {text body : List Char}
    (cut : rawBody tag.name text = (body, [])) :
    rawElement tag text = (.rawElement tag body none, []) := by
  unfold rawElement
  rw [cut]

theorem rawElement_closed {tag : StartTag} {text body name blanks rest : List Char}
    (shape : EndTagShape name blanks)
    (cut : rawBody tag.name text = (body, endTagText name blanks ++ '>' :: rest)) :
    rawElement tag text =
      (.rawElement tag body (some (endTagText name blanks ++ ['>'])), rest) := by
  have through_eq := Text.through_exact (endTagText_no_close shape) rest
  have cut_cons : rawBody tag.name text = (body, '<' :: ('/' :: (name ++ blanks) ++ '>' :: rest)) :=
    cut
  unfold rawElement
  rw [cut_cons]
  exact congrArg (fun halves : List Char × List Char =>
    (Token.rawElement tag body (some halves.1), halves.2)) through_eq

theorem rawBody_interpolate
    {tag : StartTag} {body following later : List Char} {closing : Option (List Char)}
    (border : Borders following)
    (ends : following = [] ∨ endsRaw tag.name following = true)
    (hidden : (Part.markup (.rawElement tag body closing)).exposes later = false) :
    rawBody tag.name (interpolate .escaped scope body ++ following) =
      (interpolate .escaped scope body, following) :=
  rawBody_written scope border ends hidden

theorem token_of_rawTag {tag : StartTag} (shaped : tag.Shaped)
    (apart : tag.separated (Token.tagEnd false) = true)
    (raw : Vocabulary.isRawText tag.name = true) (text : List Char) :
    ∃ again, tag.source ++ '>' :: text = '<' :: again ∧ token '<' again = rawElement tag text := by
  obtain ⟨again, again_eq, again_token⟩ := token_of_source shaped apart text
  rw [raw, Bool.and_true, Bool.not_false, if_pos rfl] at again_token
  exact ⟨again, again_eq, again_token⟩

theorem parts_rawElement {names : List (List Char)} (shallow : ¬maxDepth ≤ names.length)
    (tag : StartTag) (body : List Char) (closing : Option (List Char)) (tokens : List Token) :
    parts names (.rawElement tag body closing :: tokens) =
      .markup (.rawElement tag body closing) :: parts names tokens := by
  rw [parts, if_neg shallow]

theorem keeps_markup_unclosed
    {text following : List Char} {tag : StartTag}
    (shaped : tag.Shaped) (apart : tag.separated (Token.tagEnd false) = true)
    (raw : Vocabulary.isRawText tag.name = true)
    (token_eq : token '<' text = rawElement tag following)
    (ended : (rawBody tag.name following).2 = [])
    {names : List (List Char)} (shallow : ¬maxDepth ≤ names.length)
    (hidden : exposed (parts names (scan ('<' :: text))) = false) :
    shapes names (writtenParts scope (parts names (scan ('<' :: text)))) =
      shapes names ('<' :: text) := by
  have cut : rawBody tag.name following = ((rawBody tag.name following).1, []) :=
    Prod.ext rfl ended
  rw [rawElement_unclosed cut] at token_eq
  rw [scan_of_token token_eq, parts_rawElement shallow] at hidden ⊢
  simp only [exposed, Bool.or_eq_false_iff] at hidden
  have cut_again := rawBody_interpolate scope (.inl rfl) (.inl rfl) hidden.1
  obtain ⟨again, again_eq, again_token⟩ := token_of_rawTag shaped apart raw
    (interpolate .escaped scope (rawBody tag.name following).1 ++ [])
  rw [rawElement_unclosed cut_again] at again_token
  have written_eq : writtenParts scope (.markup (.rawElement tag (rawBody tag.name following).1
      none) :: parts names (scan [])) = '<' :: again := by
    rw [← again_eq]
    simp [writtenParts, Part.filled, scan, parts]
  rw [written_eq]
  exact shapes_step (scan_of_token token_eq) (scan_of_token again_token)
    (parts_rawElement shallow _ _ _) (parts_rawElement shallow _ _ _) rfl rfl

theorem keeps_markup_closed
    {text following name blanks rest : List Char} {tag : StartTag}
    (shaped : tag.Shaped) (apart : tag.separated (Token.tagEnd false) = true)
    (raw : Vocabulary.isRawText tag.name = true)
    (token_eq : token '<' text = rawElement tag following)
    (shape : EndTagShape name blanks) (same : Text.sameName tag.name name = true)
    (closed : (rawBody tag.name following).2 = endTagText name blanks ++ '>' :: rest)
    (rest_keeps : KeepsMarkup scope rest)
    {names : List (List Char)} (shallow : ¬maxDepth ≤ names.length)
    (hidden : exposed (parts names (scan ('<' :: text))) = false) :
    shapes names (writtenParts scope (parts names (scan ('<' :: text)))) =
      shapes names ('<' :: text) := by
  have cut : rawBody tag.name following =
      ((rawBody tag.name following).1, endTagText name blanks ++ '>' :: rest) :=
    Prod.ext rfl closed
  rw [rawElement_closed shape cut] at token_eq
  rw [scan_of_token token_eq, parts_rawElement shallow] at hidden ⊢
  simp only [exposed, Bool.or_eq_false_iff] at hidden
  have ends : endsRaw tag.name (endTagText name blanks ++
      '>' :: writtenParts scope (parts names (scan rest))) = true := by
    rw [endsRaw, endTagName?_exact shape, Option.any_some, same]
  have cut_again := rawBody_interpolate scope (.inr rfl) (.inr ends) hidden.1
  obtain ⟨again, again_eq, again_token⟩ := token_of_rawTag shaped apart raw
    (interpolate .escaped scope (rawBody tag.name following).1 ++ (endTagText name blanks ++
      '>' :: writtenParts scope (parts names (scan rest))))
  rw [rawElement_closed shape cut_again] at again_token
  have written_eq : writtenParts scope (.markup (.rawElement tag (rawBody tag.name following).1
      (some (endTagText name blanks ++ ['>']))) :: parts names (scan rest)) = '<' :: again := by
    rw [← again_eq, writtenParts_cons, Part.filled]
    simp
  rw [written_eq]
  exact shapes_step (scan_of_token token_eq) (scan_of_token again_token)
    (parts_rawElement shallow _ _ _) (parts_rawElement shallow _ _ _) rfl
    (rest_keeps names hidden.2)

theorem keeps_markup_rawElement
    {letter : Char} {text rest following : List Char} {tag : StartTag} {found : Token}
    (alpha : letter.isAlpha = true)
    (read : elementToken (letter :: text) = (found, rest))
    (raw : Vocabulary.isRawText tag.name = true)
    (element_eq : rawElement tag following = (found, rest))
    (rest_keeps : KeepsMarkup scope rest)
    {names : List (List Char)} (shallow : ¬maxDepth ≤ names.length)
    (hidden : exposed (parts names (scan ('<' :: letter :: text))) = false) :
    shapes names (writtenParts scope (parts names (scan ('<' :: letter :: text)))) =
      shapes names ('<' :: letter :: text) := by
  have tag_eq : (elementToken (letter :: text)).1.tag? = some (tag, false) := by
    rw [read, ← tag_of_rawElement tag following, element_eq]
  obtain ⟨shaped, apart⟩ := elementToken_sound alpha tag_eq
  have token_eq : token '<' (letter :: text) = rawElement tag following := by
    rw [token_letter alpha, read, element_eq]
  rcases rawBody_stops tag.name following with ended | closed
  · exact keeps_markup_unclosed scope shaped apart raw token_eq ended shallow hidden
  · obtain ⟨name, name_read, same⟩ := (Option.any_eq_true _ _).1 closed
    obtain ⟨blanks, behind, shape, tail_eq⟩ := endTagName?_sound name_read
    have cut : rawBody tag.name following =
        ((rawBody tag.name following).1, endTagText name blanks ++ '>' :: behind) :=
      Prod.ext rfl tail_eq
    rw [rawElement_closed shape cut] at element_eq
    cases element_eq
    exact keeps_markup_closed scope shaped apart raw token_eq shape same tail_eq rest_keeps shallow
      hidden

theorem keeps_markup_element {letter : Char} {text : List Char} (alpha : letter.isAlpha = true)
    (rest_keeps : KeepsMarkup scope (elementToken (letter :: text)).2) :
    KeepsMarkup scope ('<' :: letter :: text) := by
  intro names hidden
  by_cases deep : maxDepth ≤ names.length
  · exact keeps_markup_deep scope deep alpha text
  · cases read : elementToken (letter :: text) with
    | mk found rest =>
        rw [read] at rest_keeps
        rcases elementToken_kind read with
          ⟨rfl, rfl⟩ | ⟨tag, selfClosing, rfl, cooked⟩ | ⟨tag, following, raw, element_eq⟩
        · exact keeps_markup_unfinished scope alpha read deep hidden
        · exact keeps_markup_startTag scope alpha read cooked rest_keeps deep hidden
        · exact keeps_markup_rawElement scope alpha read raw element_eq rest_keeps deep hidden

theorem keeps_markup (text : List Char) : KeepsMarkup scope text := by
  fun_induction scan text with
  | case1 => exact keeps_markup_nil scope
  | case2 c text ih =>
      cases token_kind c text with
      | plain closed token_eq =>
          rw [token_eq] at ih
          exact keeps_markup_plain scope closed ih
      | endTag rest token_eq =>
          rw [token_eq] at ih
          exact keeps_markup_endTag scope ih
      | comment rest token_eq =>
          rw [token_eq] at ih
          exact keeps_markup_comment scope ih
      | declaration mark rest marks noComment token_eq =>
          rw [token_eq] at ih
          exact keeps_markup_declaration scope marks noComment ih
      | element letter rest alpha token_eq =>
          rw [token_eq] at ih
          exact keeps_markup_element scope alpha ih

/-- Where a text holds no markup, all of it is text. -/
theorem written_of_no_shapes {text : List Char} (empty : shapes [] text = []) :
    writtenParts scope (textParts text) = interpolate .escaped scope text := by
  fun_induction scan text with
  | case1 => simp [textParts, scan, parts, writtenParts, interpolate, Piece.split]
  | case2 c text ih =>
      have whole := (splits_interpolate scope).append _ _ (apart_token c text)
      rw [token_append] at whole
      rw [shapes, scan] at empty
      rw [whole, textParts, scan]
      generalize (token c text).1 = found at empty ⊢
      cases found with
      | text body => exact congrArg _ (ih empty)
      | unfinished body => exact congrArg _ (ih empty)
      | endTag name source => exact congrArg _ (ih empty)
      | _ => contradiction

end Written

end Markup
end MarkupTemplate
