import MarkupTemplate.Proofs.Markup.Exposure
import MarkupTemplate.Proofs.Markup.Rescan

/-!
Each kind of part scanned again with its markers replaced. If none of its markers is exposed, a part
that is text adds nothing to the markup, and the content of a raw text element ends where it did.
-/

namespace MarkupTemplate
namespace Markup

/-- What may follow a text: nothing, or a token of its own. -/
def Borders (following : List Char) : Prop :=
  following = [] ∨ following.head? = some '<'

theorem not_borders {inside rest following : List Char} (noOpen : '<' ∉ inside)
    (following_eq : following = inside ++ '>' :: rest) :
    ¬Borders following := by
  rintro (ended | starts)
  · simp [following_eq] at ended
  · cases inside with
    | nil => simp [following_eq] at starts
    | cons c inside =>
        rw [following_eq] at starts
        cases starts
        simp at noOpen

/-- What reaches the next `>` without a `<` ends before the text behind the border. -/
theorem closed_before_border {text inside rest following : List Char} (noOpen : '<' ∉ inside)
    (border : Borders following) (text_eq : text ++ following = inside ++ '>' :: rest) :
    ∃ more, text = inside ++ '>' :: more := by
  rcases List.append_eq_append_iff.1 text_eq with
    ⟨left, inside_eq, following_eq⟩ | ⟨more, rfl, more_eq⟩
  · rw [inside_eq] at noOpen
    simp only [List.mem_append, not_or] at noOpen
    exact absurd border (not_borders noOpen.2 following_eq)
  · cases more with
    | nil =>
        have noOpen : '<' ∉ ([] : List Char) := by simp
        exact absurd border (not_borders noOpen more_eq.symm)
    | cons c more =>
        cases more_eq
        exact ⟨more, rfl⟩

def Clear (stops : List Char → Bool) (rest : List Char) : List Char → Prop
  | [] => True
  | c :: text => stops (c :: (text ++ rest)) = false ∧ Clear stops rest text

theorem Clear.of_append {stops : List Char → Bool} {rest before text : List Char}
    (clear : Clear stops rest (before ++ text)) :
    Clear stops rest text := by
  induction before with
  | nil => exact clear
  | cons c before ih => exact ih clear.2

theorem plainRun_clear (text : List Char) : Clear opens (plainRun text).2 (plainRun text).1 := by
  induction text with
  | nil => trivial
  | cons c text ih =>
      by_cases opening : opens (c :: text) = true
      · rw [plainRun, if_pos opening]
        trivial
      · rw [plainRun, if_neg opening]
        refine ⟨?_, ih⟩
        rw [plainRun_append]
        exact Bool.eq_false_iff.2 opening

def endsRaw (name text : List Char) : Bool :=
  (endTagName? text).any (Text.sameName name)

theorem rawBody_cons (name text : List Char) (c : Char) :
    rawBody name (c :: text) =
      if endsRaw name (c :: text) then ([], c :: text)
      else (c :: (rawBody name text).1, (rawBody name text).2) := rfl

theorem rawBody_clear (name text : List Char) :
    Clear (endsRaw name) (rawBody name text).2 (rawBody name text).1 := by
  induction text with
  | nil => trivial
  | cons c text ih =>
      by_cases ended : endsRaw name (c :: text) = true
      · rw [rawBody_cons, if_pos ended]
        trivial
      · rw [rawBody_cons, if_neg ended]
        refine ⟨?_, ih⟩
        rw [rawBody_append]
        exact Bool.eq_false_iff.2 ended

theorem rawBody_cons_of_not {name text : List Char} {c : Char}
    (continues : endsRaw name (c :: text) = false) :
    rawBody name (c :: text) = (c :: (rawBody name text).1, (rawBody name text).2) := by
  rw [rawBody_cons, continues]
  rfl

theorem endsRaw_of_ne {name text : List Char} {c : Char} (other : c ≠ '<') :
    endsRaw name (c :: text) = false := by
  unfold endsRaw endTagName?
  split
  · next text_eq => exact absurd (List.cons.inj text_eq).1 other
  · rfl

theorem rawBody_append_plain {before : List Char} (plain : '<' ∉ before) (name text : List Char) :
    rawBody name (before ++ text) = (before ++ (rawBody name text).1, (rawBody name text).2) := by
  induction before with
  | nil => rfl
  | cons c before ih =>
      simp only [List.mem_cons, not_or] at plain
      rw [List.cons_append, rawBody_cons_of_not (endsRaw_of_ne (Ne.symm plain.1)), ih plain.2]
      rfl

section Written

variable (scope : Scope)

theorem opens_of_second {c d : Char} {text other : List Char} :
    opens (c :: d :: text) = opens (c :: d :: other) := by
  by_cases starts : c = '<'
  · subst starts
    rfl
  · rw [Bool.eq_false_iff.2 (not_opens starts _), Bool.eq_false_iff.2 (not_opens starts _)]

theorem border_not_opens {following : List Char} (border : Borders following) :
    opens ('<' :: following) = false := by
  rcases border with rfl | starts
  · rfl
  · obtain ⟨rest, rfl⟩ := List.head?_eq_some_iff.1 starts
    rfl

/-- A marker directly behind a `<` adds nothing to the markup either if no `>` follows. -/
theorem shapes_written_open
    {after : List Piece} {following : List Char}
    (after_open : '>' ∉ Piece.sources after) (following_open : '>' ∉ following)
    (marker : Marker) (names : List (List Char)) :
    shapes names ('<' :: (Piece.written scope (.marker marker :: after) ++ following)) =
      shapes names following := by
  have shown_open : '>' ∉ Piece.shown scope marker :=
    Piece.shown_no_delimiter scope (by decide) marker
  have written_open : '>' ∉ Piece.written scope after := fun member =>
    after_open (Piece.mem_sources_of_mem_written scope (by decide) member)
  rw [shapes_of_no_close following_open, shapes_of_no_close]
  simp [Piece.written_marker, shown_open, written_open, following_open]

/-- Outside of tokens, the text shown for a marker that does not stand directly behind a `<` adds
nothing to the markup, and no text does in front of which no `>` follows. -/
theorem shapes_written_plain
    {pieces : List Piece} {rest following : List Char}
    (clear : Clear opens rest (Piece.sources pieces))
    (border : Borders following) (closes : '>' ∈ following → '>' ∈ rest)
    (hidden : behindOpening (mayOpen rest) pieces = false) (names : List (List Char)) :
    shapes names (Piece.written scope pieces ++ following) = shapes names following := by
  induction pieces with
  | nil => rfl
  | cons piece pieces ih =>
      cases piece with
      | marker marker =>
          have plain : '<' ∉ Piece.shown scope marker :=
            Piece.shown_no_delimiter scope (by decide) marker
          rw [Piece.written_marker, List.append_assoc, shapes_append_plain plain]
          exact ih clear.of_append hidden
      | literal c =>
          rw [behindOpening, Bool.or_eq_false_iff] at hidden
          rw [Piece.written_literal, List.cons_append]
          by_cases opened : opens (c :: (Piece.written scope pieces ++ following)) = true
          · obtain rfl : c = '<' := Option.some.inj (head_of_opens opened)
            cases pieces with
            | nil => exact absurd opened (Bool.eq_false_iff.1 (border_not_opens border))
            | cons next after =>
                cases next with
                | literal d =>
                    have closed : opens ('<' :: d :: (Piece.sources after ++ rest)) = false :=
                      clear.1
                    have still :
                        opens ('<' :: d :: (Piece.written scope after ++ following)) = true :=
                      opened
                    rw [opens_of_second, closed] at still
                    contradiction
                | marker marker =>
                    have absent : '>' ∉ Piece.sources after ++ rest := by
                      simpa [mayOpen] using hidden.1
                    rw [List.mem_append, not_or] at absent
                    exact shapes_written_open scope absent.1
                      (fun member => absent.2 (closes member)) marker names
          · rw [shapes_plain opened]
            exact ih clear.2 hidden.2

/-- An end tag that is read behind a `<` is one that may stand there. -/
theorem mayClose_of_written
    {pieces : List Piece} {following found name : List Char} (border : Borders following)
    (read : endTagName? ('<' :: (Piece.written scope pieces ++ following)) = some found)
    (same : Text.sameName found name = true) :
    mayClose name pieces = true := by
  obtain ⟨blanks, rest, shape, text_eq⟩ := endTagName?_sound read
  have noOpen : '<' ∉ '/' :: (found ++ blanks) := fun member => by
    have impossible := endTagText_inside shape '<' member
    contradiction
  obtain ⟨more, written_eq⟩ := closed_before_border noOpen border (List.cons.inj text_eq).2
  have read_again : endTagName? ('<' :: Piece.written scope pieces) = some found := by
    rw [written_eq]
    exact endTagName?_exact shape more
  exact mayClose_iff.2 ⟨_, found, fills_written scope pieces, read_again, same⟩

/-- Where no end tag may stand in the content of a raw text element, the content goes on. -/
theorem endsRaw_written
    {c : Char} {name : List Char} {pieces : List Piece} {following : List Char}
    (border : Borders following) (hidden : (c == '<' && mayClose name pieces) = false) :
    endsRaw name (c :: (Piece.written scope pieces ++ following)) = false := by
  by_cases starts : c = '<'
  · subst starts
    apply Bool.eq_false_iff.2
    intro ended
    obtain ⟨found, read, same⟩ := (Option.any_eq_true _ _).1 ended
    rw [Text.sameName_comm] at same
    rw [mayClose_of_written scope border read same] at hidden
    contradiction
  · exact endsRaw_of_ne starts

/-- The content of a raw text element ends where it did. -/
theorem rawBody_written
    {name : List Char} {pieces : List Piece} {following : List Char}
    (border : Borders following) (ends : following = [] ∨ endsRaw name following = true)
    (hidden : behindOpening (mayClose name) pieces = false) :
    rawBody name (Piece.written scope pieces ++ following) =
      (Piece.written scope pieces, following) := by
  induction pieces with
  | nil =>
      rcases ends with rfl | ended
      · rfl
      · cases following with
        | nil => rfl
        | cons c following =>
            change rawBody name (c :: following) = ([], c :: following)
            rw [rawBody_cons, if_pos ended]
  | cons piece pieces ih =>
      cases piece with
      | marker marker =>
          have plain : '<' ∉ Piece.shown scope marker :=
            Piece.shown_no_delimiter scope (by decide) marker
          rw [Piece.written_marker, List.append_assoc, rawBody_append_plain plain, ih hidden]
      | literal c =>
          rw [behindOpening, Bool.or_eq_false_iff] at hidden
          rw [Piece.written_literal, List.cons_append,
            rawBody_cons_of_not (endsRaw_written scope border hidden.1), ih hidden.2]

theorem outside?_none {name : List Char} {names : List (List Char)}
    (other : ∀ opened ∈ names, Text.sameName name opened = false) :
    outside? name names = none := by
  induction names with
  | nil => rfl
  | cons opened names ih =>
      rw [outside?, other opened (by simp), if_neg (by simp)]
      exact ih fun opened member => other opened (by simp [member])

theorem shapes_stray {c : Char} {text name source rest : List Char} {names : List (List Char)}
    (read : token c text = (.endTag name source, rest)) (stray : outside? name names = none) :
    shapes names (c :: text) = shapes names rest := by
  rw [shapes, scan_of_token read, parts, stray]
  rfl

/-- The text from `</` to the next `>`, its markers replaced. -/
theorem interpolate_closed {inner : List Char} (absent : '>' ∉ inner) :
    ∃ pieces, Piece.split (inner ++ ['>']) = pieces ++ [.literal '>'] ∧
      '>' ∉ Piece.written scope pieces ∧
      interpolate .escaped scope ('<' :: '/' :: inner ++ ['>']) =
        '<' :: '/' :: Piece.written scope pieces ++ ['>'] := by
  obtain ⟨pieces, split_eq, source_eq⟩ := Piece.last_literal
    (fun marker member => Piece.split_shaped member) (Piece.split_sources (inner ++ ['>']))
  have source_inner : Piece.sources pieces = inner := source_eq
  refine ⟨pieces, split_eq, ?_, ?_⟩
  · intro member
    rw [← source_inner] at absent
    exact absent (Piece.mem_sources_of_mem_written scope (by decide) member)
  · have pieces_eq : Piece.split ('<' :: '/' :: inner ++ ['>']) =
        .literal '<' :: .literal '/' :: (pieces ++ [.literal '>']) := by
      rw [List.cons_append, List.cons_append, Piece.split_literal (by decide),
        Piece.split_literal (by decide), split_eq]
    change Piece.written scope (Piece.split _) = _
    rw [pieces_eq, Piece.written_literal, Piece.written_literal, Piece.written_append]
    rfl

theorem stray_of_hidden
    {pieces : List Piece} {names : List (List Char)} {found : List Char}
    (read : endTagName? ('<' :: Piece.written scope pieces) = some found)
    (hidden : names.any (fun name => mayClose name pieces) = false) :
    outside? found names = none := by
  apply outside?_none
  intro name member
  apply Bool.eq_false_iff.2
  intro same
  rw [← List.append_nil (Piece.written scope pieces)] at read
  have closes := mayClose_of_written scope (.inl rfl) read same
  rw [List.any_eq_false] at hidden
  exact hidden name member closes

/-- A text from `</` to the next `>` adds nothing to the markup where no end tag of an open element
may stand. -/
theorem shapes_written_closed
    {inner : List Char} {names : List (List Char)} (absent : '>' ∉ inner)
    (hidden : names.any (fun name =>
      mayClose name (.literal '/' :: Piece.split (inner ++ ['>']))) = false)
    (following : List Char) :
    shapes names (interpolate .escaped scope ('<' :: '/' :: inner ++ ['>']) ++ following) =
      shapes names following := by
  obtain ⟨pieces, split_eq, written_open, written_eq⟩ := interpolate_closed scope absent
  have front_open : '>' ∉ '<' :: '/' :: Piece.written scope pieces := by simp [written_open]
  rw [split_eq] at hidden
  have token_eq : token '<' ('/' :: Piece.written scope pieces ++ '>' :: following) =
      endTagToken ('<' :: '/' :: Piece.written scope pieces ++ '>' :: following) := rfl
  rw [written_eq, List.append_assoc, List.singleton_append]
  rw [endTagToken, Text.through_exact front_open following] at token_eq
  cases read : endTagName? ('<' :: '/' :: Piece.written scope pieces ++ '>' :: following) with
  | none =>
      rw [read] at token_eq
      exact shapes_text token_eq names
  | some name =>
      rw [read] at token_eq
      refine shapes_stray token_eq (stray_of_hidden scope ?_ hidden)
      rw [← endTagName?_until_close front_open read [], Piece.written_literal,
        Piece.written_append]
      rfl

/-- The text up to the `>` behind a `</` that begins no end tag adds nothing to the markup. -/
theorem shapes_written_endTag
    {text body rest following later : List Char} {names : List (List Char)}
    (cut : Text.through '>' ('<' :: '/' :: text) = (body, rest))
    (ended : rest = [] → following = [])
    (hidden : (Part.inert names body).exposes later = false) :
    shapes names (interpolate .escaped scope body ++ following) = shapes names following := by
  rcases Text.through_cases '>' text with absent | ⟨inner, after, absent, rfl⟩
  · have open_ended : '>' ∉ '<' :: '/' :: text := by simp [absent]
    rw [Text.through_absent open_ended] at cut
    cases cut
    have written_open : '>' ∉ interpolate .escaped scope ('<' :: '/' :: text) := fun member =>
      open_ended ((mem_interpolate_iff (by decide) scope _).1 member)
    rw [ended rfl, List.append_nil, shapes_of_no_close written_open, shapes_nil]
  · have front : '>' ∉ '<' :: '/' :: inner := by simp [absent]
    have through_eq := Text.through_exact front after
    rw [List.cons_append, List.cons_append, cut] at through_eq
    cases through_eq
    exact shapes_written_closed scope absent hidden following

/-- A comment without its end has none with its markers replaced either. -/
theorem shapes_written_comment {inner : List Char}
    (hidden : Reader.comment.mayFinish .inside (Piece.split inner) = false)
    (names : List (List Char)) :
    shapes names (interpolate .escaped scope ('<' :: '!' :: '-' :: '-' :: inner)) = [] := by
  have written_eq : interpolate .escaped scope ('<' :: '!' :: '-' :: '-' :: inner) =
      '<' :: '!' :: '-' :: '-' :: Piece.written scope (Piece.split inner) := by
    rw [interpolate, Piece.split_literal (by decide), Piece.split_literal (by decide),
      Piece.split_literal (by decide), Piece.split_literal (by decide)]
    rfl
  have token_eq : token '<' ('!' :: '-' :: '-' :: Piece.written scope (Piece.split inner)) =
      commentToken (Piece.written scope (Piece.split inner)) := rfl
  have endless : Text.cut? "-->".toList (Piece.written scope (Piece.split inner)) = none := by
    apply Option.not_isSome_iff_eq_none.1
    intro ended
    have finished := (Reader.comment_finishes .inside _).trans ended
    rw [Reader.comment.mayFinish_of_fills (fills_written scope _) finished] at hidden
    contradiction
  rw [commentToken, endless] at token_eq
  rw [written_eq, shapes_unfinished token_eq, shapes_nil]

theorem elementToken_unfinished {text : List Char} (endless : (elementToken text).1.tag? = none) :
    elementToken text = (.unfinished ('<' :: text), []) := by
  cases read : elementToken text with
  | mk found rest =>
      rw [read] at endless
      rcases elementToken_kind read with
        ⟨rfl, rfl⟩ | ⟨tag, selfClosing, rfl, _⟩ | ⟨tag, following, _, raw⟩
      · rfl
      · contradiction
      · have tag_eq := tag_of_rawElement tag following
        rw [raw, endless] at tag_eq
        contradiction

/-- A tag without its end has none with its markers replaced either. -/
theorem shapes_written_tag {letter : Char} {text : List Char} (alpha : letter.isAlpha = true)
    (hidden : Reader.startTag.mayFinish .tagName (Piece.split (letter :: text)) = false)
    (names : List (List Char)) :
    shapes names (interpolate .escaped scope ('<' :: letter :: text)) = [] := by
  have noBrace : letter ≠ '\x7b' := by
    rintro rfl
    contradiction
  have written_eq : interpolate .escaped scope ('<' :: letter :: text) =
      '<' :: letter :: Piece.written scope (Piece.split text) := by
    rw [interpolate, Piece.split_literal (by decide), Piece.split_literal noBrace]
    rfl
  have endless :
      (elementToken (letter :: Piece.written scope (Piece.split text))).1.tag? = none := by
    apply Option.not_isSome_iff_eq_none.1
    intro ended
    have fills := fills_written scope (Piece.split (letter :: text))
    rw [Piece.split_literal noBrace] at hidden fills
    have finished := (Reader.startTag_finishes _).trans ended
    rw [Reader.startTag.mayFinish_of_fills fills finished] at hidden
    contradiction
  rw [written_eq,
    shapes_unfinished ((token_letter alpha _).trans (elementToken_unfinished endless)),
    shapes_nil]

end Written

end Markup
end MarkupTemplate
