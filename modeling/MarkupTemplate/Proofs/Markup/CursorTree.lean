import MarkupTemplate.Proofs.Markup.CursorRawText
import MarkupTemplate.Proofs.Markup.Rescan

/-!
Nesting by the cursor. The loop over nodes stops in front of an end tag of an open element without
taking it, and the reader of an element takes what names it and leaves the rest to the elements
around it. Beside the stack of open elements this is the nesting of tokens: what the cursor makes of
a part of the text can stand for that part wherever those elements are open. Each turn leaves less
of the text or stops, so a number of steps linear in the bytes is enough for all of it.
-/

namespace MarkupTemplate
namespace Markup
namespace Cursor

open Text (byteLength isBoundary sees At AsciiClass)

/-- Whether inside of open elements of these names the nodes that are made, with a text behind them,
come to the same tree as other nodes with another text. -/
def SameTree (opened : List (List Char)) (made : List Node) (text : List Char)
    (others : List Node) (rest : List Char) : Prop :=
  ∀ frames, openNames frames = opened →
    build frames made (scan text) = build frames others (scan rest)

theorem SameTree.trans {opened : List (List Char)} {made others further : List Node}
    {text rest behind : List Char} (first : SameTree opened made text others rest)
    (second : SameTree opened others rest further behind) :
    SameTree opened made text further behind :=
  fun frames names => (first frames names).trans (second frames names)

/-- What one token does to the nodes, if it does so inside of any open elements. -/
theorem sameTree_of_token {opened : List (List Char)} {made others : List Node} {c : Char}
    {text rest : List Char} {found : Token} (read : token c text = (found, rest))
    (step : ∀ frames, openNames frames = opened → ∀ tokens,
      build frames made (found :: tokens) = build frames others tokens) :
    SameTree opened made (c :: text) others rest := by
  intro frames names
  rw [scan_of_token read, step frames names]

def Pending (opened : List (List Char)) (rest : List Char) : Prop :=
  ∃ name, endTagName? rest = some name ∧ opened.any (Text.sameName name) = true

def Rests (opened : List (List Char)) (rest : List Char) : Prop :=
  rest = [] ∨ Pending opened rest

theorem begins_of_endTagName? {text name : List Char} (read : endTagName? text = some name) :
    ∃ rest, text = '<' :: '/' :: rest := by
  obtain ⟨blanks, rest, -, rfl⟩ := endTagName?_sound read
  exact ⟨name ++ blanks ++ '>' :: rest, rfl⟩

theorem scan_endTag {text name : List Char} (read : endTagName? text = some name) :
    scan text = .endTag name (Text.through '>' text).1 :: scan (Text.through '>' text).2 := by
  obtain ⟨rest, rfl⟩ := begins_of_endTagName? read
  cases token_kind '<' ('/' :: rest) with
  | plain closed => simp [opens] at closed
  | endTag _ token_eq =>
      apply scan_of_token
      rw [token_eq, endTagToken, read]
  | declaration _ _ marks => simp at marks
  | element _ _ alpha => contradiction

section Closing

variable {text name : List Char} {pos : Nat}

theorem closing_end (ended : At text pos []) : closing text name pos = .ok (.missing, pos) := by
  simp [closing, ended.ended_iff.2 rfl]

theorem closing_named {found behind : List Char} (here : At text pos behind)
    (read : endTagName? behind = some found) (same : Text.sameName found name = true) :
    Takes text (closing text name pos) (.explicit (Text.through '>' behind).1)
      (Text.through '>' behind).2 := by
  obtain ⟨rest, rfl⟩ := begins_of_endTagName? read
  have inside : ¬byteLength text ≤ pos := Nat.not_le.2 (in_text here)
  obtain ⟨stop, taken, there⟩ := takeThrough_takes here
  exact ⟨stop, by simp [closing, inside, endTagName_at here, read, same, taken], there⟩

theorem closing_other {found behind : List Char} (here : At text pos behind)
    (read : endTagName? behind = some found) (other : Text.sameName found name = false) :
    closing text name pos = .ok (.missing, pos) := by
  obtain ⟨rest, rfl⟩ := begins_of_endTagName? read
  have inside : ¬byteLength text ≤ pos := Nat.not_le.2 (in_text here)
  simp [closing, inside, endTagName_at here, read, other]

theorem closeThrough?_of_named {frames : List Frame}
    (named : (openNames frames).any (Text.sameName name) = true) (source : List Char)
    (nodes : List Node) :
    ∃ outer closed, closeThrough? name source frames nodes = some (outer, closed) := by
  induction frames generalizing nodes with
  | nil => contradiction
  | cons frame frames ih =>
      rw [closeThrough?]
      by_cases same : Text.sameName name frame.tag.name = true
      · exact ⟨_, _, if_pos same⟩
      · rw [if_neg same]
        apply ih
        simpa [openNames, same] using named

theorem closeThrough?_of_unnamed {frames : List Frame}
    (unnamed : (openNames frames).any (Text.sameName name) = false) (source : List Char)
    (nodes : List Node) :
    closeThrough? name source frames nodes = none := by
  induction frames generalizing nodes with
  | nil => rfl
  | cons frame frames ih =>
      simp only [openNames, List.map_cons, List.any_cons, Bool.or_eq_false_iff] at unnamed
      rw [closeThrough?, unnamed.1]
      exact ih unnamed.2 _

theorem build_element_missing {tag : StartTag} {before children : List Node} {frames : List Frame}
    {found source : List Char} (other : Text.sameName found tag.name = false)
    (named : (openNames frames).any (Text.sameName found) = true) (tokens : List Token) :
    build (⟨tag, before⟩ :: frames) children (.endTag found source :: tokens) =
      build frames (.element tag children.reverse .missing :: before)
        (.endTag found source :: tokens) := by
  obtain ⟨outer, closed, closes⟩ :=
    closeThrough?_of_named named source (.element tag children.reverse .missing :: before)
  have inner :
      closeThrough? found source (⟨tag, before⟩ :: frames) children = some (outer, closed) := by
    rw [closeThrough?, other]
    exact closes
  rw [build, inner, build, closes]

/-- An element is closed by the end tag of its name, and otherwise where an element around it is or
the text ends. -/
theorem closing_at {opened : List (List Char)} {tag : StartTag} {behind : List Char}
    (here : At text pos behind) (rests : Rests (tag.name :: opened) behind) :
    ∃ ending stop rest, closing text tag.name pos = .ok (ending, stop) ∧ At text stop rest ∧
      byteLength rest ≤ byteLength behind ∧
      ∀ children before frames, openNames frames = opened →
        build (⟨tag, before⟩ :: frames) children (scan behind) =
          build frames (.element tag children.reverse ending :: before) (scan rest) := by
  rcases rests with rfl | ⟨found, read, named⟩
  · refine ⟨.missing, pos, [], closing_end here, here, Nat.le_refl _, ?_⟩
    intro children before frames _
    rw [scan, build, build, finish, Frame.close]
  · cases same : Text.sameName found tag.name with
    | true =>
        obtain ⟨stop, closed, there⟩ := closing_named here read same
        refine ⟨_, stop, _, closed, there, ?_, ?_⟩
        · have length_eq := congrArg byteLength (Text.through_append '>' behind)
          rw [Text.byteLength_append] at length_eq
          omega
        · intro children before frames _
          rw [scan_endTag read, build, closeThrough?, if_pos same]
          rfl
    | false =>
        refine ⟨.missing, pos, behind, closing_other here read same, here, Nat.le_refl _, ?_⟩
        intro children before frames names
        rw [scan_endTag read]
        apply build_element_missing same
        simpa [names, same] using named

end Closing

inductive Turned (text : List Char) (opened : List (List Char)) (made : List Node)
    (rest : List Char) : Turn → Prop
  | again {others : List Node} {stop : Nat} {behind : List Char} (there : At text stop behind)
      (progress : byteLength behind < byteLength rest)
      (same : SameTree opened made rest others behind) :
      Turned text opened made rest (.again others stop)
  | pending (ended : Pending opened rest) : Turned text opened made rest .pending

def ReadsElement (text : List Char) (opened : List (List Char)) (rest : List Char)
    (result : Except Fault (Node × Nat)) : Prop :=
  ∃ node stop behind, result = .ok (node, stop) ∧ At text stop behind ∧
    byteLength behind < byteLength rest ∧ ∀ made, SameTree opened made rest (node :: made) behind

theorem progress_of_append {front behind rest : List Char} (nonempty : front ≠ [])
    (rest_eq : front ++ behind = rest) :
    byteLength behind < byteLength rest := by
  have front_pos := Text.byteLength_pos nonempty
  rw [← rest_eq, Text.byteLength_append]
  omega

theorem declarationMark_ascii : AsciiClass fun c => c == '!' || c == '?' := by
  intro c member
  simp only [Bool.or_eq_true, beq_iff_eq] at member
  rcases member with rfl | rfl <;> decide

section Turns

variable {text rest : List Char} {reader : Nat → Except Fault (Node × Nat)} {steps pos : Nat}
  {opened : List (List Char)} {made : List Node}

theorem turn_plain {c : Char} (here : At text pos (c :: rest)) (plain : ¬opens (c :: rest) = true)
    (token_eq : token c rest = (.text (c :: (plainRun rest).1), (plainRun rest).2))
    (enough : byteLength (c :: rest) < steps) :
    ∃ result, turn text reader steps opened made pos = .ok result ∧
      Turned text opened made (c :: rest) result := by
  have noMarkup := Bool.eq_false_iff.2 plain
  obtain ⟨stop, read, there⟩ := textRun_takes here noMarkup enough
  refine ⟨.again (addText made (c :: (plainRun rest).1)) stop, ?_, .again there ?_ ?_⟩
  · simp [turn, atMarkup_at here, noMarkup, read, pushText]
  · exact progress_of_append (List.cons_ne_nil c _) (by rw [List.cons_append, plainRun_append])
  · exact sameTree_of_token token_eq fun _ _ _ => by rw [build]

theorem turn_endTag (here : At text pos ('<' :: '/' :: rest))
    (token_eq : token '<' ('/' :: rest) = endTagToken ('<' :: '/' :: rest)) :
    ∃ result, turn text reader steps opened made pos = .ok result ∧
      Turned text opened made ('<' :: '/' :: rest) result := by
  have markup : atMarkup text pos = true := by rw [atMarkup_at here]; rfl
  have slash : sees (· == '/') text (pos + 1) = true :=
    Text.sees_at (Text.asciiClass_mark '/' (by decide)) (here.next (by decide))
  have name_read := endTagName_at here
  obtain ⟨stop, taken, there⟩ := takeThrough_takes here
  have text_eq := Text.through_append '>' ('<' :: '/' :: rest)
  have nonempty : (Text.through '>' ('<' :: '/' :: rest)).1 ≠ [] := by simp [Text.through]
  have progress := progress_of_append nonempty text_eq
  have pushed := congrArg (fun empty : Bool => if empty then made else addText made
    (Text.through '>' ('<' :: '/' :: rest)).1) (List.isEmpty_eq_false_iff.2 nonempty)
  have turn_eq : turn text reader steps opened made pos =
      if (endTagName? ('<' :: '/' :: rest)).any fun name => opened.any (Text.sameName name) then
        .ok .pending
      else .ok (.again (addText made (Text.through '>' ('<' :: '/' :: rest)).1) stop) := by
    rw [← show pushText made _ = addText made _ from pushed]
    simp [turn, markup, slash, name_read, taken]
  rw [endTagToken] at token_eq
  rw [turn_eq]
  cases read : endTagName? ('<' :: '/' :: rest) with
  | none =>
      rw [read] at token_eq
      exact ⟨_, rfl, .again there progress (sameTree_of_token token_eq fun _ _ _ => by rw [build])⟩
  | some name =>
      cases named : opened.any (Text.sameName name) with
      | true => exact ⟨.pending, by simp [named], .pending ⟨name, read, named⟩⟩
      | false =>
          refine ⟨_, by simp only [Option.any_some, named]; rfl, .again there progress ?_⟩
          intro frames names
          rw [scan_endTag read, build, closeThrough?_of_unnamed (by rwa [names])]

theorem comment_takes (made : List Node)
    (here : At text pos ('<' :: '!' :: '-' :: '-' :: rest)) :
    ∃ node, Takes text (comment text pos) node (commentToken rest).2 ∧
      ∀ frames tokens, build frames made ((commentToken rest).1 :: tokens) =
        build frames (node :: made) tokens := by
  have inside : At text (pos + 4) rest :=
    (((here.next (by decide)).next (by decide)).next (by decide)).next (by decide)
  rw [commentToken]
  cases cut : Text.cut? "-->".toList rest with
  | none =>
      refine ⟨.text ('<' :: '!' :: '-' :: '-' :: rest), ⟨_, ?_, Text.at_end text⟩, ?_⟩
      · rw [comment, sliceFrom_at inside, ok_bind, find?_none cut]
        simp [sliceFrom_at here]
      · intro frames tokens
        rw [build]
        rfl
  | some parts =>
      obtain ⟨body, behind⟩ := parts
      have text_eq := Text.append_of_cut? cut
      have body_here : At text (pos + 4) (body ++ ('-' :: '-' :: '>' :: behind)) := by
        rw [text_eq] at inside
        simpa using inside
      have mark_here : At text (pos + 4 + byteLength body) ('-' :: '-' :: '>' :: behind) :=
        body_here.append
      have there : At text (pos + 4 + byteLength body + 3) behind :=
        ((mark_here.next (by decide)).next (by decide)).next (by decide)
      refine ⟨.comment body, ⟨_, ?_, there⟩, ?_⟩
      · rw [comment, sliceFrom_at inside, ok_bind, find?_some cut]
        simp [slice_at body_here mark_here]
      · intro frames tokens
        rw [build]

theorem declaration_takes (made : List Node) {c : Char} (here : At text pos (c :: rest)) :
    ∃ others, Takes text (declaration text made pos) others (declarationToken (c :: rest)).2 ∧
      ∀ frames tokens, build frames made ((declarationToken (c :: rest)).1 :: tokens) =
        build frames others tokens := by
  rw [declarationToken]
  cases cut : Text.cut? ['>'] (c :: rest) with
  | none =>
      refine ⟨addText made (c :: rest), ⟨_, ?_, Text.at_end text⟩, ?_⟩
      · simp [declaration, sliceFrom_at here, find?_none cut, pushText]
      · intro frames tokens
        rw [build]
  | some parts =>
      obtain ⟨body, behind⟩ := parts
      have text_eq := Text.append_of_cut? cut
      have there : At text (pos + byteLength body + 1) behind := by
        rw [text_eq, List.append_assoc] at here
        exact here.append.next (by decide)
      have sliced : slice text pos (pos + byteLength body + 1) = .ok (body ++ ['>']) := by
        rw [text_eq] at here
        exact slice_at here there
      refine ⟨.declaration (body ++ ['>']) :: made, ⟨_, ?_, there⟩, ?_⟩
      · simp [declaration, sliceFrom_at here, find?_some cut, sliced]
      · intro frames tokens
        rw [build]

theorem turn_comment (here : At text pos ('<' :: '!' :: '-' :: '-' :: rest))
    (token_eq : token '<' ('!' :: '-' :: '-' :: rest) = commentToken rest) :
    ∃ result, turn text reader steps opened made pos = .ok result ∧
      Turned text opened made ('<' :: '!' :: '-' :: '-' :: rest) result := by
  have markup : atMarkup text pos = true := by rw [atMarkup_at here]; rfl
  have noSlash : sees (· == '/') text (pos + 1) = false :=
    Text.sees_at (Text.asciiClass_mark '/' (by decide)) (here.next (by decide))
  obtain ⟨node, ⟨stop, read, there⟩, step⟩ := comment_takes made here
  have same : SameTree opened made ('<' :: '!' :: '-' :: '-' :: rest) (node :: made) _ :=
    sameTree_of_token token_eq fun frames _ => step frames
  refine ⟨.again (node :: made) stop, ?_, .again there ?_ same⟩
  · simp [turn, markup, noSlash, sliceFrom_at here, read, Text.dropStart?]
  · exact progress_of_append (commentToken_source_ne_nil rest) (commentToken_append rest)

theorem turn_declaration {mark : Char} (here : At text pos ('<' :: mark :: rest))
    (marks : mark = '!' ∨ mark = '?')
    (noComment : ∀ inner, mark :: rest ≠ '!' :: '-' :: '-' :: inner)
    (token_eq : token '<' (mark :: rest) = declarationToken ('<' :: mark :: rest)) :
    ∃ result, turn text reader steps opened made pos = .ok result ∧
      Turned text opened made ('<' :: mark :: rest) result := by
  have markup : atMarkup text pos = true := by
    rw [atMarkup_at here]
    rcases marks with rfl | rfl <;> rfl
  have behind := here.next (by decide)
  have noSlash : sees (· == '/') text (pos + 1) = false := by
    rw [Text.sees_at (Text.asciiClass_mark '/' (by decide)) behind]
    rcases marks with rfl | rfl <;> rfl
  have seen : sees (fun c => c == '!' || c == '?') text (pos + 1) = true := by
    rw [Text.sees_at declarationMark_ascii behind]
    rcases marks with rfl | rfl <;> rfl
  have absent : Text.dropStart? "<!--".toList ('<' :: mark :: rest) = none := by
    rw [Option.eq_none_iff_forall_ne_some]
    intro inner dropped
    exact noComment inner (List.cons.inj (Text.append_of_dropStart? dropped)).2
  obtain ⟨others, ⟨stop, read, there⟩, step⟩ := declaration_takes made here
  have same : SameTree opened made ('<' :: mark :: rest) others _ :=
    sameTree_of_token token_eq fun frames _ => step frames
  refine ⟨.again others stop, ?_, .again there ?_ same⟩
  · rw [turn, markup, noSlash, sliceFrom_at here, ok_bind, absent, seen, read]
    rfl
  · exact progress_of_append (declarationToken_source_ne_nil '<' _) (declarationToken_append _)

theorem turn_element {letter : Char} (here : At text pos ('<' :: letter :: rest))
    (alpha : letter.isAlpha = true)
    (read : ReadsElement text opened ('<' :: letter :: rest) (reader pos)) :
    ∃ result, turn text reader steps opened made pos = .ok result ∧
      Turned text opened made ('<' :: letter :: rest) result := by
  have markup : atMarkup text pos = true := by
    rw [atMarkup_at here]
    simp [opens, alpha]
  have behind := here.next (by decide)
  have differs : ∀ mark : Char, mark.isAlpha = false → letter ≠ mark := by
    rintro mark noLetter rfl
    rw [noLetter] at alpha
    contradiction
  have noSlash : sees (· == '/') text (pos + 1) = false := by
    rw [Text.sees_at (Text.asciiClass_mark '/' (by decide)) behind]
    simpa using differs '/' (by decide)
  have unseen : sees (fun c => c == '!' || c == '?') text (pos + 1) = false := by
    rw [Text.sees_at declarationMark_ascii behind]
    simpa using And.intro (differs '!' (by decide)) (differs '?' (by decide))
  have absent : Text.dropStart? "<!--".toList ('<' :: letter :: rest) = none := by
    simp [Text.dropStart?, Ne.symm (differs '!' (by decide))]
  obtain ⟨node, stop, following, element_read, there, progress, same⟩ := read
  refine ⟨.again (node :: made) stop, ?_, .again there progress (same made)⟩
  rw [turn, markup, noSlash, sliceFrom_at here, ok_bind, absent, unseen, element_read]
  rfl

theorem turn_at {c : Char} (here : At text pos (c :: rest))
    (enough : byteLength (c :: rest) < steps)
    (elements : ∀ letter following, c :: rest = '<' :: letter :: following →
      letter.isAlpha = true → ReadsElement text opened (c :: rest) (reader pos)) :
    ∃ result, turn text reader steps opened made pos = .ok result ∧
      Turned text opened made (c :: rest) result := by
  cases token_kind c rest with
  | plain closed token_eq => exact turn_plain here closed token_eq enough
  | endTag rest token_eq => exact turn_endTag here token_eq
  | comment rest token_eq => exact turn_comment here token_eq
  | declaration mark rest marks noComment token_eq =>
      exact turn_declaration here marks noComment token_eq
  | element letter rest alpha _ => exact turn_element here alpha (elements letter rest rfl alpha)

end Turns

section Recursion

variable {text : List Char} {steps : Nat}

/-- Whether so many steps are enough to read nodes, up to the end or to an end tag that an element
around them takes. -/
def NodesRead (text : List Char) (steps : Nat) : Prop :=
  ∀ {opened made pos rest}, At text pos rest → 2 * byteLength rest + 2 ≤ steps →
    ∃ others stop behind, nodes text steps opened made pos = .ok (others.reverse, stop) ∧
      At text stop behind ∧ byteLength behind ≤ byteLength rest ∧
      SameTree opened made rest others behind ∧ Rests opened behind

def ElementsRead (text : List Char) (steps : Nat) : Prop :=
  ∀ {opened pos letter rest}, At text pos ('<' :: letter :: rest) → letter.isAlpha = true →
    2 * byteLength ('<' :: letter :: rest) + 1 ≤ steps →
    ReadsElement text opened ('<' :: letter :: rest) (element text steps opened pos)

theorem nodes_step (nodesRead : NodesRead text steps) (elementsRead : ElementsRead text steps) :
    NodesRead text (steps + 1) := by
  intro opened made pos rest here enough
  cases rest with
  | nil =>
      refine ⟨made, pos, [], ?_, here, Nat.le_refl _, fun _ _ => rfl, .inl rfl⟩
      simp [nodes, here.ended_iff.2 rfl]
  | cons c rest =>
      have inside : ¬byteLength text ≤ pos := Nat.not_le.2 (in_text here)
      have elements : ∀ letter following, c :: rest = '<' :: letter :: following →
          letter.isAlpha = true →
          ReadsElement text opened (c :: rest) (element text steps opened pos) := by
        intro letter following rest_eq alpha
        rw [rest_eq] at here enough ⊢
        exact elementsRead here alpha (by omega)
      obtain ⟨result, turn_eq, turned⟩ : ∃ result,
          turn text (fun pos => element text steps opened pos) steps opened made pos = .ok result ∧
            Turned text opened made (c :: rest) result :=
        turn_at here (by omega) elements
      cases turned with
      | pending ended =>
          refine ⟨made, pos, c :: rest, ?_, here, Nat.le_refl _, fun _ _ => rfl, .inr ended⟩
          simp [nodes, inside, turn_eq]
      | @again others stop behind there progress same =>
          obtain ⟨further, reached, following, read, reached_there, shorter, same_further, rests⟩ :=
            nodesRead there (by omega)
          refine ⟨further, reached, following, ?_, reached_there, by omega, same.trans same_further,
            rests⟩
          simp [nodes, inside, turn_eq, read]

theorem names_length {opened : List (List Char)} {frames : List Frame}
    (names : openNames frames = opened) :
    frames.length = opened.length := by
  rw [← names, openNames, List.length_map]

theorem rawElement_token (tag : StartTag) (text : List Char) :
    ∃ body closing behind, rawElement tag text = (.rawElement tag body closing, behind) := by
  rw [rawElement]
  split <;> exact ⟨_, _, _, rfl⟩

section Element

variable {rest following : List Char} {opened : List (List Char)} {pos inside : Nat}
  {letter : Char} {tag : StartTag} {selfClosing : Bool}

/-- Below the deepest level the rest of the text is one node, whatever token it begins with. -/
theorem build_deep (alpha : letter.isAlpha = true) {frames : List Frame}
    (deep : maxDepth ≤ frames.length) (made : List Node) :
    build frames made (scan ('<' :: letter :: rest)) =
      finish frames (.text ('<' :: letter :: rest) :: made) := by
  have token_eq := token_letter alpha rest
  have whole : sources (scan ('<' :: letter :: rest)) = '<' :: letter :: rest := scan_sources _
  rw [elementToken_eq] at token_eq
  cases read : tagRead? (letter :: rest) with
  | none =>
      rw [read] at token_eq
      rw [scan_of_token token_eq, scan, build, build]
  | some found =>
      obtain ⟨⟨tag, selfClosing⟩, following⟩ := found
      rw [read] at token_eq
      dsimp only at token_eq
      split at token_eq
      · obtain ⟨body, closing, behind, raw_eq⟩ := rawElement_token tag following
        rw [raw_eq] at token_eq
        rw [scan_of_token token_eq] at whole ⊢
        rw [build_rawElement, if_pos deep, whole]
      · rw [scan_of_token token_eq] at whole ⊢
        rw [build, if_pos deep, whole]

theorem element_deep (deep : maxDepth ≤ opened.length)
    (here : At text pos ('<' :: letter :: rest)) (alpha : letter.isAlpha = true) :
    ReadsElement text opened ('<' :: letter :: rest) (element text (steps + 1) opened pos) := by
  refine ⟨.text ('<' :: letter :: rest), _, [], ?_, Text.at_end text, ?_, ?_⟩
  · simp [element, deep, sliceFrom_at here]
  · exact Text.byteLength_pos (List.cons_ne_nil _ _)
  · intro made frames names
    rw [build_deep alpha (by rwa [names_length names]), scan, build]

variable (shallow : ¬maxDepth ≤ opened.length) (here : At text pos ('<' :: letter :: rest))
  (alpha : letter.isAlpha = true)

section

include shallow here alpha

theorem element_unfinished (unread : tagRead? (letter :: rest) = none)
    (unread_here : startTag text steps pos = .ok none) :
    ReadsElement text opened ('<' :: letter :: rest) (element text (steps + 1) opened pos) := by
  have token_eq := token_letter alpha rest
  rw [elementToken_eq, unread] at token_eq
  refine ⟨.text ('<' :: letter :: rest), _, [], ?_, Text.at_end text, ?_, ?_⟩
  · simp [element, shallow, unread_here, sliceFrom_at here]
  · exact Text.byteLength_pos (List.cons_ne_nil _ _)
  · exact fun made => sameTree_of_token token_eq fun _ _ _ => by rw [build]

end

theorem tag_progress (read : tagRead? (letter :: rest) = some ((tag, selfClosing), following)) :
    byteLength following < byteLength ('<' :: letter :: rest) := by
  have progress := tagRead?_progress read
  rw [Text.byteLength_cons]
  omega

section Read

variable (read : tagRead? (letter :: rest) = some ((tag, selfClosing), following))
  (there : At text inside following)
  (read_here : startTag text steps pos = .ok (some ((tag, selfClosing), inside)))
include shallow alpha read there read_here

theorem element_selfClosing (closes : selfClosing = true) :
    ReadsElement text opened ('<' :: letter :: rest) (element text (steps + 1) opened pos) := by
  subst closes
  have token_eq := token_letter alpha rest
  rw [elementToken_eq, read] at token_eq
  refine ⟨.element tag [] .selfClosing, inside, following, ?_, there, tag_progress read, ?_⟩
  · simp [element, shallow, read_here]
  · intro made
    refine sameTree_of_token token_eq fun frames names tokens => ?_
    rw [build, if_neg (by rwa [names_length names]), if_pos rfl]

theorem element_void (opens : selfClosing = false) (void : Vocabulary.isVoid tag.name = true) :
    ReadsElement text opened ('<' :: letter :: rest) (element text (steps + 1) opened pos) := by
  subst opens
  have noRaw : Vocabulary.isRawText tag.name = false := by
    apply Bool.eq_false_iff.2
    intro raw
    rw [void_not_raw raw] at void
    contradiction
  have token_eq := token_letter alpha rest
  simp only [elementToken_eq, read, noRaw] at token_eq
  refine ⟨.element tag [] .void, inside, following, ?_, there, tag_progress read, ?_⟩
  · simp [element, shallow, read_here, void]
  · intro made
    refine sameTree_of_token token_eq fun frames names tokens => ?_
    rw [build, if_neg (by rwa [names_length names]), if_neg (by simp), if_pos void]

theorem element_raw (opens : selfClosing = false)
    (raw : Vocabulary.isRawText tag.name = true) (enough : byteLength following < steps) :
    ReadsElement text opened ('<' :: letter :: rest) (element text (steps + 1) opened pos) := by
  subst opens
  have token_eq := token_letter alpha rest
  obtain ⟨body, closing, behind, raw_eq, stop, content_read, behind_there⟩ :=
    rawContent_takes raw there enough
  simp only [elementToken_eq, read, raw, raw_eq] at token_eq
  have shorter := rawElement_progress raw_eq
  have progress := tag_progress read
  refine ⟨rawNode tag body closing, stop, behind, ?_, behind_there, by omega, ?_⟩
  · simp [element, shallow, read_here, void_not_raw raw, raw, content_read]
  · intro made
    refine sameTree_of_token token_eq fun frames names tokens => ?_
    rw [build_rawElement, if_neg (by rwa [names_length names])]

theorem element_nested (opens : selfClosing = false) (noVoid : Vocabulary.isVoid tag.name = false)
    (noRaw : Vocabulary.isRawText tag.name = false)
    (nodesRead : NodesRead text steps) (enough : 2 * byteLength following + 2 ≤ steps) :
    ReadsElement text opened ('<' :: letter :: rest) (element text (steps + 1) opened pos) := by
  subst opens
  have token_eq := token_letter alpha rest
  simp only [elementToken_eq, read, noRaw] at token_eq
  obtain ⟨children, stop, behind, nodes_read, behind_there, shorter, same, rests⟩ :
      ∃ others stop behind, nodes text steps (tag.name :: opened) [] inside =
          .ok (others.reverse, stop) ∧ At text stop behind ∧
        byteLength behind ≤ byteLength following ∧
        SameTree (tag.name :: opened) [] following others behind ∧
        Rests (tag.name :: opened) behind := nodesRead there enough
  obtain ⟨ending, final, last, closing_read, last_there, also_shorter, closed⟩ :=
    closing_at behind_there rests
  have progress := tag_progress read
  refine ⟨.element tag children.reverse ending, final, last, ?_, last_there, by omega, ?_⟩
  · simp [element, shallow, read_here, noVoid, noRaw, nodes_read, closing_read]
  · intro made frames names
    have inner_names : openNames (⟨tag, made⟩ :: frames) = tag.name :: opened :=
      congrArg (tag.name :: ·) names
    rw [scan_of_token token_eq, build, if_neg (by rwa [names_length names]), if_neg (by simp),
      if_neg (by simp [noVoid]), same _ inner_names, closed children made frames names]

end Read

end Element

theorem element_step (nodesRead : NodesRead text steps) : ElementsRead text (steps + 1) := by
  intro opened pos letter rest here alpha enough
  have some_byte := Text.byteLength_pos (List.cons_ne_nil '<' (letter :: rest))
  by_cases deep : maxDepth ≤ opened.length
  · exact element_deep deep here alpha
  · have offered := startTag_offers here (show byteLength ('<' :: letter :: rest) < steps by omega)
    cases read : tagRead? (letter :: rest) with
    | none =>
        rw [read] at offered
        exact element_unfinished deep here alpha read offered
    | some found =>
        obtain ⟨⟨tag, selfClosing⟩, following⟩ := found
        rw [read] at offered
        obtain ⟨inside, read_here, there⟩ := offered
        have progress := tag_progress read
        cases selfClosing with
        | true => exact element_selfClosing deep alpha read there read_here rfl
        | false =>
            cases void : Vocabulary.isVoid tag.name with
            | true => exact element_void deep alpha read there read_here rfl void
            | false =>
                cases raw : Vocabulary.isRawText tag.name with
                | true => exact element_raw deep alpha read there read_here rfl raw (by omega)
                | false =>
                    exact element_nested deep alpha read there read_here rfl void raw nodesRead
                      (by omega)

theorem nodes_and_elements (text : List Char) (steps : Nat) :
    NodesRead text steps ∧ ElementsRead text steps := by
  induction steps with
  | zero =>
      constructor
      · intro _ _ _ _ _ enough
        omega
      · intro _ _ _ _ _ _ enough
        omega
  | succ steps ih => exact ⟨nodes_step ih.1 ih.2, element_step ih.1⟩

end Recursion

end Cursor
end Markup
end MarkupTemplate
