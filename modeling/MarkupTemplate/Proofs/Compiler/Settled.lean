import MarkupTemplate.Proofs.Compiler.KeptTag
import MarkupTemplate.Proofs.Compiler.Undirected
import MarkupTemplate.Proofs.Compiler.Unrolling

/-!
Templates whose output is read back as the elements that were rendered, which carry no directives.
Leaving out elements and replacing markers brings texts together that stood apart; a template is
settled if no `<` in it can become a start tag that way.
-/

namespace MarkupTemplate

open Markup

def Closing.isExplicit : Closing → Bool
  | .explicit _ => true
  | _ => false

namespace Compiler

def shutsText (body : List Char) : Bool :=
  match Piece.split body with
  | .literal c :: _ => !opens ['<', c]
  | _ => false

/-- Whether a `<` stays a character of its own in front of rendered nodes, however many copies of
the elements with directives there are. `shut` tells the same of what follows the nodes. -/
def shuts (compiler : Compiler) (shut : Bool) : List Node → Bool
  | [] => shut
  | .element tag _ _ :: nodes => compiler.undirectedTag tag || shuts compiler shut nodes
  | .text body :: _ => shutsText body
  | .comment _ :: _ => true
  | .declaration _ :: _ => true

/-- Whether a text adds no start tag to the output. Constructs that the template ends in the middle
of, and text past the nesting limit, may only stand where the output ends; `last` tells that. -/
def settledBody (compiler : Compiler) (shut last : Bool) (body : List Char) : Bool :=
  settledText body && (body.getLast? != some '<' || shut) ||
    last && (staysText body || !hasMarker body && compiler.undirected body)

def hidesMarkers (tag : StartTag) (children : List Node) : Bool :=
  children.all fun
    | .text body => !(Part.markup (.rawElement tag body none)).exposes []
    | _ => true

mutual

/-- Whether the start tags of a rendered node are read back, and no others. `shut` and `last` tell
of what follows it whether a `<` stays a character of its own there, and whether it is nothing. -/
def settled (compiler : Compiler) (shut last : Bool) : Node → Bool
  | .element tag children closing =>
      let last := last && (tag.attr? compiler.repeatAttr).isNone
      (compiler.strippedTag tag).separated closing.tagEnd &&
        if Vocabulary.isRawText tag.name && closing != .selfClosing then
          hidesMarkers tag children && (closing.isExplicit || last)
        else
          settledAll compiler (closing.isExplicit || shut) (!closing.isExplicit && last) children
  | .text body => compiler.settledBody shut last body
  | .comment _ => true
  | .declaration _ => true

def settledAll (compiler : Compiler) (shut last : Bool) : List Node → Bool
  | [] => true
  | node :: nodes =>
      settled compiler (shuts compiler shut nodes) (last && nodes.isEmpty) node &&
        settledAll compiler shut last nodes

end

structure Follows (compiler : Compiler) (shut last : Bool) (following : List Char) : Prop where
  shuts : shut = true → opens ('<' :: following) = false
  ends : last = true → following = []
  undirected : compiler.undirected following = true

structure Readable (node : Node) : Prop where
  spelled : Spelled node
  escaped : ∀ tag children closing, node = .element tag children closing →
    tag.Shaped ∧ Vocabulary.isUnescapedText tag.name = false

section Rendering

variable (compiler : Compiler)

theorem render_text_sources (body : List Char) (scope : Scope) :
    Node.sources (compiler.render .escaped (.text body) scope).nodes =
      interpolate .escaped scope body := by
  simp [render, Node.sources, Node.source]

theorem render_declaration_sources (source : List Char) (scope : Scope) :
    Node.sources (compiler.render .escaped (.declaration source) scope).nodes = source := by
  simp [render, Node.sources, Node.source]

theorem undirected_keptTag (tag : StartTag) (scope : Scope) :
    compiler.undirectedTag (compiler.keptTag tag scope) = true := by
  rw [undirectedTag, List.all_eq_true]
  intro attr member
  obtain ⟨original, kept, rfl⟩ := List.mem_map.1 member
  exact (List.mem_filter.1 kept).2

/-- The copies of an element in the output are nothing, or begin with its start tag. -/
theorem visited_head (tag : StartTag) (children : List Node) (closing : Closing)
    (visits : List Visit) :
    Node.sources (Rendered.concat (visits.map (compiler.visited tag children closing))).nodes = [] ∨
      (Node.sources (Rendered.concat
        (visits.map (compiler.visited tag children closing))).nodes).head? = some '<' := by
  induction visits with
  | nil => exact .inl rfl
  | cons visit visits ih =>
      cases visit with
      | keep kept inner => exact .inr rfl
      | skip => exact ih
      | report diagnostic => exact ih

theorem opens_before_head {text following : List Char}
    (head : text = [] ∨ text.head? = some '<') (shut : opens ('<' :: following) = false) :
    opens ('<' :: (text ++ following)) = false := by
  rcases head with rfl | starts
  · exact shut
  · apply border_not_opens
    right
    rw [List.head?_append, starts]
    rfl

theorem visits_of_undirected {tag : StartTag} (plain : compiler.undirectedTag tag = true)
    (scope : Scope) :
    compiler.visits tag scope = [.keep (compiler.keptTag tag scope) scope] := by
  have unnamed : ∀ attr ∈ tag.attrs, attr.isNamed compiler.repeatAttr = false ∧
      attr.isNamed compiler.conditionAttr = false := by
    intro attr member
    have directive := List.all_eq_true.1 plain attr member
    rw [Bool.not_eq_true', isDirective, Bool.or_eq_false_iff] at directive
    exact directive
  have unrepeated : tag.attr? compiler.repeatAttr = none :=
    List.find?_eq_none.2 fun attr member => by simp [(unnamed attr member).1]
  have unconditional : tag.attr? compiler.conditionAttr = none :=
    List.find?_eq_none.2 fun attr member => by simp [(unnamed attr member).2]
  rw [visits, unrepeated]
  simp only [visit, unconditional]

theorem shutsText_written {body : List Char} (shut : shutsText body = true) (scope : Scope)
    (following : List Char) :
    opens ('<' :: (interpolate .escaped scope body ++ following)) = false := by
  unfold shutsText at shut
  split at shut
  · next c pieces split_eq =>
      have plain : opens ['<', c] = false := by simpa using shut
      rw [interpolate, split_eq]
      exact opens_of_second.trans plain
  · contradiction

theorem declaration_head {source : List Char} (spelled : Spelled (.declaration source)) :
    source.head? = some '<' := by
  obtain ⟨mark, text, rest, _, _, read⟩ := spelled
  have text_eq := declarationToken_append ('<' :: mark :: text)
  have nonempty := declarationToken_source_ne_nil '<' (mark :: text)
  rw [read] at text_eq nonempty
  change source ++ rest = _ at text_eq
  cases source with
  | nil => exact absurd rfl nonempty
  | cons c source => rw [(List.cons.inj text_eq).1]; rfl

/-- Nodes that shut a `<` keep it a character of its own, whatever they are rendered to. -/
theorem shuts_renderAll
    {nodes : List Node} {shut : Bool} {following : List Char}
    (readable : ∀ node ∈ nodes, Readable node) (settled : compiler.shuts shut nodes = true)
    (border : shut = true → opens ('<' :: following) = false) (scope : Scope) :
    opens ('<' :: (Node.sources (compiler.renderAll .escaped nodes scope).nodes ++ following)) =
      false := by
  induction nodes with
  | nil => exact border settled
  | cons node nodes ih =>
      have rest := ih fun other member => readable other (by simp [member])
      rw [renderAll, Rendered.append, Node.sources_append, List.append_assoc]
      cases node with
      | element tag children closing =>
          rw [render_element]
          rw [shuts, Bool.or_eq_true] at settled
          rcases settled with plain | settled
          · rw [visits_of_undirected compiler plain]
            rfl
          · exact opens_before_head (visited_head compiler tag children closing _) (rest settled)
      | text body =>
          rw [render_text_sources]
          exact shutsText_written settled scope _
      | comment body =>
          rw [render]
          rfl
      | declaration source =>
          rw [render_declaration_sources]
          apply border_not_opens
          right
          rw [List.head?_append, declaration_head (readable _ (by simp)).spelled]
          rfl

/-- Whether a node adds no start tag with a directive to what follows it where it is settled. -/
def StaysUndirected (node : Node) : Prop :=
  ∀ (shut last : Bool) (scope : Scope) (following : List Char),
    compiler.settled shut last node = true → compiler.Follows shut last following →
      compiler.undirected
        (Node.sources (compiler.render .escaped node scope).nodes ++ following) = true

theorem undirected_renderAll
    {nodes : List Node} {shut last : Bool} {following : List Char}
    (readable : ∀ node ∈ nodes, Readable node)
    (stays : ∀ node ∈ nodes, compiler.StaysUndirected node)
    (settled : compiler.settledAll shut last nodes = true)
    (follows : compiler.Follows shut last following) (scope : Scope) :
    compiler.undirected
      (Node.sources (compiler.renderAll .escaped nodes scope).nodes ++ following) = true := by
  induction nodes with
  | nil => exact follows.undirected
  | cons node nodes ih =>
      have readable_rest : ∀ other ∈ nodes, Readable other :=
        fun other member => readable other (by simp [member])
      simp only [settledAll, Bool.and_eq_true] at settled
      rw [renderAll, Rendered.append, Node.sources_append, List.append_assoc]
      -- the output of the nodes behind it is what follows the first node
      apply stays node (by simp) _ _ scope _ settled.1
      refine ⟨?_, ?_, ?_⟩
      · intro shut_rest
        exact shuts_renderAll compiler readable_rest shut_rest follows.shuts scope
      · intro last_rest
        rw [Bool.and_eq_true, List.isEmpty_iff] at last_rest
        obtain ⟨ended, rfl⟩ := last_rest
        exact follows.ends ended
      · exact ih readable_rest (fun other member => stays other (by simp [member])) settled.2

theorem text_stays (body : List Char) : compiler.StaysUndirected (.text body) := by
  intro shut last scope following settled follows
  rw [render_text_sources]
  simp only [Compiler.settled, settledBody, Bool.or_eq_true, Bool.and_eq_true, bne_iff_ne,
    ne_eq, Bool.not_eq_true'] at settled
  rcases settled with ⟨settled, border⟩ | ⟨ended, settled⟩
  · rw [undirected_settled compiler scope settled fun last =>
      follows.shuts (border.resolve_left fun other => other last)]
    exact follows.undirected
  · rw [follows.ends ended, List.append_nil]
    rcases settled with stays | ⟨unmarked, plain⟩
    · exact undirected_stays compiler stays scope
    · rw [interpolate_of_no_marker unmarked]
      exact plain

theorem comment_stays {body : List Char} (spelled : Spelled (.comment body)) :
    compiler.StaysUndirected (.comment body) := by
  intro shut last scope following _ follows
  obtain ⟨text, rest, read⟩ := spelled
  have source_eq : Node.sources (compiler.render .escaped (.comment body) scope).nodes =
      Node.commentSource body := by
    simp [render, Node.sources, Node.source]
  rw [source_eq, undirected_comment compiler read]
  exact follows.undirected

theorem declaration_stays {source : List Char} (spelled : Spelled (.declaration source)) :
    compiler.StaysUndirected (.declaration source) := by
  intro shut last scope following _ follows
  obtain ⟨mark, text, rest, marks, noComment, read⟩ := spelled
  rw [render_declaration_sources, undirected_declaration compiler marks noComment read]
  exact follows.undirected

theorem rawContent_rendered (body : List Char) (scope : Scope) :
    Node.sources (compiler.renderAll .escaped (if body.isEmpty then [] else [.text body])
      scope).nodes = interpolate .escaped scope body := by
  cases body with
  | nil => simp [renderAll, Rendered.empty, Node.sources, interpolate, Piece.split]
  | cons c body =>
      simp [renderAll, render, Rendered.append, Rendered.empty, Node.sources, Node.source]

theorem rawContent_hidden {tag : StartTag} {body : List Char}
    (hidden : hidesMarkers tag (if body.isEmpty then [] else [.text body]) = true) :
    (Part.markup (.rawElement tag body none)).exposes [] = false := by
  cases body with
  | nil => simp [Part.exposes, Piece.split, behindOpening]
  | cons c body => simpa [hidesMarkers] using hidden

/-- A raw text element is read back with its content. -/
theorem raw_kept_undirected
    {tag : StartTag} {children : List Node} {closing : Closing} {kept : StartTag}
    (content : RawContent tag children closing) (name_eq : kept.name = tag.name)
    (shaped : kept.Shaped) (apart : kept.separated (Token.tagEnd false) = true)
    (plain : compiler.undirectedTag kept = true)
    (raw : Vocabulary.isRawText tag.name = true) (hidden : hidesMarkers tag children = true)
    {following : List Char} (ends : closing = .missing → following = [])
    (undirected : compiler.undirected following = true) (scope : Scope) :
    compiler.undirected (kept.source ++ '>' ::
      (Node.sources (compiler.renderAll .escaped children scope).nodes ++
        (closing.source ++ following))) = true := by
  rw [← name_eq] at raw
  cases content with
  | unclosed _ =>
      have cut := rawBody_interpolate scope (.inl rfl) (.inl rfl) (rawContent_hidden hidden)
      rw [List.append_nil, ← name_eq] at cut
      have nothing : Closing.missing.source = [] := rfl
      rw [rawContent_rendered, ends rfl, nothing, List.append_nil, List.append_nil,
        undirected_rawUnclosed compiler shaped apart raw cut]
      exact plain
  | @closed body name blanks rest shape same _ =>
      have stop : endsRaw tag.name (endTagText name blanks ++ '>' :: following) = true := by
        rw [endsRaw, endTagName?_exact shape, Option.any_some, same]
      have cut := rawBody_interpolate scope (.inr rfl) (.inr stop) (rawContent_hidden hidden)
      rw [← name_eq] at cut
      rw [rawContent_rendered, Closing.source, List.append_assoc, List.singleton_append,
        undirected_rawClosed compiler shaped apart raw shape cut, plain, undirected]
      rfl

/-- What follows the content of an element. -/
theorem follows_content
    {closing : Closing} {shut last : Bool} {following : List Char}
    (ended : ∀ source, closing = .explicit source → EndTagSource source)
    (follows : compiler.Follows shut last following) :
    compiler.Follows (closing.isExplicit || shut) (!closing.isExplicit && last)
      (closing.source ++ following) := by
  cases closing with
  | explicit source =>
      refine ⟨?_, by simp [Closing.isExplicit], ?_⟩
      · obtain ⟨name, blanks, shape, rfl⟩ := ended source rfl
        exact fun _ => rfl
      · rw [Closing.source, undirected_endTag compiler (ended source rfl)]
        exact follows.undirected
  | _ => exact follows

section Element

variable {compiler} {tag : StartTag} {children : List Node} {closing : Closing} {shut last : Bool}
  (readable : ∀ inner ∈ (Node.element tag children closing).preorder, Readable inner)
  (stays : ∀ node ∈ children, compiler.StaysUndirected node)
  (settled : compiler.settled shut last (.element tag children closing) = true)

include readable stays settled

/-- A kept element adds no start tag with a directive to what follows it. -/
theorem kept_undirected
    {following : List Char}
    (follows :
      compiler.Follows shut (last && (tag.attr? compiler.repeatAttr).isNone) following)
    (scope : Scope) :
    compiler.undirected (Node.source (.element (compiler.keptTag tag scope)
      (compiler.renderAll tag.insertion children scope).nodes closing) ++ following) = true := by
  have here := readable _ (Node.mem_preorder _)
  obtain ⟨shaped, escaped⟩ := here.escaped tag children closing rfl
  obtain ⟨ended, content⟩ := here.spelled
  have insertion_eq : tag.insertion = .escaped := by
    rw [StartTag.insertion, escaped]
    rfl
  have name_eq : (compiler.keptTag tag scope).name = tag.name := rfl
  have kept_shaped := keptTag_shaped shaped compiler scope
  have plain := undirected_keptTag compiler tag scope
  rw [Compiler.settled, Bool.and_eq_true] at settled
  have apart := settled.1
  rw [← keptTag_separated compiler tag scope, tagEnd_eq] at apart
  rw [Node.source, tagEnd_eq, insertion_eq]
  simp only [List.append_assoc]
  -- a raw text element is one token, any other is a start tag with its content behind it
  by_cases raw : (Vocabulary.isRawText tag.name && closing != .selfClosing) = true
  · rw [if_pos raw, Bool.and_eq_true, Bool.or_eq_true] at settled
    rw [Bool.and_eq_true, bne_iff_ne] at raw
    obtain ⟨raw, opened⟩ := raw
    obtain ⟨hidden, placed⟩ := settled.2
    rw [beq_eq_false_iff_ne.2 opened] at apart ⊢
    have unclosed_ends : closing = .missing → following = [] := by
      rintro rfl
      exact follows.ends (placed.resolve_left Bool.false_ne_true)
    exact raw_kept_undirected compiler ((content raw).resolve_left opened) name_eq kept_shaped
      apart plain raw hidden unclosed_ends follows.undirected scope
  · rw [if_neg raw] at settled
    have cooked : (!(closing == .selfClosing) &&
        Vocabulary.isRawText (compiler.keptTag tag scope).name) = false := by
      rw [Bool.and_comm]
      exact Bool.eq_false_iff.2 raw
    have children_readable : ∀ node ∈ children, Readable node := fun node member =>
      readable node
        (List.mem_cons_of_mem _ (Node.mem_preorders.2 ⟨node, member, node.mem_preorder⟩))
    rw [undirected_startTag compiler kept_shaped apart cooked, plain, Bool.true_and]
    exact undirected_renderAll compiler children_readable stays settled.2
      (follows_content compiler ended follows) scope

/-- Nor do all its copies, of which there is one at most unless the element repeats. -/
theorem visits_undirected
    {visits : List Visit} {following : List Char}
    (kept_eq : ∀ kept inner, .keep kept inner ∈ visits → kept = compiler.keptTag tag inner)
    (once : (tag.attr? compiler.repeatAttr).isNone = true → visits.length ≤ 1)
    (follows : compiler.Follows shut last following) :
    compiler.undirected (Node.sources (Rendered.concat
      (visits.map (compiler.visited tag children closing))).nodes ++ following) = true := by
  induction visits with
  | nil => exact follows.undirected
  | cons visit visits ih =>
      have rest := ih (fun kept inner member => kept_eq kept inner (List.mem_cons_of_mem _ member))
        fun unrepeated => (Nat.le_succ _).trans (once unrepeated)
      cases visit with
      | skip => exact rest
      | report diagnostic => exact rest
      | keep kept inner =>
          have copies_eq : Node.sources (Rendered.concat
              ((.keep kept inner :: visits).map (compiler.visited tag children closing))).nodes =
              Node.source (.element kept
                (compiler.renderAll tag.insertion children inner).nodes closing) ++
                Node.sources (Rendered.concat
                  (visits.map (compiler.visited tag children closing))).nodes := rfl
          rw [copies_eq, List.append_assoc, kept_eq kept inner (by simp)]
          -- what follows this copy is the copies behind it and then `following`
          refine kept_undirected readable stays settled ⟨?_, ?_, rest⟩ inner
          · intro shuts
            exact opens_before_head (visited_head compiler tag children closing visits)
              (follows.shuts shuts)
          · intro ends
            rw [Bool.and_eq_true] at ends
            have none_left : visits = [] := by
              simpa using once ends.2
            rw [none_left, follows.ends ends.1]
            rfl

end Element

theorem render_stays (node : Node) (readable : ∀ inner ∈ node.preorder, Readable inner) :
    compiler.StaysUndirected node := by
  induction node using Node.tree_induction with
  | element tag children closing ih =>
      intro shut last scope following settled follows
      have stays : ∀ node ∈ children, compiler.StaysUndirected node := fun node member =>
        ih node member fun inner below =>
          readable inner (List.mem_cons_of_mem _ (Node.mem_preorders.2 ⟨node, member, below⟩))
      rw [render_element]
      apply visits_undirected readable stays settled (fun _ _ => kept_of_visits) _ follows
      intro unrepeated
      rw [visits, Option.isNone_iff_eq_none.1 unrepeated]
      exact Nat.le_refl 1
  | text body => exact text_stays compiler body
  | comment body => exact comment_stays compiler (readable _ (Node.mem_preorder _)).spelled
  | declaration source =>
      exact declaration_stays compiler (readable _ (Node.mem_preorder _)).spelled

theorem readable_parse
    {template : List Char}
    (escaped : ∀ tag ∈ Node.startTags (parse template),
      Vocabulary.isUnescapedText tag.name = false) :
    Holds Readable (parse template) := by
  intro node inside
  refine ⟨spelled_parse template node inside, ?_⟩
  rintro tag children closing rfl
  exact ⟨(parsed_tag_sound inside).1, escaped tag (Node.startTag_mem inside)⟩

/-- The output of a settled template holds no start tag with a directive. -/
theorem undirected_compile
    {template : List Char}
    (escaped : ∀ tag ∈ Node.startTags (parse template),
      Vocabulary.isUnescapedText tag.name = false)
    (settled : compiler.settledAll true true (parse template) = true) (data : Json) :
    compiler.undirected (compiler.compile template data) = true := by
  have readable := readable_parse escaped
  have within : ∀ node ∈ parse template, ∀ inner ∈ node.preorder,
      inner ∈ Node.preorders (parse template) :=
    fun node member inner below => Node.mem_preorders.2 ⟨node, member, below⟩
  have written := undirected_renderAll compiler
    (fun node member => readable node (within node member node node.mem_preorder))
    (fun node member => render_stays compiler node fun inner below =>
      readable inner (within node member inner below))
    settled ⟨fun _ => rfl, fun _ => rfl, compiler.undirected_nil⟩ (Scope.root data)
  rw [List.append_nil] at written
  exact written

end Rendering

end Compiler
end MarkupTemplate
