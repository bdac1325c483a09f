import MarkupTemplate.Proofs.Markup.OpenElements
import MarkupTemplate.Proofs.Markup.RoundTrip

/-!
The occurrences of elements in a tree: each with the elements around it and the text behind it. An
element whose end tag is missing ends where the input does, or in front of the end tag of an element
around it. Nesting establishes this for an element when it closes it, from what is left of the
input, and never touches it again.
-/

namespace MarkupTemplate

structure Occurrence where
  /-- The names of the elements around it, the innermost first. -/
  enclosing : List (List Char)
  tag : StartTag
  children : List Node
  closing : Closing
  /-- All that is written behind the element. -/
  following : List Char

def Occurrence.node (element : Occurrence) : Node :=
  .element element.tag element.children element.closing

namespace Node

mutual

def occurrences (enclosing : List (List Char)) (following : List Char) : Node → List Occurrence
  | .element tag children closing =>
      ⟨enclosing, tag, children, closing, following⟩ ::
        allOccurrences (tag.name :: enclosing) (closing.source ++ following) children
  | .text _ => []
  | .comment _ => []
  | .declaration _ => []

def allOccurrences (enclosing : List (List Char)) (following : List Char) :
    List Node → List Occurrence
  | [] => []
  | node :: nodes =>
      node.occurrences enclosing (sources nodes ++ following) ++
        allOccurrences enclosing following nodes

end

theorem allOccurrences_append (enclosing : List (List Char)) (following : List Char)
    (first second : List Node) :
    allOccurrences enclosing following (first ++ second) =
      allOccurrences enclosing (sources second ++ following) first ++
        allOccurrences enclosing following second := by
  induction first with
  | nil => rfl
  | cons node nodes ih => simp [allOccurrences, ih, sources_append]

def isElement (node : Node) : Bool :=
  node.startTag?.isSome

mutual

/-- Every element of a tree occurs once, in the order of the tree. -/
theorem occurrences_nodes (enclosing : List (List Char)) (following : List Char) (node : Node) :
    (node.occurrences enclosing following).map Occurrence.node =
      node.preorder.filter isElement := by
  match node with
  | .element tag children closing =>
      rw [occurrences, preorder, List.map_cons, allOccurrences_nodes, List.filter_cons_of_pos rfl]
      rfl
  | .text _ => rfl
  | .comment _ => rfl
  | .declaration _ => rfl

theorem allOccurrences_nodes (enclosing : List (List Char)) (following : List Char)
    (nodes : List Node) :
    (allOccurrences enclosing following nodes).map Occurrence.node =
      (preorders nodes).filter isElement := by
  match nodes with
  | [] => rfl
  | node :: nodes =>
      rw [allOccurrences, preorders, List.map_append, List.filter_append, occurrences_nodes,
        allOccurrences_nodes]

end

theorem mem_preorders_of_occurrence
    {enclosing : List (List Char)} {following : List Char} {nodes : List Node}
    {element : Occurrence}
    (member : element ∈ allOccurrences enclosing following nodes) :
    element.node ∈ preorders nodes := by
  have mapped := List.mem_map_of_mem (f := Occurrence.node) member
  rw [allOccurrences_nodes] at mapped
  exact (List.mem_filter.1 mapped).1

mutual

/-- An element is written in front of what follows it. -/
theorem written_in_node
    {enclosing : List (List Char)} {following : List Char} {node : Node}
    {element : Occurrence}
    (member : element ∈ node.occurrences enclosing following) :
    ∃ before, node.source ++ following = before ++ (element.node.source ++ element.following) := by
  match node with
  | .element tag children closing =>
      rw [occurrences] at member
      rcases List.mem_cons.1 member with rfl | member
      · exact ⟨[], rfl⟩
      · obtain ⟨before, written⟩ := written_in_all member
        refine ⟨tag.source ++ closing.tagEnd ++ before, ?_⟩
        rw [List.append_assoc _ before, ← written]
        simp [source]
  | .text _ => contradiction
  | .comment _ => contradiction
  | .declaration _ => contradiction

theorem written_in_all
    {enclosing : List (List Char)} {following : List Char} {nodes : List Node}
    {element : Occurrence}
    (member : element ∈ allOccurrences enclosing following nodes) :
    ∃ before,
      sources nodes ++ following = before ++ (element.node.source ++ element.following) := by
  match nodes with
  | [] => contradiction
  | node :: nodes =>
      rw [allOccurrences] at member
      rw [sources, List.append_assoc]
      rcases List.mem_append.1 member with here | later
      · exact written_in_node here
      · obtain ⟨before, written⟩ := written_in_all later
        exact ⟨node.source ++ before, by rw [written, List.append_assoc]⟩

end

end Node

namespace Markup

/-- Whether an element may end without an end tag: where the input ends, or in front of
an end tag that names an element around it and not the element itself. -/
def EndsUnclosed (enclosing : List (List Char)) (name following : List Char) : Prop :=
  following = [] ∨
    ∃ closed blanks rest, EndTagShape closed blanks ∧
      following = endTagText closed blanks ++ '>' :: rest ∧
      (∃ outer ∈ enclosing, Text.sameName closed outer = true) ∧
      Text.sameName closed name = false

structure Nested (element : Occurrence) : Prop where
  shallow : element.enclosing.length < maxDepth
  unclosed : element.closing = .missing →
    EndsUnclosed element.enclosing element.tag.name element.following

def openNames (frames : List Frame) : List (List Char) :=
  frames.map fun frame => frame.tag.name

def AllNested (enclosing : List (List Char)) (following : List Char) (nodes : List Node) : Prop :=
  ∀ element ∈ Node.allOccurrences enclosing following nodes, Nested element

/-- Whether all elements that have been closed so far are nested, those before the open elements
included, where `following` is left of the input. -/
def OpenNested : List Frame → List Node → List Char → Prop
  | [], nodes, following => AllNested [] following nodes.reverse
  | frame :: frames, nodes, following =>
      AllNested (openNames (frame :: frames)) following nodes.reverse ∧
        OpenNested frames frame.before
          (frame.tag.source ++ '>' :: (Node.sources nodes.reverse ++ following))

theorem all_nested_append {enclosing : List (List Char)} {following : List Char}
    {first second : List Node}
    (earlier : AllNested enclosing (Node.sources second ++ following) first)
    (later : AllNested enclosing following second) :
    AllNested enclosing following (first ++ second) := by
  intro element member
  rw [Node.allOccurrences_append] at member
  exact (List.mem_append.1 member).elim (earlier element) (later element)

theorem all_nested_leaf {node : Node} (leaf : node.isElement = false)
    (enclosing : List (List Char)) (following : List Char) :
    AllNested enclosing following [node] := by
  intro element member
  cases node with
  | element => contradiction
  | _ => contradiction

theorem open_nested_cons {frames : List Frame} {node : Node} {nodes : List Node}
    {following : List Char} (nested : OpenNested frames nodes (node.source ++ following))
    (here : AllNested (openNames frames) following [node]) :
    OpenNested frames (node :: nodes) following := by
  have single : Node.sources [node] = node.source := by simp [Node.sources]
  cases frames with
  | nil =>
      rw [OpenNested, List.reverse_cons]
      exact all_nested_append (by rw [single]; exact nested) here
  | cons frame frames =>
      obtain ⟨inside, outside⟩ := nested
      rw [OpenNested, List.reverse_cons, Node.sources_append, single, List.append_assoc]
      exact ⟨all_nested_append (by rw [single]; exact inside) here, outside⟩

theorem open_nested_text {frames : List Frame} {nodes : List Node} {body following : List Char}
    (nested : OpenNested frames nodes (body ++ following)) :
    OpenNested frames (.text body :: nodes) following :=
  open_nested_cons nested (all_nested_leaf rfl _ _)

theorem all_nested_longer {enclosing : List (List Char)} {body added following : List Char}
    {before : List Node}
    (nested : AllNested enclosing (added ++ following) (Node.text body :: before).reverse) :
    AllNested enclosing following (Node.text (body ++ added) :: before).reverse := by
  intro element member
  apply nested element
  rw [List.reverse_cons, Node.allOccurrences_append]
  apply List.mem_append_left
  simpa [Node.allOccurrences_append, Node.allOccurrences, Node.occurrences, Node.sources,
    Node.source] using member

/-- A text that goes on with the one before it is written where that one ends. -/
theorem open_nested_addText {frames : List Frame} {nodes : List Node}
    {added following : List Char} (nested : OpenNested frames nodes (added ++ following)) :
    OpenNested frames (addText nodes added) following := by
  unfold addText
  split
  · cases frames with
    | nil => exact all_nested_longer nested
    | cons frame frames =>
        obtain ⟨inside, outside⟩ := nested
        refine ⟨all_nested_longer inside, ?_⟩
        simpa [Node.sources_append, Node.sources, Node.source] using outside
  · exact open_nested_text nested

theorem open_nested_open {frames : List Frame} {tag : StartTag} {nodes : List Node}
    {following : List Char} (nested : OpenNested frames nodes (tag.source ++ '>' :: following)) :
    OpenNested (⟨tag, nodes⟩ :: frames) [] following :=
  ⟨fun _ member => by contradiction, nested⟩

/-- Closing the innermost element puts it among the nodes around it. -/
theorem open_nested_close {frame : Frame} {frames : List Frame} {nodes : List Node}
    {closing : Closing} {following : List Char} (opened : closing.tagEnd = ['>'])
    (nested : OpenNested (frame :: frames) nodes (closing.source ++ following))
    (here : Nested ⟨openNames frames, frame.tag, nodes.reverse, closing, following⟩) :
    OpenNested frames (frame.close nodes closing) following := by
  obtain ⟨inside, outside⟩ := nested
  apply open_nested_cons
  · simpa [Node.source, opened] using outside
  · intro element member
    simp only [Node.allOccurrences, Node.occurrences, Node.sources, List.nil_append,
      List.append_nil, List.mem_cons] at member
    rcases member with rfl | member
    · exact here
    · exact inside element member

theorem nested_finish {frames : List Frame} {nodes : List Node} (depth : frames.length ≤ maxDepth)
    (nested : OpenNested frames nodes []) :
    AllNested [] [] (finish frames nodes) := by
  induction frames generalizing nodes with
  | nil => exact nested
  | cons frame frames ih =>
      have shallow : frames.length < maxDepth := depth
      apply ih (Nat.le_of_lt shallow)
      have here : Nested ⟨openNames frames, frame.tag, nodes.reverse, .missing, []⟩ :=
        ⟨by simpa [openNames] using shallow, fun _ => .inl rfl⟩
      exact open_nested_close rfl nested here

theorem named_of_closeThrough? {name source : List Char} {frames outer : List Frame}
    {nodes closed : List Node}
    (found : closeThrough? name source frames nodes = some (outer, closed)) :
    ∃ opened ∈ openNames frames, Text.sameName name opened = true := by
  induction frames generalizing nodes with
  | nil => contradiction
  | cons frame frames ih =>
      simp only [closeThrough?] at found
      split at found
      · next same => exact ⟨frame.tag.name, List.mem_cons_self, same⟩
      · obtain ⟨opened, member, same⟩ := ih found
        exact ⟨opened, List.mem_cons_of_mem _ member, same⟩

/-- The elements inside the one that an end tag names end in front of it. -/
theorem open_nested_closeThrough? {name blanks following : List Char}
    (shape : EndTagShape name blanks) {frames outer : List Frame} {nodes closed : List Node}
    (depth : frames.length ≤ maxDepth)
    (nested : OpenNested frames nodes (endTagText name blanks ++ '>' :: following))
    (found : closeThrough? name (endTagText name blanks ++ ['>']) frames nodes =
      some (outer, closed)) :
    outer.length ≤ maxDepth ∧ OpenNested outer closed following := by
  induction frames generalizing nodes with
  | nil => contradiction
  | cons frame frames ih =>
      have shallow : frames.length < maxDepth := depth
      have enclosing_shallow : (openNames frames).length < maxDepth := by
        simpa [openNames] using shallow
      simp only [closeThrough?] at found
      split at found
      · cases found
        refine ⟨Nat.le_of_lt shallow, open_nested_close rfl ?_ ⟨enclosing_shallow, by simp⟩⟩
        simpa [Closing.source] using nested
      · next other =>
          have ends : EndsUnclosed (openNames frames) frame.tag.name
              (endTagText name blanks ++ '>' :: following) :=
            .inr ⟨name, blanks, following, shape, rfl, named_of_closeThrough? found,
              Bool.eq_false_iff.2 other⟩
          have here : Nested ⟨openNames frames, frame.tag, nodes.reverse, .missing,
              endTagText name blanks ++ '>' :: following⟩ :=
            ⟨enclosing_shallow, fun _ => ends⟩
          exact ih (Nat.le_of_lt shallow) (open_nested_close rfl nested here) found

/-- What a token tells about itself and the tokens behind it: an end tag is spelled as one, and a
raw text element without an end tag is the last token. -/
def Token.Fits (tokens : List Token) : Token → Prop
  | .endTag name source => WrittenEndTag name source
  | .rawElement _ _ none => tokens = []
  | _ => True

def Fitting : List Token → Prop
  | [] => True
  | found :: tokens => found.Fits tokens ∧ Fitting tokens

theorem fits_rawElement (tag : StartTag) (text : List Char) :
    (rawElement tag text).1.Fits (scan (rawElement tag text).2) := by
  unfold rawElement
  split
  · rw [Token.Fits, scan]
  · trivial

theorem fits_elementToken (text : List Char) :
    (elementToken text).1.Fits (scan (elementToken text).2) := by
  simp only [elementToken]
  split
  · trivial
  · split
    · exact fits_rawElement _ _
    · trivial

theorem fits_token (c : Char) (text : List Char) :
    (token c text).1.Fits (scan (token c text).2) := by
  cases token_kind c text with
  | plain _ token_eq =>
      rw [token_eq]
      trivial
  | endTag rest token_eq =>
      cases read : (token '<' ('/' :: rest)).1 with
      | endTag name source => exact endTag_of_token read
      | rawElement tag body closing =>
          rw [token_eq, endTagToken] at read
          split at read <;> contradiction
      | _ => trivial
  | comment rest token_eq =>
      rw [token_eq, commentToken]
      split <;> trivial
  | declaration mark rest _ _ token_eq =>
      rw [token_eq, declarationToken]
      split <;> trivial
  | element letter rest _ token_eq =>
      rw [token_eq]
      exact fits_elementToken _

theorem fitting_scan (text : List Char) : Fitting (scan text) := by
  fun_induction scan text with
  | case1 => trivial
  | case2 c text ih => exact ⟨fits_token c text, ih⟩

theorem all_nested_childless {frames : List Frame} {tag : StartTag} {closing : Closing}
    (shallow : ¬maxDepth ≤ frames.length) (ended : closing ≠ .missing) (following : List Char) :
    AllNested (openNames frames) following [.element tag [] closing] := by
  intro element member
  simp only [Node.allOccurrences, Node.occurrences, List.append_nil, List.mem_singleton] at member
  subst member
  exact ⟨by simpa [openNames] using shallow, fun missing => absurd missing ended⟩

theorem all_nested_rawNode {frames : List Frame} {tag : StartTag} {body : List Char}
    {closing : Option (List Char)} {following : List Char} (shallow : ¬maxDepth ≤ frames.length)
    (ended : closing = none → following = []) :
    AllNested (openNames frames) following [rawNode tag body closing] := by
  have childless : ∀ enclosing behind,
      Node.allOccurrences enclosing behind (if body.isEmpty then [] else [.text body]) = [] := by
    intro enclosing behind
    split <;> rfl
  intro element member
  simp only [rawNode, Node.allOccurrences, Node.occurrences, childless, List.append_nil,
    List.mem_singleton, Node.sources, List.nil_append] at member
  subst member
  refine ⟨by simpa [openNames] using shallow, ?_⟩
  cases closing with
  | none => exact fun _ => .inl (ended rfl)
  | some source => simp

theorem nested_build {frames : List Frame} {nodes : List Node} {tokens : List Token}
    (fitting : Fitting tokens) (depth : frames.length ≤ maxDepth)
    (nested : OpenNested frames nodes (sources tokens)) :
    AllNested [] [] (build frames nodes tokens) := by
  fun_induction build frames nodes tokens with
  | case1 => exact nested_finish depth nested
  | case2 frames nodes body tokens ih =>
      exact ih fitting.2 depth (open_nested_addText nested)
  | case3 frames nodes body tokens ih =>
      exact ih fitting.2 depth (open_nested_text nested)
  | case4 frames nodes body tokens ih =>
      exact ih fitting.2 depth (open_nested_cons nested (all_nested_leaf rfl _ _))
  | case5 frames nodes source tokens ih =>
      exact ih fitting.2 depth (open_nested_cons nested (all_nested_leaf rfl _ _))
  | case6 frames nodes name source tokens outer closed found ih =>
      obtain ⟨⟨blanks, shape, rfl⟩, fitting⟩ := fitting
      have closing : OpenNested frames nodes (endTagText name blanks ++ '>' :: sources tokens) := by
        simpa [sources, Token.source] using nested
      obtain ⟨outer_depth, outer_nested⟩ := open_nested_closeThrough? shape depth closing found
      exact ih fitting outer_depth outer_nested
  | case7 frames nodes name source tokens stray ih =>
      exact ih fitting.2 depth (open_nested_addText nested)
  | case8 frames nodes tag selfClosing tokens deep =>
      exact nested_finish depth (open_nested_text (by rw [List.append_nil]; exact nested))
  | case9 frames nodes tag tokens shallow ih =>
      apply ih fitting.2 depth
      refine open_nested_cons ?_ (all_nested_childless shallow (by simp) _)
      simpa [sources, Token.source, Token.tagEnd, Node.source, Node.sources, Closing.tagEnd,
        Closing.source] using nested
  | case10 frames nodes tag selfClosing tokens shallow opened void ih =>
      apply ih fitting.2 depth
      refine open_nested_cons ?_ (all_nested_childless shallow (by simp) _)
      simpa [sources, Token.source, Token.tagEnd, opened, Node.source, Node.sources,
        Closing.tagEnd, Closing.source] using nested
  | case11 frames nodes tag selfClosing tokens shallow opened content ih =>
      refine ih fitting.2 (Nat.lt_of_not_le shallow) (open_nested_open ?_)
      simpa [sources, Token.source, Token.tagEnd, opened] using nested
  | case12 frames nodes tag body closing tokens deep =>
      exact nested_finish depth (open_nested_text (by rw [List.append_nil]; exact nested))
  | case13 frames nodes tag body closing tokens shallow children ended ih =>
      apply ih fitting.2 depth
      have last : closing = none → sources tokens = [] := by
        rintro rfl
        rw [show tokens = [] from fitting.1]
        rfl
      refine open_nested_cons ?_ (all_nested_rawNode shallow last)
      have written : (rawNode tag body closing).source =
          Token.source (.rawElement tag body closing) := by
        cases body <;> cases closing <;>
          simp [rawNode, Node.source, Node.sources, Token.source, Closing.tagEnd, Closing.source]
      change OpenNested frames nodes ((rawNode tag body closing).source ++ sources tokens)
      rw [written]
      exact nested

/-- Every element of a parsed tree is nested where it occurs. -/
theorem nested_parse (text : List Char) : AllNested [] [] (parse text) := by
  apply nested_build (fitting_scan text) (Nat.zero_le _)
  intro element member
  contradiction

end Markup
end MarkupTemplate
