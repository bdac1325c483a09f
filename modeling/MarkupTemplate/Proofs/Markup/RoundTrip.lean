import Mathlib.Data.List.Basic
import MarkupTemplate.Proofs.Markup.Parts
import MarkupTemplate.Proofs.Markup.Tokens

/-!
Writing a tree back with its texts replaced. The result is read off the parts of the text it comes
from: each of them is written as it stands, but for the text in it. Nesting moves tokens from the
input into nodes and open elements one at a time, and no move changes what all three spell together.
A replacement that changes nothing shows that the tree of a text is written back as that text.
-/

namespace MarkupTemplate

namespace Node

mutual

def filled (fill : List Char → List Char) : Node → List Char
  | .element tag children closing =>
      tag.source ++ closing.tagEnd ++ filledAll fill children ++ closing.source
  | .text body => fill body
  | .comment body => commentSource body
  | .declaration source => source

def filledAll (fill : List Char → List Char) : List Node → List Char
  | [] => []
  | node :: nodes => node.filled fill ++ filledAll fill nodes

end

theorem filledAll_append (fill : List Char → List Char) (first second : List Node) :
    filledAll fill (first ++ second) = filledAll fill first ++ filledAll fill second := by
  induction first with
  | nil => rfl
  | cons node nodes ih => simp [filledAll, ih]

theorem sources_eq_flatMap (nodes : List Node) : sources nodes = nodes.flatMap source := by
  induction nodes with
  | nil => rfl
  | cons node nodes ih => simp [sources, ih]

theorem filledAll_eq_flatMap (fill : List Char → List Char) (nodes : List Node) :
    filledAll fill nodes = nodes.flatMap (filled fill) := by
  induction nodes with
  | nil => rfl
  | cons node nodes ih => simp [filledAll, ih]

theorem sources_append (first second : List Node) :
    sources (first ++ second) = sources first ++ sources second := by
  simp [sources_eq_flatMap]

theorem filled_id (node : Node) : node.filled id = node.source := by
  induction node using tree_induction with
  | element tag children closing ih =>
      have content : filledAll id children = sources children := by
        rw [filledAll_eq_flatMap, sources_eq_flatMap]
        exact List.flatMap_congr ih
      simp [filled, source, content]
  | text body => rfl
  | comment body => rfl
  | declaration source => rfl

theorem filledAll_id (nodes : List Node) : filledAll id nodes = sources nodes := by
  rw [filledAll_eq_flatMap, sources_eq_flatMap]
  exact List.flatMap_congr fun node _ => filled_id node

end Node

namespace Markup

def Part.filled (fill : List Char → List Char) : Part → List Char
  | .markup (.rawElement tag body closing) =>
      tag.source ++ '>' :: fill body ++ closing.getD []
  | .markup found => found.source
  | .inert _ body => fill body
  | .broken _ body => fill body
  | .beyond body => fill body

/-- A replacement that may be made in two texts or in both as one. -/
structure Splits (fill : List Char → List Char) : Prop where
  nil : fill [] = []
  append : ∀ left right, Apart left right → fill (left ++ right) = fill left ++ fill right

theorem splits_id : Splits id where
  nil := rfl
  append := fun _ _ _ => rfl

/-- The last text before a place is apart from what follows there. -/
def TextApart (nodes : List Node) (following : List Char) : Prop :=
  ∀ body before, nodes = .text body :: before → Apart body following

theorem text_apart_of_leaf
    {node : Node} (other : ∀ body, node ≠ .text body) (nodes : List Node)
    (following : List Char) :
    TextApart (node :: nodes) following := by
  intro body before nodes_eq
  exact absurd (List.cons.inj nodes_eq).1 (other body)

section Filled

variable {fill : List Char → List Char}

/-- What is read so far: the open elements from the outside in, each behind the nodes before it,
and the nodes of the innermost one. -/
def openFilled (fill : List Char → List Char) : List Frame → List Node → List Char
  | [], nodes => Node.filledAll fill nodes.reverse
  | frame :: frames, nodes =>
      openFilled fill frames frame.before ++ frame.tag.source ++
        '>' :: Node.filledAll fill nodes.reverse

theorem open_filled_cons (frames : List Frame) (node : Node) (nodes : List Node) :
    openFilled fill frames (node :: nodes) = openFilled fill frames nodes ++ node.filled fill := by
  cases frames <;> simp [openFilled, Node.filledAll_append, Node.filledAll]

theorem open_filled_addText
    (splits : Splits fill) {nodes : List Node} {added : List Char}
    (apart : TextApart nodes added) (frames : List Frame) :
    openFilled fill frames (addText nodes added) = openFilled fill frames nodes ++ fill added := by
  unfold addText
  split
  · next body before =>
      rw [open_filled_cons, open_filled_cons]
      simp [Node.filled, splits.append body added (apart body before rfl)]
  · rw [open_filled_cons]
    rfl

/-- Closing the innermost element adds its end tag and nothing else. -/
theorem open_filled_close
    {closing : Closing} (opened : closing.tagEnd = ['>'])
    (frame : Frame) (frames : List Frame) (nodes : List Node) :
    openFilled fill frames (frame.close nodes closing) =
      openFilled fill (frame :: frames) nodes ++ closing.source := by
  rw [Frame.close, open_filled_cons]
  simp [openFilled, Node.filled, opened]

theorem filled_finish (frames : List Frame) (nodes : List Node) :
    Node.filledAll fill (finish frames nodes) = openFilled fill frames nodes := by
  induction frames generalizing nodes with
  | nil => rfl
  | cons frame frames ih =>
      have closed : openFilled fill frames (frame.close nodes .missing) =
          openFilled fill (frame :: frames) nodes ++ Closing.missing.source :=
        open_filled_close rfl frame frames nodes
      rw [finish, ih, closed]
      simp [Closing.source]

theorem open_filled_closeThrough?
    {name source : List Char} {frames outer : List Frame} {nodes closed : List Node}
    (found : closeThrough? name source frames nodes = some (outer, closed)) :
    openFilled fill outer closed = openFilled fill frames nodes ++ source ∧
      ∀ following, TextApart closed following := by
  induction frames generalizing nodes with
  | nil => contradiction
  | cons frame frames ih =>
      simp only [closeThrough?] at found
      split at found
      · cases found
        exact ⟨open_filled_close rfl frame outer nodes, text_apart_of_leaf (by simp) _⟩
      · obtain ⟨filled_eq, apart⟩ := ih found
        refine ⟨?_, apart⟩
        rw [filled_eq, open_filled_close rfl frame frames nodes]
        simp [Closing.source]

theorem raw_element_filled
    (splits : Splits fill) (tag : StartTag) (body : List Char) (closing : Option (List Char)) :
    Node.filled fill (.element tag (if body.isEmpty then [] else [.text body])
      (match closing with
        | some source => .explicit source
        | none => .missing)) =
      Part.filled fill (.markup (.rawElement tag body closing)) := by
  cases body <;> cases closing <;>
    simp [Node.filled, Node.filledAll, Part.filled, Closing.tagEnd, Closing.source, splits.nil]

theorem addText_apart
    {nodes : List Node} {added following : List Char} (apart : Apart added following) :
    TextApart (addText nodes added) following := by
  intro body before nodes_eq
  unfold addText at nodes_eq
  split at nodes_eq
  · cases nodes_eq
    exact apart.append_left _
  · cases nodes_eq
    exact apart

theorem Apart.of_append
    {left right following : List Char} (apart : Apart left (right ++ following)) :
    Apart left right := by
  rcases apart with ended | starts | ends
  · exact .inl (List.append_eq_nil_iff.1 ended).1
  · cases right with
    | nil => exact .inl rfl
    | cons c right => exact .inr (.inl starts)
  · exact .inr (.inr ends)

theorem TextApart.of_append
    {nodes : List Node} {right following : List Char}
    (apart : TextApart nodes (right ++ following)) :
    TextApart nodes right :=
  fun body before nodes_eq => (apart body before nodes_eq).of_append

/-- The invariant of nesting: what is read so far, then what is left of the input, part by part. -/
theorem filled_build
    (splits : Splits fill) {frames : List Frame} {nodes : List Node} {tokens : List Token}
    (chained : Chained tokens) (apart : TextApart nodes (sources tokens)) :
    Node.filledAll fill (build frames nodes tokens) =
      openFilled fill frames nodes ++
        (parts (frames.map Frame.name) tokens).flatMap (Part.filled fill) := by
  fun_induction build frames nodes tokens with
  | case1 => simp [filled_finish, parts]
  | case2 frames nodes body tokens ih =>
      have added_apart : TextApart nodes body := apart.of_append
      rw [ih chained.2 (addText_apart chained.1), open_filled_addText splits added_apart]
      simp [parts, Part.filled]
  | case3 frames nodes body tokens ih =>
      have body_apart : TextApart (.text body :: nodes) (sources tokens) := by
        rintro _ _ ⟨⟩
        exact chained.1
      rw [ih chained.2 body_apart, open_filled_cons]
      simp [parts, Part.filled, Node.filled]
  | case4 frames nodes body tokens ih =>
      rw [ih chained.2 (text_apart_of_leaf (by simp) _ _), open_filled_cons]
      simp [parts, Part.filled, Node.filled, Token.source]
  | case5 frames nodes source tokens ih =>
      rw [ih chained.2 (text_apart_of_leaf (by simp) _ _), open_filled_cons]
      simp [parts, Part.filled, Node.filled, Token.source]
  | case6 frames nodes name source tokens outer closed found ih =>
      obtain ⟨filled_eq, closed_apart⟩ := open_filled_closeThrough? found
      have names_eq := outside?_eq_closeThrough? name source frames nodes
      rw [found, Option.map_some] at names_eq
      rw [ih chained.2 (closed_apart _), filled_eq]
      simp [parts, names_eq, Part.filled, Token.source]
  | case7 frames nodes name source tokens stray ih =>
      have names_eq := outside?_eq_closeThrough? name source frames nodes
      rw [stray, Option.map_none] at names_eq
      have added_apart : TextApart nodes source := apart.of_append
      rw [ih chained.2 (addText_apart chained.1), open_filled_addText splits added_apart]
      simp [parts, names_eq, Part.filled]
  | case8 frames nodes tag selfClosing tokens deep =>
      simp [filled_finish, open_filled_cons, parts, deep, Part.filled, Node.filled]
  | case9 frames nodes tag tokens shallow ih =>
      rw [ih chained.2 (text_apart_of_leaf (by simp) _ _), open_filled_cons]
      simp [parts, shallow, Part.filled, Token.source, Token.tagEnd, Node.filled, Node.filledAll,
        Closing.tagEnd, Closing.source]
  | case10 frames nodes tag selfClosing tokens shallow opened void ih =>
      rw [ih chained.2 (text_apart_of_leaf (by simp) _ _), open_filled_cons]
      simp [parts, shallow, opened, void, Part.filled, Token.source, Token.tagEnd, Node.filled,
        Node.filledAll, Closing.tagEnd, Closing.source]
  | case11 frames nodes tag selfClosing tokens shallow opened content ih =>
      rw [ih chained.2 (by simp [TextApart])]
      simp [parts, shallow, opened, content, openFilled, Part.filled, Token.source, Token.tagEnd,
        Node.filledAll, Frame.name]
  | case12 frames nodes tag body closing tokens deep =>
      simp [filled_finish, open_filled_cons, parts, deep, Part.filled, Node.filled]
  | case13 frames nodes tag body closing tokens shallow children ended ih =>
      have element_filled : Node.filled fill (.element tag children ended) =
          Part.filled fill (.markup (.rawElement tag body closing)) :=
        raw_element_filled splits tag body closing
      rw [ih chained.2 (text_apart_of_leaf (by simp) _ _), open_filled_cons, element_filled]
      simp [parts, shallow]

end Filled

theorem filled_parse {fill : List Char → List Char} (splits : Splits fill) (text : List Char) :
    Node.filledAll fill (parse text) = (textParts text).flatMap (Part.filled fill) := by
  rw [parse, filled_build splits (chained_scan text) (by simp [TextApart])]
  rfl

theorem part_filled_id (part : Part) : part.filled id = part.source := by
  unfold Part.filled
  split <;> rfl

theorem sources_build {tokens : List Token} (chained : Chained tokens) :
    Node.sources (build [] [] tokens) = sources tokens := by
  rw [← Node.filledAll_id, filled_build splits_id chained (by simp [TextApart]),
    funext part_filled_id, parts_sources]
  rfl

/-- Every text is the source of its tree, whatever it holds. -/
theorem sources_parse (text : List Char) : Node.sources (parse text) = text := by
  rw [parse, sources_build (chained_scan text), sources, scan_sources]

end Markup
end MarkupTemplate
