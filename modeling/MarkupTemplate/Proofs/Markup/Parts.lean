import MarkupTemplate.Proofs.Markup.Elements
import MarkupTemplate.Markup.Tree

/-!
What nesting makes of each token: a token forms or closes a node, or it is text. Which of the two
depends on the elements that are open, and of these only on their names. The outline of a tree, what
is left of it without its texts, is the tree of the tokens that are not text.
-/

namespace MarkupTemplate

namespace Node

mutual

/-- A node without its texts, or nothing if it is a text. -/
def outline : Node → List Node
  | .element tag children closing => [.element tag (outlines children) closing]
  | .text _ => []
  | .comment body => [.comment body]
  | .declaration source => [.declaration source]

def outlines : List Node → List Node
  | [] => []
  | node :: nodes => node.outline ++ outlines nodes

end

theorem outlines_eq_flatMap (nodes : List Node) : outlines nodes = nodes.flatMap outline := by
  induction nodes with
  | nil => rfl
  | cons node nodes ih => simp [outlines, ih]

theorem outlines_reverse (nodes : List Node) :
    outlines nodes.reverse = (outlines nodes).reverse := by
  have single : ∀ node : Node, node.outline.reverse = node.outline := by
    intro node
    cases node <;> simp [outline]
  simp [outlines_eq_flatMap, List.reverse_flatMap, Function.comp_def, single]

end Node

namespace Markup

inductive Part
  /-- A token that forms or closes a node. -/
  | markup (found : Token)
  /-- Text, an end tag that closes nothing included, inside open elements of the given names. -/
  | inert (opened : List (List Char)) (body : List Char)
  /-- A tag or a comment that the input ends in the middle of, inside open elements. -/
  | broken (opened : List (List Char)) (body : List Char)
  /-- Everything from the tag on that would open one element too many. -/
  | beyond (body : List Char)

namespace Part

def source : Part → List Char
  | .markup found => found.source
  | .inert _ body => body
  | .broken _ body => body
  | .beyond body => body

/-- The token of a part that is not text, without the text inside it. -/
def shape? : Part → Option Token
  | .markup (.rawElement tag _ closing) => some (.rawElement tag [] closing)
  | .markup found => some found
  | .inert _ _ => none
  | .broken _ _ => none
  | .beyond _ => none

end Part

def outside? (name : List Char) : List (List Char) → Option (List (List Char))
  | [] => none
  | opened :: names => if Text.sameName name opened then some names else outside? name names

/-- The parts of a text whose tokens are given, inside open elements of the given names, the
innermost first. -/
def parts : List (List Char) → List Token → List Part
  | _, [] => []
  | names, .text body :: tokens => .inert names body :: parts names tokens
  | names, .unfinished body :: tokens => .broken names body :: parts names tokens
  | names, .comment body :: tokens => .markup (.comment body) :: parts names tokens
  | names, .declaration source :: tokens => .markup (.declaration source) :: parts names tokens
  | names, .endTag name source :: tokens =>
      match outside? name names with
      | some outer => .markup (.endTag name source) :: parts outer tokens
      | none => .inert names source :: parts names tokens
  | names, .startTag tag selfClosing :: tokens =>
      if maxDepth ≤ names.length then [.beyond (sources (.startTag tag selfClosing :: tokens))]
      else
        .markup (.startTag tag selfClosing) ::
          parts (if selfClosing || Vocabulary.isVoid tag.name then names else tag.name :: names)
            tokens
  | names, .rawElement tag body closing :: tokens =>
      if maxDepth ≤ names.length then
        [.beyond (sources (.rawElement tag body closing :: tokens))]
      else .markup (.rawElement tag body closing) :: parts names tokens

theorem parts_sources (names : List (List Char)) (tokens : List Token) :
    (parts names tokens).flatMap Part.source = sources tokens := by
  fun_induction parts names tokens <;> simp_all [sources, Part.source, Token.source]

def textParts (text : List Char) : List Part :=
  parts [] (scan text)

def Frame.name (frame : Frame) : List Char :=
  frame.tag.name

def Frame.outline (frame : Frame) : Frame :=
  ⟨frame.tag, Node.outlines frame.before⟩

theorem outlines_close (frame : Frame) (nodes : List Node) (closing : Closing) :
    Node.outlines (frame.close nodes closing) =
      frame.outline.close (Node.outlines nodes) closing := by
  simp [Frame.close, Frame.outline, Node.outlines, Node.outline, Node.outlines_reverse]

theorem outlines_finish (frames : List Frame) (nodes : List Node) :
    Node.outlines (finish frames nodes) =
      finish (frames.map Frame.outline) (Node.outlines nodes) := by
  induction frames generalizing nodes with
  | nil => simp [finish, Node.outlines_reverse]
  | cons frame frames ih => simp [finish, ih, outlines_close]

theorem outlines_addText (nodes : List Node) (added : List Char) :
    Node.outlines (addText nodes added) = Node.outlines nodes := by
  unfold addText
  split <;> simp [Node.outlines, Node.outline]

theorem closeThrough?_outline
    (name source : List Char) (frames : List Frame) (nodes : List Node) :
    closeThrough? name source (frames.map Frame.outline) (Node.outlines nodes) =
      (closeThrough? name source frames nodes).map fun (outer, closed) =>
        (outer.map Frame.outline, Node.outlines closed) := by
  induction frames generalizing nodes with
  | nil => rfl
  | cons frame frames ih =>
      simp only [List.map_cons, closeThrough?, ← outlines_close, ih]
      rw [show frame.outline.tag = frame.tag from rfl]
      split <;> rfl

theorem outside?_eq_closeThrough?
    (name source : List Char) (frames : List Frame) (nodes : List Node) :
    outside? name (frames.map Frame.name) =
      (closeThrough? name source frames nodes).map fun (outer, _) => outer.map Frame.name := by
  induction frames generalizing nodes with
  | nil => rfl
  | cons frame frames ih =>
      simp only [List.map_cons, closeThrough?, outside?, ih (frame.close nodes .missing)]
      rw [show frame.name = frame.tag.name from rfl]
      split <;> rfl

theorem outlines_build (frames : List Frame) (nodes : List Node) (tokens : List Token) :
    Node.outlines (build frames nodes tokens) =
      build (frames.map Frame.outline) (Node.outlines nodes)
        ((parts (frames.map Frame.name) tokens).filterMap Part.shape?) := by
  fun_induction build frames nodes tokens with
  | case1 frames nodes => simp [parts, build, outlines_finish]
  | case2 frames nodes body tokens ih =>
      simp [ih, parts, List.filterMap_cons, Part.shape?, outlines_addText]
  | case3 frames nodes body tokens ih =>
      simp [ih, parts, List.filterMap_cons, Part.shape?, Node.outlines, Node.outline]
  | case4 frames nodes body tokens ih =>
      simp [ih, parts, Part.shape?, Node.outlines, Node.outline, build]
  | case5 frames nodes source tokens ih =>
      simp [ih, parts, Part.shape?, Node.outlines, Node.outline, build]
  | case6 frames nodes name source tokens outer closed found ih =>
      have names_eq := outside?_eq_closeThrough? name source frames nodes
      have outline_eq := closeThrough?_outline name source frames nodes
      rw [found] at names_eq outline_eq
      simp only [Option.map_some] at names_eq outline_eq
      simp [ih, parts, names_eq, Part.shape?, build, outline_eq]
  | case7 frames nodes name source tokens stray ih =>
      have names_eq := outside?_eq_closeThrough? name source frames nodes
      rw [stray] at names_eq
      simp only [Option.map_none] at names_eq
      simp [ih, parts, names_eq, List.filterMap_cons, Part.shape?, outlines_addText]
  | case8 frames nodes tag selfClosing tokens deep =>
      simp [parts, deep, List.filterMap_cons, Part.shape?, build, outlines_finish, Node.outlines,
        Node.outline]
  | case9 frames nodes tag tokens shallow ih =>
      simp [ih, parts, shallow, Part.shape?, build, Node.outlines, Node.outline]
  | case10 frames nodes tag selfClosing tokens shallow opened void ih =>
      simp [ih, parts, shallow, opened, void, Part.shape?, build, Node.outlines, Node.outline]
  | case11 frames nodes tag selfClosing tokens shallow opened content ih =>
      simp [ih, parts, shallow, opened, content, Part.shape?, build, Node.outlines, Frame.outline,
        Frame.name]
  | case12 frames nodes tag body closing tokens deep =>
      simp [parts, deep, List.filterMap_cons, Part.shape?, build, outlines_finish, Node.outlines,
        Node.outline]
  | case13 frames nodes tag body closing tokens shallow children ended ih =>
      have empty : Node.outlines children = [] := by
        cases body <;> simp [children, Node.outlines, Node.outline]
      simp [ih, parts, shallow, Part.shape?, build, Node.outlines, Node.outline, empty, ended]

/-- The outline of a tree is decided by the parts of its text that are not text. -/
theorem outlines_parse (text : List Char) :
    Node.outlines (parse text) = build [] [] ((textParts text).filterMap Part.shape?) := by
  rw [parse, outlines_build]
  rfl

end Markup
end MarkupTemplate
