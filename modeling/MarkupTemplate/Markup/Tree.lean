import MarkupTemplate.Markup.Scanner

/-!
Nesting tokens into a tree. A stack holds the elements that are still open; an end tag closes the
nearest open element of its name and, without an end tag, every element inside it.
-/

namespace MarkupTemplate
namespace Markup

/-- How deep elements nest. Where one more would open, the rest of the input is text. -/
def maxDepth : Nat := 256

/-- An open element, with the nodes before it among its siblings, the latest first. -/
structure Frame where
  tag : StartTag
  before : List Node

/-- Adds text behind nodes, the latest first, as part of a text that stands there already. -/
def addText (nodes : List Node) (added : List Char) : List Node :=
  match nodes with
  | .text body :: nodes => .text (body ++ added) :: nodes
  | nodes => .text added :: nodes

def Frame.close (frame : Frame) (nodes : List Node) (closing : Closing) : List Node :=
  .element frame.tag nodes.reverse closing :: frame.before

/-- Closes every open element where the input ends, and puts the nodes in order. -/
def finish : List Frame → List Node → List Node
  | [], nodes => nodes.reverse
  | frame :: frames, nodes => finish frames (frame.close nodes .missing)

/-- Closes the nearest open element of a name and all elements in it, if there is one. -/
def closeThrough? (name source : List Char) :
    List Frame → List Node → Option (List Frame × List Node)
  | [], _ => none
  | frame :: frames, nodes =>
      if Text.sameName name frame.tag.name then
        some (frames, frame.close nodes (.explicit source))
      else closeThrough? name source frames (frame.close nodes .missing)

def sources (tokens : List Token) : List Char :=
  tokens.flatMap Token.source

/-- Nests tokens inside the open elements of `frames`, the innermost first, and behind its `nodes`,
the latest first. -/
def build : List Frame → List Node → List Token → List Node
  | frames, nodes, [] => finish frames nodes
  | frames, nodes, .text body :: tokens => build frames (addText nodes body) tokens
  | frames, nodes, .unfinished body :: tokens => build frames (.text body :: nodes) tokens
  | frames, nodes, .comment body :: tokens => build frames (.comment body :: nodes) tokens
  | frames, nodes, .declaration source :: tokens =>
      build frames (.declaration source :: nodes) tokens
  | frames, nodes, .endTag name source :: tokens =>
      match closeThrough? name source frames nodes with
      | some (outer, closed) => build outer closed tokens
      | none => build frames (addText nodes source) tokens
  | frames, nodes, .startTag tag selfClosing :: tokens =>
      if maxDepth ≤ frames.length then
        finish frames (.text (sources (.startTag tag selfClosing :: tokens)) :: nodes)
      else if selfClosing then build frames (.element tag [] .selfClosing :: nodes) tokens
      else if Vocabulary.isVoid tag.name then build frames (.element tag [] .void :: nodes) tokens
      else build (⟨tag, nodes⟩ :: frames) [] tokens
  | frames, nodes, .rawElement tag body closing :: tokens =>
      if maxDepth ≤ frames.length then
        finish frames (.text (sources (.rawElement tag body closing :: tokens)) :: nodes)
      else
        let children := if body.isEmpty then [] else [.text body]
        let closing := match closing with
          | some source => .explicit source
          | none => .missing
        build frames (.element tag children closing :: nodes) tokens

def parse (text : List Char) : List Node :=
  build [] [] (scan text)

end Markup
end MarkupTemplate
