import MarkupTemplate.Markup.Tree
import MarkupTemplate.Proofs.Markup.Elements

/-!
What holds of every node of a tree. A node is a token of its own, or an element between a start tag
and what closes it. So a property of all nodes is told token by token, whatever the content of an
element turns out to be; only the texts are put together from several tokens.
-/

namespace MarkupTemplate
namespace Markup

def Holds (property : Node → Prop) (nodes : List Node) : Prop :=
  ∀ node ∈ Node.preorders nodes, property node

/-- How an element that was open ends, `ends` being what the end tags satisfy. -/
inductive Closes (ends : List Char → List Char → Prop) (tag : StartTag) : Closing → Prop
  | missing : Closes ends tag .missing
  | explicit {name source : List Char} (same : Text.sameName name tag.name = true)
      (ended : ends name source) : Closes ends tag (.explicit source)

section Nesting

variable {property : Node → Prop} {ends : List Char → List Char → Prop}

/-- Whether the elements of a start tag that stays open have a property, however they end. -/
def GivesOpen (property : Node → Prop) (ends : List Char → List Char → Prop)
    (tag : StartTag) : Prop :=
  ∀ children closing, Closes ends tag closing → property (.element tag children closing)

def rawNode (tag : StartTag) (body : List Char) (closing : Option (List Char)) : Node :=
  .element tag (if body.isEmpty then [] else [.text body])
    (match closing with
      | some source => .explicit source
      | none => .missing)

/-- Whether the node that a token forms has a property; an end tag has its own. -/
def Gives (property : Node → Prop) (ends : List Char → List Char → Prop) : Token → Prop
  | .text _ => True
  | .unfinished _ => True
  | .comment body => property (.comment body)
  | .declaration source => property (.declaration source)
  | .startTag tag selfClosing =>
      if selfClosing then property (.element tag [] .selfClosing)
      else if Vocabulary.isVoid tag.name then property (.element tag [] .void)
      else GivesOpen property ends tag
  | .rawElement tag body closing => property (rawNode tag body closing)
  | .endTag name source => ends name source

def OpenHolds (property : Node → Prop) (ends : List Char → List Char → Prop)
    (frames : List Frame) : Prop :=
  ∀ frame ∈ frames, GivesOpen property ends frame.tag ∧ Holds property frame.before

theorem holds_nil : Holds property [] := by
  simp [Holds, Node.preorders]

theorem holds_element
    {tag : StartTag} {children nodes : List Node} {closing : Closing}
    (here : property (.element tag children closing)) (inside : Holds property children)
    (others : Holds property nodes) :
    Holds property (.element tag children closing :: nodes) := by
  intro inner member
  simp only [Node.preorders, Node.preorder, List.cons_append, List.mem_cons, List.mem_append]
    at member
  rcases member with rfl | member | member
  · exact here
  · exact inside inner member
  · exact others inner member

theorem holds_leaf
    {node : Node} {nodes : List Node} (leaf : node.preorder = [node]) (here : property node)
    (others : Holds property nodes) :
    Holds property (node :: nodes) := by
  intro inner member
  simp only [Node.preorders, leaf, List.cons_append, List.nil_append, List.mem_cons] at member
  rcases member with rfl | member
  · exact here
  · exact others inner member

theorem holds_tail {node : Node} {nodes : List Node} (holds : Holds property (node :: nodes)) :
    Holds property nodes :=
  fun inner member => holds inner (List.mem_append_right _ member)

theorem holds_reverse {nodes : List Node} (holds : Holds property nodes) :
    Holds property nodes.reverse := by
  intro inner member
  apply holds inner
  simpa [Node.mem_preorders] using member

theorem holds_addText
    (texts : ∀ body, property (.text body)) {nodes : List Node} (holds : Holds property nodes)
    (added : List Char) :
    Holds property (addText nodes added) := by
  unfold addText
  split
  · exact holds_leaf rfl (texts _) (holds_tail holds)
  · exact holds_leaf rfl (texts _) holds

theorem holds_close
    {frame : Frame} {nodes : List Node} {closing : Closing}
    (outside : GivesOpen property ends frame.tag ∧ Holds property frame.before)
    (closes : Closes ends frame.tag closing) (inside : Holds property nodes) :
    Holds property (frame.close nodes closing) :=
  holds_element (outside.1 _ _ closes) (holds_reverse inside) outside.2

theorem holds_finish
    {frames : List Frame} {nodes : List Node}
    (outside : OpenHolds property ends frames) (inside : Holds property nodes) :
    Holds property (finish frames nodes) := by
  induction frames generalizing nodes with
  | nil => exact holds_reverse inside
  | cons frame frames ih =>
      apply ih fun other member => outside other (by simp [member])
      exact holds_close (outside frame (by simp)) .missing inside

theorem holds_closeThrough?
    {name source : List Char} {frames outer : List Frame} {nodes closed : List Node}
    (ended : ends name source)
    (found : closeThrough? name source frames nodes = some (outer, closed))
    (outside : OpenHolds property ends frames) (inside : Holds property nodes) :
    OpenHolds property ends outer ∧ Holds property closed := by
  induction frames generalizing nodes with
  | nil => contradiction
  | cons frame frames ih =>
      have outer_open : OpenHolds property ends frames :=
        fun other member => outside other (by simp [member])
      have here := outside frame (by simp)
      simp only [closeThrough?] at found
      split at found
      · next same =>
          cases found
          exact ⟨outer_open, holds_close here (.explicit same ended) inside⟩
      · exact ih found outer_open (holds_close here .missing inside)

/-- Nesting keeps a property that every token gives to its node. -/
theorem holds_build
    {frames : List Frame} {nodes : List Node} {tokens : List Token}
    (texts : ∀ body, property (.text body))
    (given : ∀ found ∈ tokens, Gives property ends found)
    (outside : OpenHolds property ends frames) (inside : Holds property nodes) :
    Holds property (build frames nodes tokens) := by
  fun_induction build frames nodes tokens with
  | case1 => exact holds_finish outside inside
  | case2 frames nodes body tokens ih =>
      exact ih (fun found member => given found (by simp [member])) outside
        (holds_addText texts inside body)
  | case3 frames nodes body tokens ih =>
      exact ih (fun found member => given found (by simp [member])) outside
        (holds_leaf rfl (texts body) inside)
  | case4 frames nodes body tokens ih =>
      have here : property (.comment body) := given (.comment body) (by simp)
      exact ih (fun found member => given found (by simp [member])) outside
        (holds_leaf rfl here inside)
  | case5 frames nodes source tokens ih =>
      have here : property (.declaration source) := given (.declaration source) (by simp)
      exact ih (fun found member => given found (by simp [member])) outside
        (holds_leaf rfl here inside)
  | case6 frames nodes name source tokens outer closed found ih =>
      have ended : ends name source := given (.endTag name source) (by simp)
      obtain ⟨outer_open, closed_holds⟩ := holds_closeThrough? ended found outside inside
      exact ih (fun found member => given found (by simp [member])) outer_open closed_holds
  | case7 frames nodes name source tokens stray ih =>
      exact ih (fun found member => given found (by simp [member])) outside
        (holds_addText texts inside source)
  -- past the depth limit a tag gives no node, whatever it would give elsewhere
  | case8 => exact holds_finish outside (holds_leaf rfl (texts _) inside)
  | case9 frames nodes tag tokens shallow ih =>
      have here := given (.startTag tag true) (by simp)
      rw [Gives, if_pos rfl] at here
      exact ih (fun found member => given found (by simp [member])) outside
        (holds_element here holds_nil inside)
  | case10 frames nodes tag selfClosing tokens shallow opened void ih =>
      have here := given (.startTag tag selfClosing) (by simp)
      rw [Gives, if_neg opened, if_pos void] at here
      exact ih (fun found member => given found (by simp [member])) outside
        (holds_element here holds_nil inside)
  | case11 frames nodes tag selfClosing tokens shallow opened content ih =>
      have here := given (.startTag tag selfClosing) (by simp)
      rw [Gives, if_neg opened, if_neg content] at here
      apply ih (fun found member => given found (by simp [member])) _ holds_nil
      intro frame member
      rcases List.mem_cons.1 member with rfl | member
      · exact ⟨here, inside⟩
      · exact outside frame member
  | case12 => exact holds_finish outside (holds_leaf rfl (texts _) inside)
  | case13 frames nodes tag body closing tokens shallow children ended ih =>
      have here : property (rawNode tag body closing) :=
        given (.rawElement tag body closing) (by simp)
      apply ih (fun found member => given found (by simp [member])) outside
      refine holds_element here ?_ inside
      cases body with
      | nil => exact holds_nil
      | cons c body => exact holds_leaf rfl (texts _) holds_nil

/-- A property that every token of a text gives to its node holds of the tree of the text. -/
theorem holds_parse
    {text : List Char} (texts : ∀ body, property (.text body))
    (given : ∀ found ∈ scan text, Gives property ends found) :
    Holds property (parse text) :=
  holds_build texts given (fun _ member => by contradiction) holds_nil

end Nesting

end Markup
end MarkupTemplate
