import MarkupTemplate.Proofs.Markup.EndTag
import MarkupTemplate.Proofs.Markup.Nesting

/-!
What end tags do to the elements that are open. An element that no end tag names stays open to the
end of the input and takes everything behind its start tag in. What stands before an element does
not show in the tree of what follows, unless a text goes on there.
-/

namespace MarkupTemplate
namespace Markup

def WrittenEndTag (name source : List Char) : Prop :=
  ∃ blanks, EndTagShape name blanks ∧ source = endTagText name blanks ++ ['>']

theorem endTag_of_token {c : Char} {text name source : List Char}
    (read : (token c text).1 = .endTag name source) :
    WrittenEndTag name source := by
  cases token_kind c text with
  | plain _ token_eq =>
      rw [token_eq] at read
      contradiction
  | endTag rest token_eq =>
      rw [token_eq] at read
      cases found : endTagName? ('<' :: '/' :: rest) with
      | none =>
          rw [endTagToken, found] at read
          contradiction
      | some other =>
          obtain ⟨blanks, behind, shape, text_eq⟩ := endTagName?_sound found
          rw [text_eq, endTagToken_exact shape] at read
          cases read
          exact ⟨blanks, shape, rfl⟩
  | comment rest token_eq =>
      rw [token_eq, commentToken] at read
      split at read <;> contradiction
  | declaration mark rest _ _ token_eq =>
      rw [token_eq, declarationToken] at read
      split at read <;> contradiction
  | element letter rest _ token_eq =>
      rw [token_eq] at read
      unfold elementToken rawElement at read
      simp only at read
      split at read
      · contradiction
      · split at read
        · split at read <;> contradiction
        · contradiction

/-- Every token of a text is the first one of what was left when it was read. -/
theorem token_of_mem_scan {text : List Char} {found : Token} (member : found ∈ scan text) :
    ∃ c behind, (token c behind).1 = found := by
  fun_induction scan text with
  | case1 => contradiction
  | case2 c text ih =>
      rcases List.mem_cons.1 member with rfl | member
      · exact ⟨c, text, rfl⟩
      · exact ih member

theorem endTag_of_scan {text name source : List Char} (member : .endTag name source ∈ scan text) :
    WrittenEndTag name source := by
  obtain ⟨c, behind, read⟩ := token_of_mem_scan member
  exact endTag_of_token read

section Unclosed

variable {tag : StartTag}

def NeverNamed (tag : StartTag) (tokens : List Token) : Prop :=
  ∀ name source, .endTag name source ∈ tokens → Text.sameName name tag.name = false

theorem NeverNamed.tail {found : Token} {tokens : List Token}
    (unnamed : NeverNamed tag (found :: tokens)) :
    NeverNamed tag tokens :=
  fun name source member => unnamed name source (List.mem_cons_of_mem _ member)

/-- Whether an element is the outermost one that is open, with nothing before it. -/
def Outermost (tag : StartTag) (frames : List Frame) : Prop :=
  ∃ inner, frames = inner ++ [⟨tag, []⟩]

theorem finish_unclosed {frames : List Frame} (outermost : Outermost tag frames)
    (nodes : List Node) :
    ∃ children, finish frames nodes = [.element tag children .missing] := by
  obtain ⟨inner, rfl⟩ := outermost
  induction inner generalizing nodes with
  | nil => exact ⟨nodes.reverse, rfl⟩
  | cons frame frames ih => exact ih (frame.close nodes .missing)

theorem closeThrough?_unclosed
    {name source : List Char} (other : Text.sameName name tag.name = false)
    {frames outer : List Frame} {nodes closed : List Node} (outermost : Outermost tag frames)
    (found : closeThrough? name source frames nodes = some (outer, closed)) :
    Outermost tag outer := by
  obtain ⟨inner, rfl⟩ := outermost
  induction inner generalizing nodes with
  | nil =>
      simp only [List.nil_append, closeThrough?, other] at found
      contradiction
  | cons frame frames ih =>
      simp only [List.cons_append, closeThrough?] at found
      split at found
      · cases found
        exact ⟨frames, rfl⟩
      · exact ih found

/-- The outermost element stays open as long as no end tag names it. -/
theorem build_unclosed
    {frames : List Frame} (outermost : Outermost tag frames) (nodes : List Node)
    {tokens : List Token} (unnamed : NeverNamed tag tokens) :
    ∃ children, build frames nodes tokens = [.element tag children .missing] := by
  fun_induction build frames nodes tokens with
  | case1 => exact finish_unclosed outermost _
  | case2 _ _ _ _ ih => exact ih outermost unnamed.tail
  | case3 _ _ _ _ ih => exact ih outermost unnamed.tail
  | case4 _ _ _ _ ih => exact ih outermost unnamed.tail
  | case5 _ _ _ _ ih => exact ih outermost unnamed.tail
  | case6 _ _ name source _ _ _ found ih =>
      have other := unnamed name source List.mem_cons_self
      exact ih (closeThrough?_unclosed other outermost found) unnamed.tail
  | case7 _ _ _ _ _ _ ih => exact ih outermost unnamed.tail
  | case8 => exact finish_unclosed outermost _
  | case9 _ _ _ _ _ ih => exact ih outermost unnamed.tail
  | case10 _ _ _ _ _ _ _ _ ih => exact ih outermost unnamed.tail
  | case11 _ nodes opened _ _ _ _ _ ih =>
      obtain ⟨inner, rfl⟩ := outermost
      exact ih ⟨⟨opened, nodes⟩ :: inner, rfl⟩ unnamed.tail
  | case12 => exact finish_unclosed outermost _
  | case13 _ _ _ _ _ _ _ _ _ ih => exact ih outermost unnamed.tail

end Unclosed

theorem build_rawElement (frames : List Frame) (nodes : List Node) (tag : StartTag)
    (body : List Char) (closing : Option (List Char)) (tokens : List Token) :
    build frames nodes (.rawElement tag body closing :: tokens) =
      if maxDepth ≤ frames.length then
        finish frames (.text (sources (.rawElement tag body closing :: tokens)) :: nodes)
      else build frames (rawNode tag body closing :: nodes) tokens := by
  rw [build.eq_def]
  rfl

section Earlier

variable {earlier : List Node}

/-- Open elements and the nodes of the innermost one, with `earlier` before all of them. -/
def behind (earlier : List Node) : List Frame → List Node → List Frame × List Node
  | [], nodes => ([], nodes ++ earlier)
  | frame :: frames, nodes =>
      (⟨frame.tag, (behind earlier frames frame.before).2⟩ ::
        (behind earlier frames frame.before).1, nodes)

theorem behind_cons (frames : List Frame) (node : Node) (nodes : List Node) :
    behind earlier frames (node :: nodes) =
      ((behind earlier frames nodes).1, node :: (behind earlier frames nodes).2) := by
  cases frames <;> rfl

theorem behind_length (frames : List Frame) (nodes : List Node) :
    (behind earlier frames nodes).1.length = frames.length := by
  induction frames generalizing nodes with
  | nil => rfl
  | cons frame frames ih => simp [behind, ih]

/-- A text goes on with the one before it, so the nodes before must not end in one. -/
theorem behind_addText (noText : ∀ body before, earlier ≠ .text body :: before)
    (frames : List Frame) (nodes : List Node) (added : List Char) :
    behind earlier frames (addText nodes added) =
      ((behind earlier frames nodes).1, addText (behind earlier frames nodes).2 added) := by
  cases frames with
  | cons frame frames => rfl
  | nil =>
      cases nodes with
      | cons node nodes => cases node <;> rfl
      | nil =>
          simp only [behind, List.nil_append]
          rw [addText.eq_2 earlier added noText]
          rfl

theorem behind_close (frame : Frame) (frames : List Frame) (nodes : List Node)
    (closing : Closing) :
    behind earlier frames (frame.close nodes closing) =
      ((behind earlier frames frame.before).1,
        Frame.close ⟨frame.tag, (behind earlier frames frame.before).2⟩ nodes closing) :=
  behind_cons frames _ _

theorem finish_behind (earlier : List Node) (frames : List Frame) (nodes : List Node) :
    finish (behind earlier frames nodes).1 (behind earlier frames nodes).2 =
      earlier.reverse ++ finish frames nodes := by
  induction frames generalizing nodes with
  | nil => simp [behind, finish]
  | cons frame frames ih =>
      have closed := ih (frame.close nodes .missing)
      rw [behind_close] at closed
      exact closed

theorem closeThrough?_behind (earlier : List Node) (name source : List Char)
    (frames : List Frame) (nodes : List Node) :
    closeThrough? name source (behind earlier frames nodes).1 (behind earlier frames nodes).2 =
      (closeThrough? name source frames nodes).map fun (outer, closed) =>
        behind earlier outer closed := by
  induction frames generalizing nodes with
  | nil => rfl
  | cons frame frames ih =>
      have inside := ih (frame.close nodes .missing)
      rw [behind_close] at inside
      simp only [behind, closeThrough?]
      split
      · rw [Option.map_some, behind_close]
      · exact inside

/-- Nodes that do not end in a text stay before everything that follows, and change nothing in
it. -/
theorem build_behind (noText : ∀ body before, earlier ≠ .text body :: before)
    (frames : List Frame) (nodes : List Node) (tokens : List Token) :
    build (behind earlier frames nodes).1 (behind earlier frames nodes).2 tokens =
      earlier.reverse ++ build frames nodes tokens := by
  fun_induction build frames nodes tokens with
  | case1 frames nodes => exact finish_behind earlier frames nodes
  | case2 frames nodes body tokens ih =>
      rw [behind_addText noText] at ih
      exact ih
  | case3 frames nodes body tokens ih =>
      rw [behind_cons] at ih
      exact ih
  | case4 frames nodes body tokens ih =>
      rw [behind_cons] at ih
      exact ih
  | case5 frames nodes source tokens ih =>
      rw [behind_cons] at ih
      exact ih
  | case6 frames nodes name source tokens outer closed found ih =>
      have found_behind := closeThrough?_behind earlier name source frames nodes
      rw [found, Option.map_some] at found_behind
      rw [build, found_behind]
      exact ih
  | case7 frames nodes name source tokens stray ih =>
      have stray_behind := closeThrough?_behind earlier name source frames nodes
      rw [stray, Option.map_none] at stray_behind
      rw [build, stray_behind]
      rw [behind_addText noText] at ih
      exact ih
  | case8 frames nodes tag selfClosing tokens deep =>
      have finished := finish_behind earlier frames
        (.text (sources (.startTag tag selfClosing :: tokens)) :: nodes)
      rw [behind_cons] at finished
      rw [build, if_pos (by rw [behind_length]; exact deep)]
      exact finished
  | case9 frames nodes tag tokens shallow ih =>
      rw [build, if_neg (by rw [behind_length]; exact shallow), if_pos rfl]
      rw [behind_cons] at ih
      exact ih
  | case10 frames nodes tag selfClosing tokens shallow opened void ih =>
      rw [build, if_neg (by rw [behind_length]; exact shallow), if_neg opened, if_pos void]
      rw [behind_cons] at ih
      exact ih
  | case11 frames nodes tag selfClosing tokens shallow opened content ih =>
      rw [build, if_neg (by rw [behind_length]; exact shallow), if_neg opened, if_neg content]
      exact ih
  | case12 frames nodes tag body closing tokens deep =>
      have finished := finish_behind earlier frames
        (.text (sources (.rawElement tag body closing :: tokens)) :: nodes)
      rw [behind_cons] at finished
      rw [build_rawElement, if_pos (by rw [behind_length]; exact deep)]
      exact finished
  | case13 frames nodes tag body closing tokens shallow children ended ih =>
      rw [build_rawElement, if_neg (by rw [behind_length]; exact shallow)]
      rw [behind_cons] at ih
      exact ih

end Earlier

end Markup
end MarkupTemplate
