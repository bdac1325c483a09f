import MarkupTemplate.Proofs.Markup.StartTag

/-!
The first node of a tree. What follows it in the text, its own content included, changes neither
its start tag nor whether that closes itself, so the first token decides about it.
-/

namespace MarkupTemplate

def Node.opening? : Node → Option (StartTag × Bool)
  | .element tag _ closing => some (tag, closing == .selfClosing)
  | _ => none

namespace Markup

/-- What the first node would be if the input ended. -/
def firstOpening (frames : List Frame) (nodes : List Node) : Option (StartTag × Bool) :=
  (finish frames nodes).head?.bind Node.opening?

theorem first_opening_same
    {node other : Node} (same : node.opening? = other.opening?)
    (frames : List Frame) (nodes : List Node) :
    firstOpening frames (node :: nodes) = firstOpening frames (other :: nodes) := by
  induction frames generalizing node other nodes with
  | nil =>
      simp only [firstOpening, finish, List.reverse_cons]
      cases nodes.reverse with
      | nil => exact same
      | cons first rest => rfl
  | cons frame frames ih =>
      apply ih
      rfl

theorem first_opening_close
    {frame : Frame} {closing : Closing} (opened : closing ≠ .selfClosing)
    (frames : List Frame) (nodes : List Node) :
    firstOpening frames (frame.close nodes closing) = firstOpening (frame :: frames) nodes := by
  apply first_opening_same
  simp [Node.opening?, opened]

theorem first_opening_cons
    {frames : List Frame} {nodes : List Node} (started : frames ≠ [] ∨ nodes ≠ [])
    (node : Node) :
    firstOpening frames (node :: nodes) = firstOpening frames nodes := by
  cases frames with
  | nil =>
      have nonempty : nodes.reverse ≠ [] := by simpa using started
      cases reverse_eq : nodes.reverse with
      | nil => contradiction
      | cons first rest => simp only [firstOpening, finish, List.reverse_cons, reverse_eq]; rfl
  | cons frame frames =>
      change firstOpening frames (frame.close (node :: nodes) .missing) =
        firstOpening frames (frame.close nodes .missing)
      apply first_opening_same
      rfl

theorem first_opening_addText
    {frames : List Frame} {nodes : List Node} (started : frames ≠ [] ∨ nodes ≠ [])
    (added : List Char) :
    firstOpening frames (addText nodes added) = firstOpening frames nodes := by
  unfold addText
  split
  · apply first_opening_same
    rfl
  · exact first_opening_cons started _

theorem addText_ne_nil (nodes : List Node) (added : List Char) : addText nodes added ≠ [] := by
  unfold addText
  split <;> simp

theorem first_opening_closeThrough?
    {name source : List Char} {frames outer : List Frame} {nodes closed : List Node}
    (found : closeThrough? name source frames nodes = some (outer, closed)) :
    closed ≠ [] ∧ firstOpening outer closed = firstOpening frames nodes := by
  induction frames generalizing nodes with
  | nil => contradiction
  | cons frame frames ih =>
      simp only [closeThrough?] at found
      split at found
      · cases found
        exact ⟨by simp [Frame.close], first_opening_close (by simp) _ _⟩
      · obtain ⟨nonempty, same⟩ := ih found
        exact ⟨nonempty, same.trans (first_opening_close (by simp) _ _)⟩

/-- Once there is a node or an open element, the first node keeps its start tag. -/
theorem opening_of_build
    {frames : List Frame} {nodes : List Node} (started : frames ≠ [] ∨ nodes ≠ [])
    (tokens : List Token) :
    (build frames nodes tokens).head?.bind Node.opening? = firstOpening frames nodes := by
  fun_induction build frames nodes tokens with
  | case1 => rfl
  | case2 frames nodes body tokens ih =>
      rw [ih (.inr (addText_ne_nil nodes body)), first_opening_addText started]
  | case3 frames nodes body tokens ih => rw [ih (.inr (by simp)), first_opening_cons started]
  | case4 frames nodes body tokens ih => rw [ih (.inr (by simp)), first_opening_cons started]
  | case5 frames nodes source tokens ih => rw [ih (.inr (by simp)), first_opening_cons started]
  | case6 frames nodes name source tokens outer closed found ih =>
      obtain ⟨nonempty, same⟩ := first_opening_closeThrough? found
      rw [ih (.inr nonempty), same]
  | case7 frames nodes name source tokens stray ih =>
      rw [ih (.inr (addText_ne_nil nodes source)), first_opening_addText started]
  | case8 => exact first_opening_cons started _
  | case9 frames nodes tag tokens shallow ih => rw [ih (.inr (by simp)), first_opening_cons started]
  | case10 frames nodes tag selfClosing tokens shallow opened void ih =>
      rw [ih (.inr (by simp)), first_opening_cons started]
  | case11 frames nodes tag selfClosing tokens shallow opened content ih =>
      rw [ih (.inl (by simp))]
      exact first_opening_cons started _
  | case12 => exact first_opening_cons started _
  | case13 frames nodes tag body closing tokens shallow children ended ih =>
      rw [ih (.inr (by simp)), first_opening_cons started]

theorem opening_of_first (first : Token) (tokens : List Token) :
    (build [] [] (first :: tokens)).head?.bind Node.opening? = first.tag? := by
  have shallow : ¬maxDepth ≤ ([] : List Frame).length := by decide
  cases first with
  | text body => exact opening_of_build (.inr (by simp [addText])) tokens
  | unfinished body => exact opening_of_build (.inr (by simp)) tokens
  | comment body => exact opening_of_build (.inr (by simp)) tokens
  | declaration source => exact opening_of_build (.inr (by simp)) tokens
  | endTag name source => exact opening_of_build (.inr (by simp [addText])) tokens
  | startTag tag selfClosing =>
      simp only [build, if_neg shallow]
      cases selfClosing with
      | true =>
          rw [if_pos rfl, opening_of_build (.inr (by simp))]
          rfl
      | false =>
          rw [if_neg (by simp)]
          split
          · rw [opening_of_build (.inr (by simp))]
            rfl
          · rw [opening_of_build (.inl (by simp))]
            rfl
  | rawElement tag body closing =>
      simp only [build, if_neg shallow]
      rw [opening_of_build (.inr (by simp))]
      cases closing <;> rfl

/-- The first node is an element exactly if the first token has a start tag, and then it has the
same one. -/
theorem opening_of_parse (c : Char) (text : List Char) :
    (parse (c :: text)).head?.bind Node.opening? = (token c text).1.tag? := by
  rw [parse, scan, opening_of_first]

end Markup
end MarkupTemplate
