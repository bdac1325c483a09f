import MarkupTemplate.Proofs.Markup.Reader

/-!
Which markers the data can complete markup with. The text shown for a marker holds no delimiter, so
it can only complete what begins with a `<` in front of the marker and ends with a `>` behind it: a
token that opens with the marker, the end tag of an element that is open there, and the tag or the
comment that the marker stands in and that would not end otherwise.
-/

namespace MarkupTemplate
namespace Markup

/-- Whether what stands behind some `<` passes a test. -/
def behindOpening (test : List Piece → Bool) : List Piece → Bool
  | [] => false
  | .literal c :: pieces => c == '<' && test pieces || behindOpening test pieces
  | .marker _ :: pieces => behindOpening test pieces

/-- Whether a `<` may open a token, `later` being what follows the pieces behind it. -/
def mayOpen (later : List Char) : List Piece → Bool
  | .marker _ :: pieces => (Piece.sources pieces ++ later).contains '>'
  | _ => false

def mayClose (name : List Char) (pieces : List Piece) : Bool :=
  !name.isEmpty && name.all isEndTagName && Reader.endTag.mayFinish ('/' :: name) pieces

/-- An end tag may stand behind a `<` exactly if some text that the pieces can become is one. -/
theorem mayClose_iff {name : List Char} {pieces : List Piece} :
    mayClose name pieces = true ↔
      ∃ text found, Fills pieces text ∧ endTagName? ('<' :: text) = some found ∧
        Text.sameName found name = true := by
  constructor
  · intro foreseen
    simp only [mayClose, Bool.and_eq_true, Bool.not_eq_true', List.isEmpty_eq_false_iff,
      List.all_eq_true] at foreseen
    obtain ⟨⟨nonempty, inside⟩, foreseen⟩ := foreseen
    obtain ⟨text, fills, finished⟩ := Reader.endTag.mayFinish_iff.1 foreseen
    rw [Reader.endTag_finishes nonempty inside, Option.any_eq_true] at finished
    obtain ⟨found, read, same⟩ := finished
    exact ⟨text, found, fills, read, same⟩
  · rintro ⟨text, found, fills, read, same⟩
    obtain ⟨blanks, rest, shape, _⟩ := endTagName?_sound read
    have inside := endTagName_of_sameName same shape.name_inside
    have nonempty : name ≠ [] := by
      rintro rfl
      exact shape.nonempty (List.map_eq_nil_iff.1 (beq_iff_eq.1 same))
    have finished : Reader.endTag.finishes ('/' :: name) text = true := by
      rw [Reader.endTag_finishes nonempty inside, read]
      exact same
    rw [mayClose, Reader.endTag.mayFinish_of_fills fills finished]
    simpa [nonempty] using inside

/-- Whether some marker in a part is exposed, `later` being what follows the part. -/
def Part.exposes (later : List Char) : Part → Bool
  | .markup (.rawElement tag body _) => behindOpening (mayClose tag.name) (Piece.split body)
  | .markup _ => false
  | .inert opened body =>
      match body with
      | '<' :: '/' :: inner =>
          opened.any fun name => mayClose name (.literal '/' :: Piece.split inner)
      | _ => behindOpening (mayOpen later) (Piece.split body)
  | .broken opened body =>
      match body with
      | '<' :: '!' :: '-' :: '-' :: inner => Reader.comment.mayFinish .inside (Piece.split inner)
      | '<' :: inner =>
          if maxDepth ≤ opened.length then false
          else Reader.startTag.mayFinish .tagName (Piece.split inner)
      | _ => false
  | .beyond _ => false

def exposed : List Part → Bool
  | [] => false
  | part :: later => part.exposes (later.flatMap Part.source) || exposed later

end Markup
end MarkupTemplate
