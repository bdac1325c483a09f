import MarkupTemplate.Proofs.Markup.OpenElements
import MarkupTemplate.Proofs.Markup.Rescan

/-!
A text without `<` between a start tag and the end tag of its name. It is the only child of the
element that the start tag opens; whether the end tag closes the element depends on the name.
-/

namespace MarkupTemplate
namespace Markup

def enclosing (tag : StartTag) (body rest : List Char) : List Char :=
  tag.source ++ '>' :: (body ++ (endTagText tag.name [] ++ '>' :: rest))

theorem parse_nil : parse [] = [] := by
  rw [parse, scan]
  rfl

theorem plainRun_exact {body text : List Char} (plain : '<' ∉ body) (opening : opens text = true) :
    plainRun (body ++ text) = (body, text) := by
  induction body with
  | nil =>
      cases text with
      | nil => contradiction
      | cons c text => rw [List.nil_append, plainRun, if_pos opening]
  | cons c body ih =>
      simp only [List.mem_cons, not_or] at plain
      rw [List.cons_append, plainRun, if_neg (not_opens (Ne.symm plain.1) _), ih plain.2]

theorem scan_plain
    {body text : List Char} (nonempty : body ≠ []) (plain : '<' ∉ body)
    (opening : opens text = true) :
    scan (body ++ text) = .text body :: scan text := by
  obtain ⟨c, body, rfl⟩ := List.exists_cons_of_ne_nil nonempty
  simp only [List.mem_cons, not_or] at plain
  have body_eq := plainRun_exact plain.2 opening
  have read := token_plain (not_opens (Ne.symm plain.1) (body ++ text))
  rw [body_eq] at read
  exact scan_of_token read

section Enclosing

variable {tag : StartTag}
  (shaped : tag.Shaped) (apart : tag.separated ['>'] = true)
  (content : Vocabulary.isVoid tag.name = false) (cooked : Vocabulary.isRawText tag.name = false)

include shaped apart content cooked

theorem parse_enclosing
    {body : List Char} (nonempty : body ≠ []) (plain : '<' ∉ body) (rest : List Char) :
    parse (enclosing tag body rest) =
      build [⟨tag, []⟩] [.text body] (scan (endTagText tag.name [] ++ '>' :: rest)) := by
  obtain ⟨text, text_eq, token_eq⟩ :=
    @token_of_source tag false shaped apart (body ++ (endTagText tag.name [] ++ '>' :: rest))
  have opened : token '<' text =
      (.startTag tag false, body ++ (endTagText tag.name [] ++ '>' :: rest)) := by
    simpa [cooked] using token_eq
  have ending : opens (endTagText tag.name [] ++ '>' :: rest) = true := by
    simp [endTagText, opens]
  have whole : enclosing tag body rest = '<' :: text := text_eq
  have shallow : ¬maxDepth ≤ ([] : List Frame).length := by decide
  rw [parse, whole, scan_of_token opened, scan_plain nonempty plain ending, build, if_neg shallow,
    if_neg (by simp), if_neg (by simp [content])]
  rfl

/-- An end tag that can hold the name closes the element, and what follows is parsed as if it stood
alone. -/
theorem parse_enclosing_closed
    (fits : ∀ c ∈ tag.name, isEndTagName c = true)
    {body : List Char} (nonempty : body ≠ []) (plain : '<' ∉ body) (rest : List Char) :
    parse (enclosing tag body rest) =
      .element tag [.text body] (.explicit (endTagText tag.name [] ++ ['>'])) :: parse rest := by
  obtain ⟨first, name, name_eq, _⟩ := shaped.name_start
  have shape : EndTagShape tag.name [] := ⟨by simp [name_eq], fits, by simp⟩
  have ended := scan_endTag_again shape rest
  have noText : ∀ inner before,
      [Node.element tag [.text body] (.explicit (endTagText tag.name [] ++ ['>']))] ≠
        .text inner :: before := by
    simp
  have sibling := build_behind noText [] [] (scan rest)
  rw [parse_enclosing shaped apart content cooked nonempty plain, ended, build]
  simp only [closeThrough?, Text.sameName_refl, if_true]
  exact sibling

end Enclosing
end Markup
end MarkupTemplate
