import MarkupTemplate.Compiler
import MarkupTemplate.Proofs.Markup.EnclosedText
import MarkupTemplate.Proofs.Markup.RoundTrip

/-!
Which elements are closed by the end tag of their own name. A start tag takes any characters but
blanks, `/` and `>` into its name, an end tag only letters, digits and hyphens. An element of a name
that both take is closed where its end tag stands, and what follows is rendered as if it stood
alone; an element of any other name takes in all that follows.
-/

namespace MarkupTemplate
namespace Markup

def enclosed (tag : StartTag) (rest : List Char) : List Char :=
  tag.source ++ '>' :: 'x' :: (endTagText tag.name [] ++ '>' :: rest)

def closedElement (tag : StartTag) : Node :=
  .element tag [.text ['x']] (.explicit (endTagText tag.name [] ++ ['>']))

section Enclosed

variable {tag : StartTag}

theorem parse_enclosed
    (shaped : tag.Shaped) (apart : tag.separated ['>'] = true)
    (content : Vocabulary.isVoid tag.name = false) (cooked : Vocabulary.isRawText tag.name = false)
    (rest : List Char) :
    parse (enclosed tag rest) =
      build [⟨tag, []⟩] [.text ['x']] (scan (endTagText tag.name [] ++ '>' :: rest)) := by
  have plain : '<' ∉ ['x'] := by decide
  exact parse_enclosing shaped apart content cooked (by decide) plain rest

/-- The end tag closes the element if it can hold the name. -/
theorem parse_enclosed_closed
    (shaped : tag.Shaped) (apart : tag.separated ['>'] = true)
    (content : Vocabulary.isVoid tag.name = false) (cooked : Vocabulary.isRawText tag.name = false)
    (fits : ∀ c ∈ tag.name, isEndTagName c = true) (rest : List Char) :
    parse (enclosed tag rest) = closedElement tag :: parse rest := by
  have plain : '<' ∉ ['x'] := by decide
  exact parse_enclosing_closed shaped apart content cooked fits (by decide) plain rest

/-- An element whose name no end tag can hold stays open to the end of the input. -/
theorem parse_enclosed_unclosed
    (shaped : tag.Shaped) (apart : tag.separated ['>'] = true)
    (content : Vocabulary.isVoid tag.name = false) (cooked : Vocabulary.isRawText tag.name = false)
    (strange : ¬∀ c ∈ tag.name, isEndTagName c = true) (rest : List Char) :
    ∃ children, parse (enclosed tag rest) = [.element tag children .missing] ∧
      Node.sources children = 'x' :: (endTagText tag.name [] ++ '>' :: rest) := by
  have unnamed : NeverNamed tag (scan (endTagText tag.name [] ++ '>' :: rest)) := by
    intro name source member
    obtain ⟨blanks, shape, _⟩ := endTag_of_scan member
    apply Bool.eq_false_iff.2
    intro same
    exact strange (endTagName_of_sameName same shape.name_inside)
  have outermost : Outermost tag [⟨tag, []⟩] := ⟨[], rfl⟩
  obtain ⟨children, build_eq⟩ := build_unclosed outermost [.text ['x']] unnamed
  rw [← parse_enclosed shaped apart content cooked] at build_eq
  refine ⟨children, build_eq, ?_⟩
  have source_eq := sources_parse (enclosed tag rest)
  rw [build_eq] at source_eq
  simpa [Node.sources, Node.source, Closing.tagEnd, Closing.source, enclosed] using source_eq

end Enclosed
end Markup

namespace Compiler

open Markup

/-- An element of any name that is neither void nor raw text is closed by the end tag of its own
name exactly if the name holds nothing but letters, digits and hyphens. Then what stands behind it
is parsed and rendered as if it stood alone, whatever becomes of the element; otherwise the element
takes in all that stands behind its start tag. -/
theorem closed_by_own_end_tag_iff
    {tag : StartTag} (shaped : tag.Shaped) (apart : tag.separated ['>'] = true)
    (content : Vocabulary.isVoid tag.name = false) (cooked : Vocabulary.isRawText tag.name = false)
    (rest : List Char) :
    (parse (enclosed tag rest) = closedElement tag :: parse rest ↔
      ∀ c ∈ tag.name, isEndTagName c = true) ∧
    ((∀ c ∈ tag.name, isEndTagName c = true) →
      ∀ compiler data, renderTemplate compiler (enclosed tag rest) data =
        (compiler.render .escaped (closedElement tag) (Scope.root data)).append
          (compiler.renderTemplate rest data)) ∧
    ((¬∀ c ∈ tag.name, isEndTagName c = true) →
      ∃ children, parse (enclosed tag rest) = [.element tag children .missing] ∧
        Node.sources children = 'x' :: (endTagText tag.name [] ++ '>' :: rest)) := by
  have closed := fun fits => parse_enclosed_closed shaped apart content cooked fits rest
  have unclosed := fun strange => parse_enclosed_unclosed shaped apart content cooked strange rest
  refine ⟨⟨?_, closed⟩, ?_, unclosed⟩
  · intro parsed
    by_contra strange
    obtain ⟨children, parsed_open, _⟩ := unclosed strange
    rw [parsed_open] at parsed
    simp [closedElement] at parsed
  · intro fits compiler data
    rw [renderTemplate, closed fits]
    rfl

def conditionalTag (name : List Char) : StartTag where
  name := name
  attrs := [⟨[' '], "ast-if".toList, some ⟨[], [], .double, ['f']⟩⟩]
  trailing := []

theorem closed_by_own_end_tag_card :
    parse "<x-card ast-if=\"f\">x</x-card>after".toList =
      closedElement (conditionalTag "x-card".toList) :: parse "after".toList ∧
    standard.compile "<x-card ast-if=\"f\">x</x-card>after".toList
      (.object [("f", .bool false)]) = "after".toList := by
  have opened : parse "<x-card ast-if=\"f\">".toList =
      [.element (conditionalTag "x-card".toList) [] .missing] := by
    with_unfolding_all rfl
  have inside : .element (conditionalTag "x-card".toList) [] .missing ∈
      Node.preorders (parse "<x-card ast-if=\"f\">".toList) := by
    rw [opened]
    exact List.Mem.head _
  obtain ⟨shaped, apart⟩ := parsed_tag_sound inside
  obtain ⟨closed, rendered, _⟩ :=
    closed_by_own_end_tag_iff shaped apart (by decide +kernel) (by decide +kernel) "after".toList
  have plain : "x-card".toList.all isEndTagName = true := by decide +kernel
  have fits : ∀ c ∈ "x-card".toList, isEndTagName c = true := List.all_eq_true.1 plain
  have dropped := rendered fits standard (.object [("f", .bool false)])
  constructor
  · exact closed.2 fits
  · refine (congrArg (fun whole => Node.sources whole.nodes) dropped).trans ?_
    decide +kernel

/-- An end tag with a colon in its name is text, and what stands behind it goes with the element. -/
theorem not_always_closed_by_own_end_tag :
    (¬∀ (tag : StartTag) (rest : List Char), tag.Shaped → tag.separated ['>'] = true →
      Vocabulary.isVoid tag.name = false → Vocabulary.isRawText tag.name = false →
        parse (enclosed tag rest) = closedElement tag :: parse rest) ∧
    standard.compile "<o:p ast-if=\"f\">x</o:p>after".toList
      (.object [("f", .bool false)]) = [] := by
  constructor
  · intro always
    have opened : parse "<o:p ast-if=\"f\">x</o:p>after".toList =
        [.element (conditionalTag "o:p".toList) [.text "x</o:p>after".toList] .missing] := by
      with_unfolding_all rfl
    have inside : .element (conditionalTag "o:p".toList) [.text "x</o:p>after".toList] .missing ∈
        Node.preorders (parse "<o:p ast-if=\"f\">x</o:p>after".toList) := by
      rw [opened]
      exact List.Mem.head _
    obtain ⟨shaped, apart⟩ := parsed_tag_sound inside
    have closed := always (conditionalTag "o:p".toList) "after".toList shaped apart
      (by decide +kernel) (by decide +kernel)
    rw [show enclosed (conditionalTag "o:p".toList) "after".toList =
      "<o:p ast-if=\"f\">x</o:p>after".toList from rfl, opened] at closed
    simp [closedElement] at closed
  · decide +kernel

end Compiler
end MarkupTemplate
