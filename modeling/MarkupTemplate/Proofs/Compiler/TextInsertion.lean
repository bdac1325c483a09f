import MarkupTemplate.Proofs.Compiler.SourceEdits
import MarkupTemplate.Proofs.Markup.WrittenMarkup

/-!
Data in texts does not change the markup. Without directives and markers in start tags, rendering
replaces the markers in texts and nothing else. The outline of the output is then that of the
template, whatever the data is, unless the text around a marker leaves it to the data how it goes
on.
-/

namespace MarkupTemplate

open Markup

namespace Compiler

/-- What leaves the start tags as they are and every text escaped. -/
structure OnlyTexts (compiler : Compiler) (nodes : List Node) : Prop where
  no_directive : ∀ tag ∈ Node.startTags nodes, ∀ attr ∈ tag.attrs,
    compiler.isDirective attr = false
  no_marked_value : ∀ tag ∈ Node.startTags nodes, ∀ attr ∈ tag.attrs,
    hasMarker attr.text = false
  escaped : ∀ tag ∈ Node.startTags nodes, Vocabulary.isUnescapedText tag.name = false

theorem renderAll_filled_of
    {compiler : Compiler} {nodes : List Node} {scope : Scope}
    (each : ∀ node ∈ nodes, Node.sources (compiler.render .escaped node scope).nodes =
      node.filled (interpolate .escaped scope)) :
    Node.sources (compiler.renderAll .escaped nodes scope).nodes =
      Node.filledAll (interpolate .escaped scope) nodes := by
  induction nodes with
  | nil => rfl
  | cons node nodes ih =>
      have nodes_eq := ih fun other member => each other (by simp [member])
      simp only [renderAll, Rendered.append, Node.sources_append, each node (by simp), nodes_eq,
        Node.filledAll]

theorem render_filled
    {compiler : Compiler} {nodes : List Node} (only : compiler.OnlyTexts nodes) (scope : Scope)
    (node : Node) (inside : ∀ inner ∈ node.preorder, inner ∈ Node.preorders nodes) :
    Node.sources (compiler.render .escaped node scope).nodes =
      node.filled (interpolate .escaped scope) := by
  induction node using Node.tree_induction with
  | element tag children closing ih =>
      have here := Node.startTag_mem
        (inside (.element tag children closing) (by simp [Node.preorder]))
      have visited := visits_of_keepsAll (keepsAll_of_no_directive only.no_directive scope) here
      have kept := keptTag_plain (only.no_directive tag here) (only.no_marked_value tag here) scope
      have insertion_eq : tag.insertion = .escaped := by
        rw [StartTag.insertion, only.escaped tag here]
        rfl
      have content := renderAll_filled_of fun node member =>
        ih node member fun inner below =>
          inside inner (List.mem_cons_of_mem _ (Node.mem_preorders.2 ⟨node, member, below⟩))
      simp only [render, visited, kept, insertion_eq, List.map_cons, List.map_nil, Rendered.concat,
        Rendered.append, Rendered.empty, List.append_nil, Node.sources, Node.source, Node.filled,
        content]
  | text body => simp [render, Node.sources, Node.source, Node.filled]
  | comment body => simp [render, Node.sources, Node.source, Node.filled]
  | declaration source => simp [render, Node.sources, Node.source, Node.filled]

/-- Without directives and markers in start tags, the output is written part by part. -/
theorem compile_written
    {compiler : Compiler} {template : List Char} (only : compiler.OnlyTexts (parse template))
    (data : Json) :
    compiler.compile template data =
      writtenParts (Scope.root data) (textParts template) := by
  have rendered := renderAll_filled_of fun node member =>
    render_filled only (Scope.root data) node fun inner below =>
      Node.mem_preorders.2 ⟨node, member, below⟩
  rw [filled_parse (splits_interpolate (Scope.root data))] at rendered
  exact rendered

/-- The output has the outline of the template. -/
theorem outlines_compile
    {compiler : Compiler} {template : List Char} (only : compiler.OnlyTexts (parse template))
    (hidden : exposed (textParts template) = false) (data : Json) :
    Node.outlines (parse (compiler.compile template data)) =
      Node.outlines (parse template) := by
  have kept := keeps_markup (Scope.root data) template [] hidden
  rw [outlines_parse, outlines_parse, compile_written only]
  exact congrArg (build [] []) kept

/-- Data in texts does not inject markup: where no marker is exposed, the output has the same
elements, comments and declarations for all data. -/
theorem outlines_compile_same
    {compiler : Compiler} {template : List Char} (only : compiler.OnlyTexts (parse template))
    (hidden : exposed (textParts template) = false) (first second : Json) :
    Node.outlines (parse (compiler.compile template first)) =
      Node.outlines (parse (compiler.compile template second)) := by
  rw [outlines_compile only hidden, outlines_compile only hidden]

theorem outlines_compile_same_title :
    Node.outlines (parse (standard.compile
        ("<b>\x7b\x7bx\x7d\x7d</b></\x7b\x7bx\x7d\x7dz> < \x7b\x7bx\x7d\x7d".toList ++
          "<title>\x7b\x7bx\x7d\x7d</title><a href=\"\x7b\x7bx\x7d\x7d>".toList)
        (.object [("x", .string "/b></title>\" x=>")]))) =
      Node.outlines (parse (standard.compile
        ("<b>\x7b\x7bx\x7d\x7d</b></\x7b\x7bx\x7d\x7dz> < \x7b\x7bx\x7d\x7d".toList ++
          "<title>\x7b\x7bx\x7d\x7d</title><a href=\"\x7b\x7bx\x7d\x7d>".toList)
        (.object [("x", .string "\"><b>")]))) := by
  apply outlines_compile_same
  · constructor
    · decide +kernel
    · decide +kernel
    · decide +kernel
  · decide +kernel

/-- Directly behind a `<`, the data decides whether a tag opens. -/
theorem outlines_compile_not_always_same :
    ¬∀ (compiler : Compiler) (template : List Char) (first second : Json),
        compiler.OnlyTexts (parse template) →
          Node.outlines (parse (compiler.compile template first)) =
            Node.outlines (parse (compiler.compile template second)) := by
  intro always
  have only : standard.OnlyTexts (parse "<\x7b\x7bx\x7d\x7d>".toList) := by
    constructor
    · decide +kernel
    · decide +kernel
    · decide +kernel
  have same := always standard "<\x7b\x7bx\x7d\x7d>".toList (.object [("x", .string "b")])
    (.object [("x", .string "")]) only
  have opened : (Node.outlines (parse (standard.compile "<\x7b\x7bx\x7d\x7d>".toList
      (.object [("x", .string "b")])))).length = 1 := by
    decide +kernel
  have closed : (Node.outlines (parse (standard.compile "<\x7b\x7bx\x7d\x7d>".toList
      (.object [("x", .string "")])))).length = 0 := by
    decide +kernel
  rw [same, closed] at opened
  contradiction

end Compiler
end MarkupTemplate
