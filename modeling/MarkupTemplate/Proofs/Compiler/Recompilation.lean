import MarkupTemplate.Proofs.Compiler.Settled

/-!
Compiling output again. A tree without directives and markers is rendered to itself. The output of
a settled template is read back without directives; where it holds no marker either, compiling it
again changes nothing, whatever the data is then.
-/

namespace MarkupTemplate

open Markup

namespace Attr

theorem text_within (attr : Attr) : attr.text <:+: attr.source := by
  obtain ⟨leading, name, value⟩ := attr
  cases value with
  | none => exact List.nil_infix
  | some value =>
      exact ⟨leading ++ name ++ value.before ++ '=' :: value.after ++ value.quoting.mark,
        value.quoting.mark, by simp [Attr.text, Attr.source, AttrValue.source]⟩

end Attr

namespace Node

theorem attr_within {tag : StartTag} {attr : Attr} (member : attr ∈ tag.attrs)
    (children : List Node) (closing : Closing) :
    attr.source <:+: (Node.element tag children closing).source := by
  obtain ⟨before, after, attrs_eq⟩ := List.append_of_mem member
  refine ⟨'<' :: tag.name ++ before.flatMap Attr.source,
    after.flatMap Attr.source ++ tag.trailing ++ closing.tagEnd ++ sources children ++
      closing.source, ?_⟩
  simp [source, StartTag.source, attrs_eq]

theorem source_within_of_mem {node : Node} {nodes : List Node} (member : node ∈ nodes) :
    node.source <:+: sources nodes := by
  obtain ⟨before, after, rfl⟩ := List.append_of_mem member
  exact ⟨sources before, sources after, by simp [sources_append, sources]⟩

theorem source_within {inner : Node} (node : Node) (inside : inner ∈ node.preorder) :
    inner.source <:+: node.source := by
  induction node using tree_induction with
  | element tag children closing ih =>
      rw [preorder, List.mem_cons] at inside
      rcases inside with rfl | inside
      · exact List.infix_rfl
      · obtain ⟨node, member, below⟩ := mem_preorders.1 inside
        have content : sources children <:+: (Node.element tag children closing).source :=
          ⟨tag.source ++ closing.tagEnd, closing.source, by rw [source]⟩
        exact ((ih node member below).trans (source_within_of_mem member)).trans content
  | text body => exact List.mem_singleton.1 inside ▸ List.infix_rfl
  | comment body => exact List.mem_singleton.1 inside ▸ List.infix_rfl
  | declaration source => exact List.mem_singleton.1 inside ▸ List.infix_rfl

theorem source_within_sources {inner : Node} {nodes : List Node}
    (inside : inner ∈ preorders nodes) :
    inner.source <:+: sources nodes := by
  obtain ⟨node, member, below⟩ := mem_preorders.1 inside
  exact (source_within node below).trans (source_within_of_mem member)

end Node

namespace Compiler

/-- A text is left untouched if its start tags carry no directive and nothing in it is a marker. -/
theorem untouched_of_undirected
    {compiler : Compiler} {text : List Char}
    (undirected : compiler.undirected text = true)
    (unmarked : hasMarker (Node.sources (parse text)) = false) :
    compiler.Untouched (parse text) := by
  let plain (tag : StartTag) (_ : List Char) : Prop := compiler.undirectedTag tag = true
  have read : ∀ found ∈ scan text, ∀ tag selfClosing, found.tag? = some (tag, selfClosing) →
      plain tag (Token.tagEnd selfClosing) := by
    intro found member tag selfClosing tag_eq
    have undirected := List.all_eq_true.1 undirected found member
    rwa [tag_eq] at undirected
  constructor
  · intro tag inside attr member
    obtain ⟨children, closing, inside⟩ := Node.startTag_inside inside
    have undirected : plain tag closing.tagEnd := tags_parse read inside
    simpa using List.all_eq_true.1 undirected attr member
  · intro tag inside attr member
    obtain ⟨children, closing, inside⟩ := Node.startTag_inside inside
    have within := attr.text_within.trans (Node.attr_within member children closing)
    exact unmarked_within (within.trans (Node.source_within_sources inside)) unmarked
  · intro body inside
    exact unmarked_within (Node.source_within_sources (Node.text_inside inside)) unmarked

theorem renderAll_same
    {compiler : Compiler} {insertion : Insertion} {nodes : List Node} {scope : Scope}
    (each : ∀ node ∈ nodes, compiler.render insertion node scope = ⟨[node], []⟩) :
    compiler.renderAll insertion nodes scope = ⟨nodes, []⟩ := by
  induction nodes with
  | nil => rfl
  | cons node nodes ih =>
      rw [renderAll, each node (by simp), ih fun other member => each other (by simp [member])]
      rfl

theorem render_untouched
    {compiler : Compiler} {nodes : List Node} (untouched : compiler.Untouched nodes)
    (node : Node) (insertion : Insertion) (scope : Scope)
    (inside : ∀ inner ∈ node.preorder, inner ∈ Node.preorders nodes) :
    compiler.render insertion node scope = ⟨[node], []⟩ := by
  induction node using Node.tree_induction generalizing insertion with
  | element tag children closing ih =>
      have here := Node.startTag_mem (inside _ (Node.mem_preorder _))
      have plain : compiler.undirectedTag tag = true :=
        List.all_eq_true.2 fun attr member => by
          rw [untouched.no_directive tag here attr member]
          rfl
      have kept := keptTag_plain (untouched.no_directive tag here)
        (untouched.no_marked_value tag here) scope
      have content := renderAll_same fun node member =>
        ih node member tag.insertion fun inner below =>
          inside inner (List.mem_cons_of_mem _ (Node.mem_preorders.2 ⟨node, member, below⟩))
      rw [render_element, visits_of_undirected compiler plain, kept]
      simp [Rendered.concat, Rendered.append, Rendered.empty, visited, content]
  | text body =>
      have unmarked := untouched.no_marked_text body
        (Node.text_mem (inside _ (Node.mem_preorder _)))
      rw [render, interpolate_of_no_marker unmarked]
  | comment body => rw [render]
  | declaration source => rw [render]

/-- The marker-free output of a settled template is its own output, for whatever data, and compiling
it meets no problem. -/
theorem compile_again_same
    {compiler : Compiler} {template : List Char} {data : Json}
    (escaped : ∀ tag ∈ Node.startTags (parse template),
      Vocabulary.isUnescapedText tag.name = false)
    (settled : compiler.settledAll true true (parse template) = true)
    (unmarked : hasMarker (compiler.compile template data) = false) (again : Json) :
    compiler.compileWithDiagnostics (compiler.compile template data) again =
      (compiler.compile template data, []) := by
  have undirected := undirected_compile compiler escaped settled data
  generalize compiler.compile template data = output at undirected unmarked ⊢
  have whole : Node.sources (parse output) = output := by
    rw [parse, sources_build (chained_scan output), sources, scan_sources]
  -- from here on nothing is known of the template, only of its output
  have untouched : compiler.Untouched (parse output) :=
    untouched_of_undirected undirected (by rw [whole]; exact unmarked)
  have same : compiler.renderTemplate output again = ⟨parse output, []⟩ :=
    renderAll_same fun node member =>
      render_untouched untouched node .escaped (Scope.root again) fun inner below =>
        Node.mem_preorders.2 ⟨node, member, below⟩
  rw [compileWithDiagnostics, same, whole]

theorem compile_again_same_list :
    standard.compileWithDiagnostics "<ul class=\"s\"><li>1 < a<li>1 < b</ul> <".toList .null =
      ("<ul class=\"s\"><li>1 < a<li>1 < b</ul> <".toList, []) := by
  have output : standard.compile
      ("<ul class=\x7b\x7bs\x7d\x7d>".toList ++
        "<li ast-for=\"x in xs\" ast-if=\"x != s\">1 < \x7b\x7bx\x7d\x7d</ul> <".toList)
      (.object [("s", .string "s"), ("xs", .array [.string "a", .string "s", .string "b"])]) =
        "<ul class=\"s\"><li>1 < a<li>1 < b</ul> <".toList := by
    with_unfolding_all decide +kernel
  rw [← output]
  apply compile_again_same
  · decide +kernel
  · decide +kernel
  · rw [output]
    decide +kernel

/-- A marker can stand in the name of a tag and keep it from being one. With the marker gone, the
directive is read. -/
theorem compile_not_always_again_same :
    ¬∀ (compiler : Compiler) (template : List Char) (data : Json),
        (∀ tag ∈ Node.startTags (parse template),
          Vocabulary.isUnescapedText tag.name = false) →
          hasMarker (compiler.compile template data) = false →
            compiler.compileWithDiagnostics (compiler.compile template data) data =
              (compiler.compile template data, []) := by
  intro always
  have output : standard.compile "<\x7b\x7bx\x7d\x7d ast-if=\"f\">".toList
      (.object [("f", .bool false), ("x", .string "p")]) = "<p ast-if=\"f\">".toList := by
    with_unfolding_all decide +kernel
  have same := always standard "<\x7b\x7bx\x7d\x7d ast-if=\"f\">".toList
    (.object [("f", .bool false), ("x", .string "p")]) (by decide +kernel)
    (by rw [output]; decide +kernel)
  rw [output] at same
  have removed : (standard.compileWithDiagnostics "<p ast-if=\"f\">".toList
      (.object [("f", .bool false), ("x", .string "p")])).1 = [] := by
    with_unfolding_all decide +kernel
  rw [same] at removed
  contradiction

end Compiler
end MarkupTemplate
