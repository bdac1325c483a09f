import MarkupTemplate.Compiler
import MarkupTemplate.Proofs.Directive.Interpolation
import MarkupTemplate.Proofs.Markup.Elements
import MarkupTemplate.Proofs.Markup.RoundTrip

/-!
Rendering as edits of the source. A template is cut into segments whose sources are the template.
Where no element is repeated or left out, rendering deletes the segments that are directives, fills
the attribute values and texts that hold markers, and keeps every other segment as it is written.
-/

namespace MarkupTemplate

inductive Segment
  | kept (source : List Char)
  | directive (attr : Attr)
  /-- An attribute whose value holds markers. -/
  | filled (leading name : List Char) (value : AttrValue)
  | text (insertion : Insertion) (body : List Char)
deriving DecidableEq, Repr

namespace Segment

def source : Segment → List Char
  | .kept source => source
  | .directive attr => attr.source
  | .filled leading name value => leading ++ name ++ value.source
  | .text _ body => body

/-- The quotes around a value that is filled: its own, or double quotes where it has none. -/
def quote (value : AttrValue) : List Char :=
  if value.quoting = .bare then ['"'] else value.quoting.mark

def edit (scope : Scope) : Segment → List Char
  | .kept source => source
  | .directive _ => []
  | .filled leading name value =>
      leading ++ name ++ ['='] ++
        quote value ++ interpolate .escaped scope value.text ++ quote value
  | .text insertion body => interpolate insertion scope body

end Segment

namespace Compiler

def attrSegment (compiler : Compiler) (attr : Attr) : Segment :=
  if compiler.isDirective attr then .directive attr
  else
    match attr.value with
    | some value =>
        if hasMarker value.text then .filled attr.leading attr.name value else .kept attr.source
    | none => .kept attr.source

mutual

def segments (compiler : Compiler) (insertion : Insertion) : Node → List Segment
  | .element tag children closing =>
      .kept ('<' :: tag.name) :: tag.attrs.map compiler.attrSegment ++
        [.kept (tag.trailing ++ closing.tagEnd)] ++
        segmentsAll compiler tag.insertion children ++ [.kept closing.source]
  | .text body => [.text insertion body]
  | .comment body => [.kept (Node.commentSource body)]
  | .declaration source => [.kept source]

def segmentsAll (compiler : Compiler) (insertion : Insertion) : List Node → List Segment
  | [] => []
  | node :: nodes => segments compiler insertion node ++ segmentsAll compiler insertion nodes

end

theorem segmentsAll_eq_flatMap
    (compiler : Compiler) (insertion : Insertion) (nodes : List Node) :
    compiler.segmentsAll insertion nodes = nodes.flatMap (compiler.segments insertion) := by
  induction nodes with
  | nil => rfl
  | cons node nodes ih => simp [segmentsAll, ih]

theorem attrSegment_source (compiler : Compiler) (attr : Attr) :
    (compiler.attrSegment attr).source = attr.source := by
  unfold attrSegment
  split
  · rfl
  · split
    · next value value_eq =>
        split
        · simp [Segment.source, Attr.source, value_eq]
        · rfl
    · rfl

theorem segmentsAll_source_of
    {compiler : Compiler} {insertion : Insertion} {nodes : List Node}
    (each : ∀ node ∈ nodes,
      (compiler.segments insertion node).flatMap Segment.source = node.source) :
    (compiler.segmentsAll insertion nodes).flatMap Segment.source = Node.sources nodes := by
  rw [segmentsAll_eq_flatMap, List.flatMap_assoc, Node.sources_eq_flatMap]
  exact List.flatMap_congr each

theorem segments_source (compiler : Compiler) (node : Node) (insertion : Insertion) :
    (compiler.segments insertion node).flatMap Segment.source = node.source := by
  induction node using Node.tree_induction generalizing insertion with
  | element tag children closing ih =>
      have content := segmentsAll_source_of fun node member => ih node member tag.insertion
      have attrs : (tag.attrs.map compiler.attrSegment).flatMap Segment.source =
          tag.attrs.flatMap Attr.source := by
        rw [List.flatMap_map]
        exact List.flatMap_congr fun attr _ => attrSegment_source compiler attr
      simp only [segments, List.flatMap_append, List.flatMap_cons, List.flatMap_nil, content, attrs]
      simp [Segment.source, Node.source, StartTag.source]
  | text body => simp [segments, Segment.source, Node.source]
  | comment body => simp [segments, Segment.source, Node.source]
  | declaration source => simp [segments, Segment.source, Node.source]

/-- What keeps every element of `nodes` in place: no repeat, and conditions that hold. -/
structure KeepsAll (compiler : Compiler) (nodes : List Node) (scope : Scope) : Prop where
  no_repeat : ∀ tag ∈ Node.startTags nodes, ∀ attr ∈ tag.attrs,
    attr.isNamed compiler.repeatAttr = false
  conditions_hold : ∀ tag ∈ Node.startTags nodes, ∀ attr ∈ tag.attrs,
    attr.isNamed compiler.conditionAttr = true →
      checkCondition (Text.decode attr.text) scope = .ok true

theorem edit_attr (compiler : Compiler) (scope : Scope) (attr : Attr) :
    (compiler.attrSegment attr).edit scope =
      if compiler.isDirective attr then [] else (attr.interpolate scope).source := by
  unfold attrSegment
  split
  · rfl
  · obtain ⟨leading, name, value⟩ := attr
    cases value with
    | none => rfl
    | some value =>
        by_cases marked : hasMarker value.text = true
        · cases quoting : value.quoting <;>
            simp [marked, quoting, Segment.edit, Segment.quote, Attr.interpolate,
              AttrValue.interpolate, AttrValue.respell, Attr.source, AttrValue.source, Quoting.mark]
        · simp [marked, Segment.edit, Attr.interpolate, AttrValue.interpolate]

theorem edit_attrs (compiler : Compiler) (scope : Scope) (attrs : List Attr) :
    (attrs.map compiler.attrSegment).flatMap (Segment.edit scope) =
      ((attrs.filter fun attr => !compiler.isDirective attr).map
        (Attr.interpolate scope)).flatMap Attr.source := by
  induction attrs with
  | nil => rfl
  | cons attr attrs ih =>
      by_cases directive : compiler.isDirective attr = true
      · simp [directive, edit_attr, ih]
      · simp [directive, edit_attr, ih]

theorem visits_of_keepsAll
    {compiler : Compiler} {tag : StartTag} {nodes : List Node} {scope : Scope}
    (keeps : compiler.KeepsAll nodes scope) (inside : tag ∈ Node.startTags nodes) :
    compiler.visits tag scope = [.keep (compiler.keptTag tag scope) scope] := by
  have unrepeated : tag.attr? compiler.repeatAttr = none := by
    apply List.find?_eq_none.2
    intro attr member
    simp [keeps.no_repeat tag inside attr member]
  rw [visits, unrepeated]
  cases condition : tag.attr? compiler.conditionAttr with
  | none => simp [visit, condition]
  | some attr =>
      have member := List.mem_of_find?_eq_some condition
      have named := List.find?_some condition
      have holds := keeps.conditions_hold tag inside attr member named
      simp [visit, condition, holds]

theorem renderAll_edits_of
    {compiler : Compiler} {insertion : Insertion} {nodes : List Node} {scope : Scope}
    (each : ∀ node ∈ nodes,
      Node.sources (compiler.render insertion node scope).nodes =
          (compiler.segments insertion node).flatMap (Segment.edit scope) ∧
        (compiler.render insertion node scope).diagnostics = []) :
    Node.sources (compiler.renderAll insertion nodes scope).nodes =
        (compiler.segmentsAll insertion nodes).flatMap (Segment.edit scope) ∧
      (compiler.renderAll insertion nodes scope).diagnostics = [] := by
  induction nodes with
  | nil => exact ⟨rfl, rfl⟩
  | cons node nodes ih =>
      obtain ⟨node_eq, node_silent⟩ := each node (by simp)
      obtain ⟨nodes_eq, nodes_silent⟩ := ih fun other member => each other (by simp [member])
      simp [renderAll, segmentsAll, Rendered.append, Node.sources_append, node_eq, nodes_eq,
        node_silent, nodes_silent]

theorem render_edits
    {compiler : Compiler} {nodes : List Node} {scope : Scope}
    (keeps : compiler.KeepsAll nodes scope)
    (node : Node) (insertion : Insertion)
    (inside : ∀ inner ∈ node.preorder, inner ∈ Node.preorders nodes) :
    Node.sources (compiler.render insertion node scope).nodes =
        (compiler.segments insertion node).flatMap (Segment.edit scope) ∧
      (compiler.render insertion node scope).diagnostics = [] := by
  induction node using Node.tree_induction generalizing insertion with
  | element tag children closing ih =>
      have visited := visits_of_keepsAll keeps
        (Node.startTag_mem (inside (.element tag children closing) (by simp [Node.preorder])))
      have content := renderAll_edits_of fun node member =>
        ih node member tag.insertion fun inner below =>
          inside inner (List.mem_cons_of_mem _ (Node.mem_preorders.2 ⟨node, member, below⟩))
      obtain ⟨content_eq, silent⟩ := content
      simp only [render, visited, List.map_cons, List.map_nil, Rendered.concat, Rendered.append,
        Rendered.empty, List.append_nil, silent, and_true, segments, List.flatMap_append,
        List.flatMap_cons, List.flatMap_nil, edit_attrs, ← content_eq]
      simp [Node.sources, Node.source, StartTag.source, keptTag, Segment.edit]
  | text body => simp [render, segments, Segment.edit, Node.sources, Node.source]
  | comment body => simp [render, segments, Segment.edit, Node.sources, Node.source]
  | declaration source => simp [render, segments, Segment.edit, Node.sources, Node.source]

/-- What leaves a template as it is: neither directives nor, outside comments and declarations,
markers. -/
structure Untouched (compiler : Compiler) (nodes : List Node) : Prop where
  no_directive : ∀ tag ∈ Node.startTags nodes, ∀ attr ∈ tag.attrs,
    compiler.isDirective attr = false
  no_marked_value : ∀ tag ∈ Node.startTags nodes, ∀ attr ∈ tag.attrs,
    hasMarker attr.text = false
  no_marked_text : ∀ body ∈ Node.texts nodes, hasMarker body = false

theorem keepsAll_of_no_directive
    {compiler : Compiler} {nodes : List Node}
    (no_directive : ∀ tag ∈ Node.startTags nodes, ∀ attr ∈ tag.attrs,
      compiler.isDirective attr = false)
    (scope : Scope) :
    compiler.KeepsAll nodes scope := by
  constructor
  · intro tag inside attr member
    have plain := no_directive tag inside attr member
    exact (Bool.or_eq_false_iff.1 plain).1
  · intro tag inside attr member named
    have plain := no_directive tag inside attr member
    have unnamed := (Bool.or_eq_false_iff.1 plain).2
    rw [named] at unnamed
    contradiction

theorem interpolate_plain_attr {attr : Attr} (unmarked : hasMarker attr.text = false)
    (scope : Scope) :
    attr.interpolate scope = attr := by
  obtain ⟨leading, name, value⟩ := attr
  cases value with
  | none => rfl
  | some value =>
      have unmarkedValue : hasMarker value.text = false := unmarked
      simp [Attr.interpolate, AttrValue.interpolate, unmarkedValue]

theorem keptTag_plain
    {compiler : Compiler} {tag : StartTag}
    (no_directive : ∀ attr ∈ tag.attrs, compiler.isDirective attr = false)
    (unmarked : ∀ attr ∈ tag.attrs, hasMarker attr.text = false) (scope : Scope) :
    compiler.keptTag tag scope = tag := by
  have kept : tag.attrs.filter (fun attr => !compiler.isDirective attr) = tag.attrs := by
    apply List.filter_eq_self.2
    intro attr member
    rw [no_directive attr member]
    rfl
  have same : tag.attrs.map (Attr.interpolate scope) = tag.attrs := by
    conv_rhs => rw [← List.map_id tag.attrs]
    apply List.map_congr_left
    intro attr member
    exact interpolate_plain_attr (unmarked attr member) scope
  rw [keptTag, kept, same]

theorem edit_plain_attr
    {compiler : Compiler} {attr : Attr}
    (plain : compiler.isDirective attr = false) (unmarked : hasMarker attr.text = false)
    (scope : Scope) :
    (compiler.attrSegment attr).edit scope = attr.source := by
  rw [edit_attr, plain, interpolate_plain_attr unmarked]
  rfl

theorem edit_untouched
    {compiler : Compiler} {nodes : List Node}
    (untouched : compiler.Untouched nodes) (scope : Scope)
    (node : Node) (insertion : Insertion)
    (inside : ∀ inner ∈ node.preorder, inner ∈ Node.preorders nodes) :
    ∀ segment ∈ compiler.segments insertion node, segment.edit scope = segment.source := by
  induction node using Node.tree_induction generalizing insertion with
  | element tag children closing ih =>
      have here := Node.startTag_mem
        (inside (.element tag children closing) (by simp [Node.preorder]))
      intro segment member
      simp only [segments, segmentsAll_eq_flatMap, List.mem_append, List.mem_cons, List.mem_map,
        List.mem_flatMap, List.not_mem_nil, or_false] at member
      rcases member with (((rfl | ⟨attr, member, rfl⟩) | rfl) | ⟨node, member, below⟩) | rfl
      · rfl
      · rw [attrSegment_source]
        exact edit_plain_attr (untouched.no_directive tag here attr member)
          (untouched.no_marked_value tag here attr member) scope
      · rfl
      · exact ih node member tag.insertion (fun inner deeper =>
          inside inner (List.mem_cons_of_mem _ (Node.mem_preorders.2 ⟨node, member, deeper⟩)))
          segment below
      · rfl
  | text body =>
      have unmarked := untouched.no_marked_text body
        (Node.text_mem (inside _ (by simp [Node.preorder])))
      simp [segments, Segment.edit, Segment.source, interpolate_of_no_marker unmarked]
  | comment body => simp [segments, Segment.edit, Segment.source]
  | declaration source => simp [segments, Segment.edit, Segment.source]

/-- The segments of a template are its source. Where every element is kept and none is repeated,
the output is the segments as edited, without diagnostics; a template with nothing to edit is its
own output. -/
theorem compile_edits_source (compiler : Compiler) (template : List Char) (data : Json) :
    (compiler.segmentsAll .escaped (Markup.parse template)).flatMap Segment.source = template ∧
    (compiler.KeepsAll (Markup.parse template) (Scope.root data) →
      compiler.compileWithDiagnostics template data =
        ((compiler.segmentsAll .escaped (Markup.parse template)).flatMap
          (Segment.edit (Scope.root data)), [])) ∧
    (compiler.Untouched (Markup.parse template) →
      compiler.compileWithDiagnostics template data = (template, [])) := by
  have whole : (compiler.segmentsAll .escaped (Markup.parse template)).flatMap Segment.source =
      template := by
    rw [segmentsAll_source_of fun node _ => segments_source compiler node .escaped, Markup.parse,
      Markup.sources_build (Markup.chained_scan template), Markup.sources, Markup.scan_sources]
  have edited : compiler.KeepsAll (Markup.parse template) (Scope.root data) →
      compiler.compileWithDiagnostics template data =
        ((compiler.segmentsAll .escaped (Markup.parse template)).flatMap
          (Segment.edit (Scope.root data)), []) := by
    intro keeps
    obtain ⟨markup, silent⟩ := renderAll_edits_of fun node member =>
      render_edits keeps node .escaped fun inner below =>
        Node.mem_preorders.2 ⟨node, member, below⟩
    exact Prod.ext markup silent
  refine ⟨whole, edited, fun untouched => ?_⟩
  rw [edited (keepsAll_of_no_directive untouched.no_directive _)]
  refine Prod.ext ?_ rfl
  conv_rhs => rw [← whole]
  apply List.flatMap_congr
  intro segment member
  rw [segmentsAll_eq_flatMap, List.mem_flatMap] at member
  obtain ⟨node, member, below⟩ := member
  exact edit_untouched untouched _ node .escaped
    (fun inner deeper => Node.mem_preorders.2 ⟨node, member, deeper⟩) segment below

theorem compile_edits_source_paragraph :
    standard.compileWithDiagnostics
        "<p ast-if=\"ok\" class=\x7b\x7bc\x7d\x7d>\x7b\x7bc\x7d\x7d<br></p>".toList
        (.object [("c", .string "<"), ("ok", .bool true)]) =
      ("<p class=\"&lt;\">&lt;<br></p>".toList, []) ∧
    standard.compileWithDiagnostics "<br a><!-- \x7b\x7bc\x7d\x7d -->".toList .null =
      ("<br a><!-- \x7b\x7bc\x7d\x7d -->".toList, []) := by
  constructor
  · rw [(compile_edits_source standard _ _).2.1]
    · decide +kernel
    · constructor
      · decide +kernel
      · with_unfolding_all decide +kernel
  · apply (compile_edits_source standard _ _).2.2
    constructor
    · decide +kernel
    · decide +kernel
    · decide +kernel

end Compiler
end MarkupTemplate
