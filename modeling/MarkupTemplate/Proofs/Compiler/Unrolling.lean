import MarkupTemplate.Compiler
import MarkupTemplate.Proofs.Scope.Lookup

/-!
A repeated element is its copies in a row. Rendering it is rendering the element without its repeat
attributes once for each item, in a scope of its own on top of the scope around the element, which
stays as it is for everything behind it.
-/

namespace MarkupTemplate

namespace Text

theorem sameName_trans {first second third : List Char}
    (left : sameName first second = true) (right : sameName second third = true) :
    sameName first third = true := by
  simp only [sameName, beq_iff_eq] at left right ⊢
  exact left.trans right

end Text

namespace StartTag

/-- What the first attribute of a name directs: its value, with character references decoded. -/
def directive? (tag : StartTag) (name : List Char) : Option (List Char) :=
  (tag.attr? name).map fun attr => Text.decode attr.text

def without (name : List Char) (tag : StartTag) : StartTag :=
  { tag with attrs := tag.attrs.filter fun attr => !attr.isNamed name }

theorem attr?_without_self (name : List Char) (tag : StartTag) :
    (tag.without name).attr? name = none := by
  apply List.find?_eq_none.2
  intro attr member
  simpa using (List.mem_filter.1 member).2

theorem attr?_without_other
    {removed name : List Char} (distinct : Text.sameName removed name = false) (tag : StartTag) :
    (tag.without removed).attr? name = tag.attr? name := by
  simp only [attr?, without, List.find?_filter]
  congr 1
  funext attr
  cases named : attr.isNamed name with
  | false => simp
  | true =>
      have unremoved : attr.isNamed removed = false := by
        apply Bool.eq_false_iff.2
        intro same
        rw [Attr.isNamed, Text.sameName_comm] at same
        rw [Text.sameName_trans same named] at distinct
        contradiction
      simp [unremoved]

end StartTag

namespace Rendered

theorem append_empty (rendered : Rendered) : rendered.append empty = rendered := by
  simp [append, empty]

theorem empty_append (rendered : Rendered) : empty.append rendered = rendered := by
  simp [append, empty]

theorem append_assoc (first second third : Rendered) :
    (first.append second).append third = first.append (second.append third) := by
  simp [append]

theorem concat_eq (parts : List Rendered) :
    concat parts = ⟨parts.flatMap nodes, parts.flatMap diagnostics⟩ := by
  induction parts with
  | nil => rfl
  | cons part parts ih =>
      rw [concat, append, ih]
      rfl

end Rendered

namespace Compiler

def visited (compiler : Compiler) (tag : StartTag) (children : List Node) (closing : Closing) :
    Visit → Rendered
  | .keep kept inner =>
      let content := compiler.renderAll tag.insertion children inner
      ⟨[.element kept content.nodes closing], content.diagnostics⟩
  | .skip => .empty
  | .report diagnostic => ⟨[], [diagnostic]⟩

theorem render_element (compiler : Compiler) (insertion : Insertion) (tag : StartTag)
    (children : List Node) (closing : Closing) (scope : Scope) :
    compiler.render insertion (.element tag children closing) scope =
      Rendered.concat ((compiler.visits tag scope).map
        (compiler.visited tag children closing)) := by
  rw [render]
  rfl

/-- In a repetition the index hides an item of the same name, and both hide what the scope around
the element has under their names; every other name means what it means there. -/
theorem lookup?_repetition (spec : Repeat) (scope : Scope) (item : Json) (index : Nat)
    (name : String) :
    (repetition spec scope item index).lookup? name =
      if spec.index.map String.ofList = some name then some (.number (.ofNat index))
      else if name = String.ofList spec.item then some item
      else scope.lookup? name := by
  cases indexName : spec.index with
  | none =>
      simp only [repetition, indexName, Scope.lookup?_bind, Scope.lookup?_child]
      rfl
  | some bound =>
      simp only [repetition, indexName, Scope.lookup?_bind, Scope.lookup?_child, Option.map_some,
        Option.some.injEq, eq_comm (a := name) (b := String.ofList bound)]

structure Repeats (compiler : Compiler) (tag : StartTag) (scope : Scope) (spec : Repeat)
    (items : List Json) : Prop where
  directive : ((tag.attr? compiler.repeatAttr).bind fun attr =>
    Repeat.parse? (Text.decode attr.text)) = some spec
  source : scope.resolve? spec.source = some (.array items)

/-- The copies of an element in a row: one for each item, without its repeat attributes. -/
def unrolled (compiler : Compiler) (insertion : Insertion) (tag : StartTag)
    (children : List Node) (closing : Closing) (spec : Repeat) (items : List Json)
    (scope : Scope) : Rendered :=
  Rendered.concat (items.zipIdx.map fun (item, index) =>
    compiler.render insertion (.element (tag.without compiler.repeatAttr) children closing)
      (repetition spec scope item index))

theorem visits_of_repeats
    {compiler : Compiler} {tag : StartTag} {scope : Scope} {spec : Repeat} {items : List Json}
    (repeats : compiler.Repeats tag scope spec items) :
    compiler.visits tag scope =
      items.zipIdx.map fun (item, index) =>
        compiler.visit tag (repetition spec scope item index) := by
  obtain ⟨attr, named, parsed⟩ := Option.bind_eq_some_iff.1 repeats.directive
  simp only [visits, named, repetitions, parsed, repeats.source, List.map_map]
  rfl

section Visits

variable {compiler : Compiler} {tag : StartTag} {scope : Scope}

theorem visits_of_unrepeated (unrepeated : tag.directive? compiler.repeatAttr = none) :
    compiler.visits tag scope = [compiler.visit tag scope] := by
  simp only [visits, Option.map_eq_none_iff.1 unrepeated]

theorem visits_of_malformed
    {directive : List Char} (named : tag.directive? compiler.repeatAttr = some directive)
    (malformed : Repeat.parse? directive = none) :
    compiler.visits tag scope = [.report ⟨.malformedRepeat, directive⟩] := by
  obtain ⟨attr, found, rfl⟩ := Option.map_eq_some_iff.1 named
  simp only [visits, found, repetitions, malformed]

theorem visits_of_not_array
    {directive : List Char} {spec : Repeat}
    (named : tag.directive? compiler.repeatAttr = some directive)
    (parsed : Repeat.parse? directive = some spec)
    (unarrayed : ∀ items, scope.resolve? spec.source ≠ some (.array items)) :
    compiler.visits tag scope = [.report
      ⟨.repeatSourceNotArray spec.source ((scope.resolve? spec.source).map Json.kind),
        directive⟩] := by
  obtain ⟨attr, found, rfl⟩ := Option.map_eq_some_iff.1 named
  have failed : repetitions (Text.decode attr.text) scope = .error
      ⟨.repeatSourceNotArray spec.source ((scope.resolve? spec.source).map Json.kind),
        Text.decode attr.text⟩ := by
    simp only [repetitions, parsed]
  simp only [visits, found, failed]

theorem repeats_of_directive
    {directive : List Char} {spec : Repeat} {items : List Json}
    (named : tag.directive? compiler.repeatAttr = some directive)
    (parsed : Repeat.parse? directive = some spec)
    (array : scope.resolve? spec.source = some (.array items)) :
    compiler.Repeats tag scope spec items := by
  obtain ⟨attr, found, rfl⟩ := Option.map_eq_some_iff.1 named
  exact ⟨by rw [found, Option.bind_some, parsed], array⟩

end Visits

theorem keptTag_without_repeat (compiler : Compiler) (tag : StartTag) (scope : Scope) :
    compiler.keptTag (tag.without compiler.repeatAttr) scope = compiler.keptTag tag scope := by
  -- the kept tag has no directives anyway, so removing one kind of them first is idle
  have same : (tag.attrs.filter fun attr => !attr.isNamed compiler.repeatAttr).filter
      (fun attr => !compiler.isDirective attr) =
        tag.attrs.filter fun attr => !compiler.isDirective attr := by
    rw [List.filter_filter]
    apply List.filter_congr
    intro attr _
    cases repeated : attr.isNamed compiler.repeatAttr <;> simp [isDirective, repeated]
  simp only [keptTag, StartTag.without, same]

theorem renderAll_append (compiler : Compiler) (insertion : Insertion) (nodes others : List Node)
    (scope : Scope) :
    compiler.renderAll insertion (nodes ++ others) scope =
      (compiler.renderAll insertion nodes scope).append
        (compiler.renderAll insertion others scope) := by
  induction nodes with
  | nil => rw [List.nil_append, renderAll, Rendered.empty_append]
  | cons node nodes ih => rw [List.cons_append, renderAll, renderAll, ih, Rendered.append_assoc]

section Unrolling

variable {compiler : Compiler}
  (distinct : Text.sameName compiler.repeatAttr compiler.conditionAttr = false)

include distinct

/-- Its repeat attributes aside, an element is visited as it is. -/
theorem visits_without_repeat (tag : StartTag) (scope : Scope) :
    compiler.visits (tag.without compiler.repeatAttr) scope = [compiler.visit tag scope] := by
  simp only [visits, StartTag.attr?_without_self, visit, StartTag.attr?_without_other distinct,
    keptTag_without_repeat]

theorem render_of_repeats
    {tag : StartTag} {scope : Scope} {spec : Repeat} {items : List Json}
    (repeats : compiler.Repeats tag scope spec items)
    (insertion : Insertion) (children : List Node) (closing : Closing) :
    compiler.render insertion (.element tag children closing) scope =
      compiler.unrolled insertion tag children closing spec items scope := by
  simp only [unrolled, render, visits_of_repeats repeats, visits_without_repeat distinct,
    List.map_map, List.map_cons, List.map_nil, Rendered.concat, Rendered.append_empty]
  rfl

theorem renderAll_around
    {tag : StartTag} {scope : Scope} {spec : Repeat} {items : List Json}
    (repeats : compiler.Repeats tag scope spec items)
    (insertion : Insertion) (children : List Node) (closing : Closing) (before after : List Node) :
    compiler.renderAll insertion (before ++ .element tag children closing :: after) scope =
      (compiler.renderAll insertion before scope).append
        ((compiler.unrolled insertion tag children closing spec items scope).append
          (compiler.renderAll insertion after scope)) := by
  rw [renderAll_append, renderAll,
    render_of_repeats distinct repeats insertion children closing]

end Unrolling

/-- A repeated element renders as its copies in a row. In a list of nodes they stand in the place of
the element, and the nodes around it render as they do without it. An element repeated inside the
copies is unrolled again in each of them, in the scope of that copy. -/
theorem repeat_unrolls
    {compiler : Compiler}
    (distinct : Text.sameName compiler.repeatAttr compiler.conditionAttr = false)
    {tag : StartTag} {scope : Scope} {spec : Repeat} {items : List Json}
    (repeats : compiler.Repeats tag scope spec items)
    (insertion : Insertion) (children : List Node) (closing : Closing) :
    compiler.render insertion (.element tag children closing) scope =
      compiler.unrolled insertion tag children closing spec items scope ∧
    (∀ before after : List Node,
      compiler.renderAll insertion (before ++ .element tag children closing :: after) scope =
        (compiler.renderAll insertion before scope).append
          ((compiler.unrolled insertion tag children closing spec items scope).append
            (compiler.renderAll insertion after scope))) ∧
    ∀ (before after content : List Node) (inner : StartTag) (ending : Closing)
        (innerSpec : Repeat) (innerItems : List Json) (item : Json) (index : Nat),
      children = before ++ .element inner content ending :: after →
        compiler.Repeats inner (repetition spec scope item index) innerSpec innerItems →
          compiler.renderAll tag.insertion children (repetition spec scope item index) =
            (compiler.renderAll tag.insertion before (repetition spec scope item index)).append
              ((compiler.unrolled tag.insertion inner content ending innerSpec innerItems
                  (repetition spec scope item index)).append
                (compiler.renderAll tag.insertion after
                  (repetition spec scope item index))) := by
  refine ⟨render_of_repeats distinct repeats insertion children closing, ?_, ?_⟩
  · exact renderAll_around distinct repeats insertion children closing
  · intro before after content inner ending innerSpec innerItems item index children_eq again
    rw [children_eq]
    exact renderAll_around distinct again tag.insertion content ending before after

def tableRow : StartTag where
  name := "tr".toList
  attrs := [⟨[' '], "ast-for".toList, some ⟨[], [], .double, "(row, i) in rows".toList⟩⟩]
  trailing := []

def tableCell : StartTag where
  name := "td".toList
  attrs := [⟨[' '], "ast-for".toList, some ⟨[], [], .double, "cell in row".toList⟩⟩]
  trailing := []

def tableScope : Scope :=
  Scope.root (.object [("rows", .array
    [.array [.string "a"], .array [.string "b", .string "c"]])])

theorem repeat_unrolls_table :
    let cell := Node.element tableCell [.text "\x7b\x7bi\x7d\x7d\x7b\x7bcell\x7d\x7d".toList]
      (.explicit "</td>".toList)
    let spec : Repeat := ⟨"row".toList, some "i".toList, "rows".toList⟩
    let rows := [Json.array [.string "a"], .array [.string "b", .string "c"]]
    standard.render .escaped (.element tableRow [cell] (.explicit "</tr>".toList)) tableScope =
      standard.unrolled .escaped tableRow [cell] (.explicit "</tr>".toList) spec rows tableScope ∧
    Node.sources (standard.unrolled .escaped tableRow [cell] (.explicit "</tr>".toList) spec rows
      tableScope).nodes =
        "<tr><td>0a</td></tr><tr><td>1b</td><td>1c</td></tr>".toList := by
  refine ⟨(repeat_unrolls (by decide +kernel) ⟨?_, ?_⟩ _ _ _).1, ?_⟩
  · decide +kernel
  · rfl
  · decide +kernel

end Compiler
end MarkupTemplate
