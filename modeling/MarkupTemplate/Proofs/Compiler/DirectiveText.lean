import MarkupTemplate.Proofs.Compiler.Unrolling
import MarkupTemplate.Proofs.Directive.Interpolation
import MarkupTemplate.Proofs.Markup.EnclosedText
import MarkupTemplate.Proofs.Markup.RoundTrip
import MarkupTemplate.Proofs.Text.References

/-!
Directives whose text is escaped. Inside double quotes an escaped text ends where it was put to end,
whatever characters it stands for, and the directive that is read there is the text before it was
escaped. So an element can be given any condition and any repeat.
-/

namespace MarkupTemplate
namespace Compiler

open Markup

def directedParagraph (name directive : List Char) : List Char :=
  "<p ".toList ++ name ++ "=\"".toList ++ Text.escape directive ++ "\">y</p>".toList

def directedTag (name directive : List Char) : StartTag where
  name := ['p']
  attrs := [⟨[' '], name, some ⟨[], [], .double, Text.escape directive⟩⟩]
  trailing := []

def plainParagraph : Node :=
  .element ⟨['p'], [], []⟩ [.text ['y']] (.explicit "</p>".toList)

theorem directedParagraph_eq (name directive : List Char) :
    directedParagraph name directive = enclosing (directedTag name directive) ['y'] [] := by
  simp [directedParagraph, enclosing, directedTag, StartTag.source, Attr.source, AttrValue.source,
    Quoting.mark, endTagText]

/-- No quote stands in an escaped text, so its value ends at the quote behind it. -/
theorem directedTag_separated (name directive : List Char) :
    (directedTag name directive).separated ['>'] = true := by
  have unquoted : '"' ∉ Text.escape directive :=
    Text.escape_no_delimiter (by decide) directive
  have blank : isTagName ' ' = false := by decide
  simp [StartTag.separated, StartTag.rest, directedTag, Attr.separated, Attr.endsBefore,
    AttrValue.endsBefore, Attr.source, unquoted, blank]

section Named

variable {name : List Char}
  (nonempty : name ≠ []) (named : name.all isAttrNameChar = true)

include nonempty named

theorem directedTag_shaped (directive : List Char) : (directedTag name directive).Shaped := by
  have blank : Text.isMarkupBlank ' ' = true := by decide
  have letter : isTagName 'p' = true := by decide
  have value_shaped : AttrValue.Shaped ⟨[], [], .double, Text.escape directive⟩ :=
    { before_blank := by simp
      after_blank := by simp
      bare_inside := fun bare => by contradiction
      bare_start := fun bare => by contradiction }
  have attr_shaped : Attr.Shaped ⟨[' '], name, some ⟨[], [], .double, Text.escape directive⟩⟩ :=
    { leading_blank := by simp [blank]
      name_shape := .inr ⟨nonempty, List.all_eq_true.1 named⟩
      value_shape := by
        rintro value ⟨⟩
        exact value_shaped }
  exact
    { name_start := ⟨'p', [], rfl, rfl⟩
      name_inside := by simp [directedTag, letter]
      attrs_shaped := by
        intro attr member
        rw [List.mem_singleton.1 member]
        exact attr_shaped
      trailing_blank := by simp [directedTag] }

theorem parse_directedParagraph (directive : List Char) :
    parse (directedParagraph name directive) =
      [.element (directedTag name directive) [.text ['y']] (.explicit "</p>".toList)] := by
  have content : Vocabulary.isVoid ['p'] = false := by decide +kernel
  have cooked : Vocabulary.isRawText ['p'] = false := by decide +kernel
  have fits : ∀ c ∈ ['p'], isEndTagName c = true := List.all_eq_true.1 (by decide)
  have plain : '<' ∉ ['y'] := by decide
  have parsed := parse_enclosing_closed (directedTag_shaped nonempty named directive)
    (directedTag_separated name directive) content cooked fits (by decide) plain []
  rw [directedParagraph_eq, parsed, parse_nil]
  rfl

theorem renderTemplate_directedParagraph (compiler : Compiler) (directive : List Char)
    (data : Json) :
    compiler.renderTemplate (directedParagraph name directive) data =
      Rendered.concat ((compiler.visits (directedTag name directive) (Scope.root data)).map
        (compiler.visited (directedTag name directive) [.text ['y']]
          (.explicit "</p>".toList))) := by
  rw [renderTemplate, parse_directedParagraph nonempty named, renderAll, renderAll,
    Rendered.append_empty, render_element]

end Named

theorem directive_of_directedTag (name directive : List Char) :
    (directedTag name directive).directive? name = some directive := by
  simp [StartTag.directive?, StartTag.attr?, directedTag, Attr.isNamed, Text.sameName_refl,
    Attr.text, Text.decode_escape]

theorem directive_of_other_name
    {name other : List Char} (distinct : Text.sameName name other = false)
    (directive : List Char) :
    (directedTag name directive).attr? other = none := by
  simp [StartTag.attr?, directedTag, Attr.isNamed, distinct]

/-- A directive is left out of the tag that is kept. -/
theorem visited_directedTag
    {compiler : Compiler} {name : List Char}
    (directs : name = compiler.repeatAttr ∨ name = compiler.conditionAttr)
    (directive : List Char) (scope inner : Scope) :
    compiler.visited (directedTag name directive) [.text ['y']] (.explicit "</p>".toList)
        (.keep (compiler.keptTag (directedTag name directive) scope) inner) =
      ⟨[plainParagraph], []⟩ := by
  have stripped : compiler.keptTag (directedTag name directive) scope = ⟨['p'], [], []⟩ := by
    rcases directs with rfl | rfl <;>
      simp [keptTag, directedTag, isDirective, Attr.isNamed, Text.sameName_refl]
  have unmarked : hasMarker ['y'] = false := by decide +kernel
  rw [visited, stripped, renderAll, renderAll, render, interpolate_of_no_marker unmarked]
  rfl

theorem visits_of_condition
    (directive : List Char) (scope : Scope) :
    standard.visits (directedTag standard.conditionAttr directive) scope =
      match checkCondition directive scope with
      | .error diagnostic => [.report diagnostic]
      | .ok true =>
          [.keep (standard.keptTag (directedTag standard.conditionAttr directive) scope) scope]
      | .ok false => [.skip] := by
  have unrepeated :
      (directedTag standard.conditionAttr directive).directive? standard.repeatAttr = none :=
    Option.map_eq_none_iff.2 (directive_of_other_name (by decide +kernel) directive)
  obtain ⟨attr, found, decoded⟩ :=
    Option.map_eq_some_iff.1 (directive_of_directedTag standard.conditionAttr directive)
  rw [visits_of_unrepeated unrepeated, visit, found]
  simp only [decoded]
  cases checkCondition directive scope with
  | error diagnostic => rfl
  | ok holds => cases holds <;> rfl

/-- A repeated paragraph without a condition is kept in every repetition. -/
theorem rendered_repetitions
    {directive : List Char} {scope : Scope} {spec : Repeat} {items : List Json}
    (parsed : Repeat.parse? directive = some spec)
    (array : scope.resolve? spec.source = some (.array items)) :
    (standard.visits (directedTag standard.repeatAttr directive) scope).map
        (standard.visited (directedTag standard.repeatAttr directive) [.text ['y']]
          (.explicit "</p>".toList)) =
      List.replicate items.length ⟨[plainParagraph], []⟩ := by
  have unconditional :
      (directedTag standard.repeatAttr directive).attr? standard.conditionAttr = none :=
    directive_of_other_name (by decide +kernel) directive
  have repeats : standard.Repeats (directedTag standard.repeatAttr directive) scope spec items :=
    repeats_of_directive (directive_of_directedTag _ directive) parsed array
  rw [visits_of_repeats repeats, List.map_map, ← List.length_zipIdx, ← List.map_const']
  apply List.map_congr_left
  intro pair _
  simp only [Function.comp_apply, visit, unconditional]
  exact visited_directedTag (.inl rfl) directive _ _

theorem compile_condition (directive : List Char) (data : Json) :
    standard.compileWithDiagnostics (directedParagraph standard.conditionAttr directive) data =
      match Condition.parse directive with
      | .error error => ([], [⟨.malformedCondition error, directive⟩])
      | .ok condition =>
          match condition.evaluate (Scope.root data) with
          | .error error => ([], [⟨.conditionFailed error, directive⟩])
          | .ok true => ("<p>y</p>".toList, [])
          | .ok false => ([], []) := by
  rw [compileWithDiagnostics, renderTemplate_directedParagraph (by decide) (by decide +kernel),
    visits_of_condition, checkCondition]
  cases Condition.parse directive with
  | error error => rfl
  | ok condition =>
      dsimp only
      cases condition.evaluate (Scope.root data) with
      | error error => rfl
      | ok holds =>
          cases holds with
          | false => rfl
          | true =>
              dsimp only
              rw [List.map_singleton, visited_directedTag (.inr rfl)]
              rfl

theorem compile_repeat (directive : List Char) (data : Json) :
    standard.compileWithDiagnostics (directedParagraph standard.repeatAttr directive) data =
      match Repeat.parse? directive with
      | none => ([], [⟨.malformedRepeat, directive⟩])
      | some spec =>
          match (Scope.root data).resolve? spec.source with
          | some (.array items) => ((List.replicate items.length "<p>y</p>".toList).flatten, [])
          | found =>
              ([], [⟨.repeatSourceNotArray spec.source (found.map Json.kind), directive⟩]) := by
  have directs := directive_of_directedTag standard.repeatAttr directive
  rw [compileWithDiagnostics, renderTemplate_directedParagraph (by decide) (by decide +kernel)]
  cases parsed : Repeat.parse? directive with
  | none =>
      rw [visits_of_malformed directs parsed]
      rfl
  | some spec =>
      dsimp only
      split
      · next items array =>
          have written : plainParagraph.source = "<p>y</p>".toList := rfl
          rw [rendered_repetitions parsed array, Rendered.concat_eq, Node.sources_eq_flatMap]
          simp only [List.flatMap_replicate, List.flatten_replicate_singleton, written,
            List.flatten_replicate_nil]
      · next unarrayed =>
          rw [visits_of_not_array directs parsed unarrayed]
          rfl

/-- Escaping is undone by decoding. So a condition that is escaped into a quoted attribute decides
as it stands whether its paragraph is kept, a repeat how often, and every diagnostic quotes the
directive as it was before it was escaped. -/
theorem escaped_directive_is_read_back :
    (∀ text, Text.decode (Text.escape text) = text) ∧
    (∀ directive data,
      standard.compileWithDiagnostics (directedParagraph standard.conditionAttr directive) data =
        match Condition.parse directive with
        | .error error => ([], [⟨.malformedCondition error, directive⟩])
        | .ok condition =>
            match condition.evaluate (Scope.root data) with
            | .error error => ([], [⟨.conditionFailed error, directive⟩])
            | .ok true => ("<p>y</p>".toList, [])
            | .ok false => ([], [])) ∧
    (∀ directive, ∃ tag children closing,
      parse (directedParagraph standard.repeatAttr directive) = [.element tag children closing] ∧
        tag.directive? standard.repeatAttr = some directive) ∧
    ∀ directive data,
      standard.compileWithDiagnostics (directedParagraph standard.repeatAttr directive) data =
        match Repeat.parse? directive with
        | none => ([], [⟨.malformedRepeat, directive⟩])
        | some spec =>
            match (Scope.root data).resolve? spec.source with
            | some (.array items) =>
                ((List.replicate items.length "<p>y</p>".toList).flatten, [])
            | found =>
                ([], [⟨.repeatSourceNotArray spec.source (found.map Json.kind), directive⟩]) := by
  refine ⟨Text.decode_escape, compile_condition, ?_, compile_repeat⟩
  intro directive
  exact ⟨_, _, _, parse_directedParagraph (by decide) (by decide +kernel) directive,
    directive_of_directedTag standard.repeatAttr directive⟩

end Compiler
end MarkupTemplate
