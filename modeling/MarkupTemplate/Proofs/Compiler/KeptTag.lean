import MarkupTemplate.Compiler
import MarkupTemplate.Proofs.Compiler.SourceEdits
import MarkupTemplate.Proofs.Markup.TagMeaning

/-!
Reading the start tag of a rendered element again. Deleting a directive deletes the blanks before it
too, and a bare value that holds markers is put into double quotes. Both can make the pieces of the
tag run into each other; whether they do shows in the template, whatever the data is.
-/

namespace MarkupTemplate

namespace Attr

/-- An attribute that is spelled as it is rendered, with its markers still in it. -/
def respelled (attr : Attr) : Attr :=
  { attr with
    value := attr.value.map fun value =>
      if hasMarker value.text then value.respell value.text else value }

end Attr

namespace Compiler

def keptAttrs (compiler : Compiler) (tag : StartTag) : List Attr :=
  tag.attrs.filter fun attr => !compiler.isDirective attr

def strippedTag (compiler : Compiler) (tag : StartTag) : StartTag where
  name := tag.name
  attrs := (compiler.keptAttrs tag).map Attr.respelled
  trailing := tag.trailing

/-- What the start tag of a kept element is meant to say. -/
def meantTag (compiler : Compiler) (tag : StartTag) (closing : Closing) (scope : Scope) :
    TagMeaning where
  name := tag.name
  attrs := (compiler.keptAttrs tag).map fun attr =>
    (attr.name, attr.value.map fun value => interpolate .escaped scope value.text)
  selfClosing := closing == .selfClosing

end Compiler

namespace Markup

/-- Attributes that run into what follows them in the same places. -/
def SameEnd (attr other : Attr) : Prop :=
  ∀ following otherFollowing, SameStart following otherFollowing →
    attr.endsBefore following = other.endsBefore otherFollowing ∧
      SameStart (attr.source ++ following) (other.source ++ otherFollowing)

theorem same_end_refl (attr : Attr) : SameEnd attr attr := by
  intro following otherFollowing same
  exact ⟨same.endsBefore_eq attr, same.append attr.source⟩

theorem same_end_respell
    {leading name text otherText : List Char} {value : AttrValue}
    (same_quotes : ∀ c ∈ Text.markupDelimiters, c ∈ text ↔ c ∈ otherText) :
    SameEnd ⟨leading, name, some (value.respell text)⟩
      ⟨leading, name, some (value.respell otherText)⟩ := by
  intro following otherFollowing _
  have single := same_quotes '\'' (by decide)
  have double := same_quotes '"' (by decide)
  constructor
  · cases quoting : value.quoting <;>
      simp [Attr.endsBefore, AttrValue.endsBefore, AttrValue.respell, quoting, single, double]
  · have signs : ∀ left right : List Char, SameStart ('=' :: left) ('=' :: right) :=
      fun left right => ⟨rfl, by simp, rfl⟩
    simp only [Attr.source, AttrValue.source, AttrValue.respell, Option.map_some, Option.getD_some,
      List.append_assoc, List.nil_append, List.cons_append]
    exact ((signs _ _).append name).append leading

theorem same_end_interpolate (scope : Scope) (attr : Attr) :
    SameEnd (attr.interpolate scope) attr.respelled := by
  obtain ⟨leading, name, value⟩ := attr
  cases value with
  | none => exact same_end_refl _
  | some value =>
      by_cases marked : hasMarker value.text = true
      · simp only [Attr.interpolate, AttrValue.interpolate, Attr.respelled, Option.map_some,
          if_pos marked]
        exact same_end_respell fun c delimits => mem_interpolate_iff delimits scope value.text
      · simp only [Attr.interpolate, AttrValue.interpolate, Attr.respelled, Option.map_some,
          if_neg marked]
        exact same_end_refl _

theorem separated_map
    {render spell : Attr → Attr} (same : ∀ attr, SameEnd (render attr) (spell attr))
    (attrs : List Attr) (ending : List Char) :
    Attr.separated (attrs.map render) ending = Attr.separated (attrs.map spell) ending ∧
      SameStart ((attrs.map render).flatMap Attr.source ++ ending)
        ((attrs.map spell).flatMap Attr.source ++ ending) := by
  induction attrs with
  | nil => exact ⟨rfl, rfl, fun _ => rfl, rfl⟩
  | cons attr attrs ih =>
      obtain ⟨ends, start⟩ := same attr _ _ ih.2
      simp only [List.map_cons, List.flatMap_cons, List.append_assoc, Attr.separated]
      exact ⟨by rw [ends, ih.1], start⟩

theorem hollow_last_filter
    {ending : List Char} {attrs : List Attr} (hollow : Attr.HollowLast ending attrs)
    (p : Attr → Bool) :
    Attr.HollowLast ending (attrs.filter p) := by
  induction attrs with
  | nil => trivial
  | cons attr attrs ih =>
      rw [List.filter_cons]
      split
      · refine ⟨fun value value_eq empty => ?_, ih hollow.2⟩
        obtain ⟨alone, closes⟩ := hollow.1 value value_eq empty
        exact ⟨by rw [alone, List.filter_nil], closes⟩
      · exact ih hollow.2

theorem hollow_last_interpolate
    {ending : List Char} {attrs : List Attr} (hollow : Attr.HollowLast ending attrs)
    (scope : Scope) :
    Attr.HollowLast ending (attrs.map (Attr.interpolate scope)) := by
  induction attrs with
  | nil => trivial
  | cons attr attrs ih =>
      refine ⟨fun rendered rendered_eq empty => ?_, ih hollow.2⟩
      obtain ⟨value, value_eq, interpolated⟩ := Option.map_eq_some_iff.1 rendered_eq
      have same : value.interpolate scope = value := by
        unfold AttrValue.interpolate at interpolated ⊢
        split at interpolated
        · have bare := empty.1
          rw [← interpolated] at bare
          cases quoting : value.quoting <;> simp [AttrValue.respell, quoting] at bare
        · next unmarked => rw [if_neg unmarked]
      rw [same] at interpolated
      obtain ⟨alone, closes⟩ := hollow.1 value value_eq (interpolated ▸ empty)
      exact ⟨by rw [alone, List.map_nil], closes⟩

theorem respell_shaped (value : AttrValue) (text : List Char) : (value.respell text).Shaped := by
  have quoted : (value.respell text).quoting ≠ .bare := by
    cases quoting : value.quoting <;> simp [AttrValue.respell, quoting]
  exact
    { before_blank := by simp [AttrValue.respell]
      after_blank := by simp [AttrValue.respell]
      bare_inside := fun bare => absurd bare quoted
      bare_start := fun bare => absurd bare quoted }

theorem attr_interpolate_shaped {attr : Attr} (shaped : attr.Shaped) (scope : Scope) :
    (attr.interpolate scope).Shaped := by
  refine ⟨shaped.leading_blank, shaped.name_shape, fun rendered rendered_eq => ?_⟩
  obtain ⟨value, value_eq, interpolated⟩ := Option.map_eq_some_iff.1 rendered_eq
  rw [← interpolated, AttrValue.interpolate]
  split
  · exact respell_shaped value _
  · exact shaped.value_shape value value_eq

theorem attr_interpolate_meaning (scope : Scope) (attr : Attr) :
    (attr.interpolate scope).meaning =
      (attr.name, attr.value.map fun value => interpolate .escaped scope value.text) := by
  obtain ⟨leading, name, value⟩ := attr
  cases value with
  | none => rfl
  | some value =>
      by_cases marked : hasMarker value.text = true
      · simp [Attr.meaning, Attr.interpolate, AttrValue.interpolate, marked, AttrValue.respell]
      · simp [Attr.meaning, Attr.interpolate, AttrValue.interpolate, marked,
          interpolate_of_no_marker]

end Markup

namespace Compiler

open Markup

theorem keptTag_shaped {tag : StartTag} (shaped : tag.Shaped) (compiler : Compiler)
    (scope : Scope) :
    (compiler.keptTag tag scope).Shaped := by
  refine ⟨shaped.name_start, shaped.name_inside, ?_, shaped.trailing_blank⟩
  intro attr member
  obtain ⟨original, kept, rfl⟩ := List.mem_map.1 member
  exact attr_interpolate_shaped (shaped.attrs_shaped original (List.mem_filter.1 kept).1) scope

theorem keptTag_hollow_last
    {tag : StartTag} {ending : List Char}
    (shaped : tag.Shaped) (apart : tag.separated ending = true)
    (compiler : Compiler) (scope : Scope) :
    Attr.HollowLast (tag.trailing ++ ending) (compiler.keptTag tag scope).attrs := by
  simp only [StartTag.separated, Bool.and_eq_true] at apart
  have hollow := hollow_last_of_separated shaped.attrs_shaped apart.2
  exact hollow_last_interpolate (hollow_last_filter hollow _) scope

theorem keptTag_separated (compiler : Compiler) (tag : StartTag) (scope : Scope)
    (ending : List Char) :
    (compiler.keptTag tag scope).separated ending =
      (compiler.strippedTag tag).separated ending := by
  obtain ⟨separated_eq, start⟩ := separated_map (same_end_interpolate scope)
    (compiler.keptAttrs tag) (tag.trailing ++ ending)
  have head_eq : ((compiler.keptTag tag scope).rest ending).head? =
      ((compiler.strippedTag tag).rest ending).head? := start.head
  rw [StartTag.separated, StartTag.separated, head_eq]
  exact congrArg _ separated_eq

theorem keptTag_meaning (compiler : Compiler) (tag : StartTag) (closing : Closing) (scope : Scope) :
    (compiler.keptTag tag scope).meaning (closing == .selfClosing) =
      compiler.meantTag tag closing scope := by
  simp [StartTag.meaning, keptTag, meantTag, keptAttrs, attr_interpolate_meaning]

theorem kept_of_visit
    {compiler : Compiler} {tag kept : StartTag} {scope inner : Scope}
    (visited : compiler.visit tag scope = .keep kept inner) :
    kept = compiler.keptTag tag inner := by
  unfold visit at visited
  split at visited
  · cases visited
    rfl
  · split at visited
    · contradiction
    · cases visited
      rfl
    · contradiction

theorem kept_of_visits
    {compiler : Compiler} {tag kept : StartTag} {scope inner : Scope}
    (visited : .keep kept inner ∈ compiler.visits tag scope) :
    kept = compiler.keptTag tag inner := by
  unfold visits at visited
  split at visited
  · exact kept_of_visit (List.mem_singleton.1 visited).symm
  · split at visited
    · cases List.mem_singleton.1 visited
    · obtain ⟨repeated, _, visit_eq⟩ := List.mem_map.1 visited
      exact kept_of_visit visit_eq

theorem tagEnd_eq (closing : Closing) :
    closing.tagEnd = Token.tagEnd (closing == .selfClosing) := by
  cases closing <;> rfl

/-- A rendered element is read again with the start tag it is meant to have, whatever the data is,
exactly if the pieces of its start tag still end where they should once the directives are deleted
and the bare values with markers are quoted. -/
theorem kept_tag_read_again_iff
    {compiler : Compiler} {template : List Char} {tag kept : StartTag} {children : List Node}
    {closing : Closing} {scope inner : Scope}
    (inside : .element tag children closing ∈ Node.preorders (parse template))
    (visited : .keep kept inner ∈ compiler.visits tag scope) :
    firstMeaning? (Node.source
          (.element kept (compiler.renderAll tag.insertion children inner).nodes closing)) =
        some (compiler.meantTag tag closing inner) ↔
      (compiler.strippedTag tag).separated closing.tagEnd = true := by
  obtain ⟨shaped, apart⟩ := parsed_tag_sound inside
  have hollow := keptTag_hollow_last shaped apart compiler inner
  rw [kept_of_visits visited, ← keptTag_meaning, ← keptTag_separated compiler tag inner]
  rw [tagEnd_eq] at hollow ⊢
  rw [← first_meaning_iff (keptTag_shaped shaped compiler inner) hollow
    (Node.sources (compiler.renderAll tag.insertion children inner).nodes ++ closing.source)]
  simp only [Node.source, tagEnd_eq, List.append_assoc]

def paragraph (blanks : List Char) : StartTag where
  name := ['p']
  attrs := [
    ⟨[' '], "ast-if".toList, some ⟨[], [], .double, ['t']⟩⟩,
    ⟨blanks, "class".toList, some ⟨[], [], .bare, "\x7b\x7bc\x7d\x7d".toList⟩⟩]
  trailing := []

def paragraphScope : Scope :=
  Scope.root (.object [("c", .string "<"), ("t", .bool true)])

theorem visits_paragraph (blanks : List Char) :
    .keep (standard.keptTag (paragraph blanks) paragraphScope) paragraphScope ∈
      standard.visits (paragraph blanks) paragraphScope := by
  have unrepeated : (paragraph blanks).attr? standard.repeatAttr = none := rfl
  have conditional : (paragraph blanks).attr? standard.conditionAttr =
      some ⟨[' '], "ast-if".toList, some ⟨[], [], .double, ['t']⟩⟩ := rfl
  have holds : checkCondition (Text.decode ['t']) paragraphScope = .ok true := by
    with_unfolding_all decide +kernel
  rw [visits, unrepeated]
  simp only [visit, conditional, Attr.text, Option.map_some, Option.getD_some, holds,
    List.mem_singleton]

theorem kept_paragraph_read_again :
    firstMeaning? (Node.source
        (.element (standard.keptTag (paragraph [' ']) paragraphScope)
          (standard.renderAll .escaped [.text ['y']] paragraphScope).nodes
          (.explicit "</p>".toList))) =
      some ⟨['p'], [("class".toList, some "&lt;".toList)], false⟩ := by
  have tree : parse "<p ast-if=\"t\" class=\x7b\x7bc\x7d\x7d>y</p>".toList =
      [.element (paragraph [' ']) [.text ['y']] (.explicit "</p>".toList)] := by
    with_unfolding_all rfl
  have inside : .element (paragraph [' ']) [.text ['y']] (.explicit "</p>".toList) ∈
      Node.preorders (parse "<p ast-if=\"t\" class=\x7b\x7bc\x7d\x7d>y</p>".toList) := by
    rw [tree]
    exact List.Mem.head _
  have apart : (standard.strippedTag (paragraph [' '])).separated ['>'] = true := by
    decide +kernel
  have read := (kept_tag_read_again_iff inside (visits_paragraph [' '])).2 apart
  have meant : standard.meantTag (paragraph [' ']) (.explicit "</p>".toList) paragraphScope =
      ⟨['p'], [("class".toList, some "&lt;".toList)], false⟩ := by
    decide +kernel
  rw [meant] at read
  exact read

/-- Without blanks between them, deleting a directive leaves the attribute behind it to the name of
the tag. -/
theorem kept_tag_not_always_read_again :
    ¬∀ (compiler : Compiler) (template : List Char) (tag kept : StartTag) (children : List Node)
        (closing : Closing) (scope inner : Scope),
        .element tag children closing ∈ Node.preorders (parse template) →
          .keep kept inner ∈ compiler.visits tag scope →
            firstMeaning? (Node.source (.element kept
                (compiler.renderAll tag.insertion children inner).nodes closing)) =
              some (compiler.meantTag tag closing inner) := by
  intro always
  have tree : parse "<p ast-if=\"t\"class=\x7b\x7bc\x7d\x7d>y</p>".toList =
      [.element (paragraph []) [.text ['y']] (.explicit "</p>".toList)] := by
    with_unfolding_all rfl
  have glued := always standard "<p ast-if=\"t\"class=\x7b\x7bc\x7d\x7d>y</p>".toList
    (paragraph []) _ [.text ['y']] (.explicit "</p>".toList) paragraphScope paragraphScope
    (by rw [tree]; exact List.Mem.head _) (visits_paragraph [])
  have rendered : Node.source (.element (standard.keptTag (paragraph []) paragraphScope)
      (standard.renderAll (paragraph []).insertion [.text ['y']] paragraphScope).nodes
      (.explicit "</p>".toList)) = "<pclass=\"&lt;\">y</p>".toList := by
    decide +kernel
  have read : firstMeaning? "<pclass=\"&lt;\">y</p>".toList =
      some ⟨"pclass=\"&lt;\"".toList, [], false⟩ := by
    decide +kernel
  have meant : standard.meantTag (paragraph []) (.explicit "</p>".toList) paragraphScope =
      ⟨['p'], [("class".toList, some "&lt;".toList)], false⟩ := by
    decide +kernel
  rw [rendered, read, meant] at glued
  exact absurd (congrArg TagMeaning.name (Option.some.inj glued)) (by decide +kernel)

end Compiler
end MarkupTemplate
