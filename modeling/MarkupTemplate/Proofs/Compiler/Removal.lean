import Mathlib.Data.List.Forall2
import MarkupTemplate.Proofs.Compiler.VisitOrder

/-!
Removed elements. An element that no visit keeps adds nothing to the output, and the problems that
it adds come from its directives alone: what it holds and what its other attributes say is never
read. This is so wherever in a tree it stands and however often rendering comes there.
-/

namespace MarkupTemplate

/-- A place for an element in a tree: among nodes, or in the content of an element that stands among
nodes. -/
inductive Place
  | among (before after : List Node)
  | inside (before : List Node) (tag : StartTag) (inner : Place) (closing : Closing)
      (after : List Node)

namespace Place

def fill (node : Node) : Place → List Node
  | .among before after => before ++ node :: after
  | .inside before tag inner closing after =>
      before ++ .element tag (inner.fill node) closing :: after

/-- The scopes in which rendering comes to a place, in turn. -/
def scopes (compiler : Compiler) : Place → Scope → List Scope
  | .among _ _, scope => [scope]
  | .inside _ tag inner _ _, scope =>
      (compiler.visits tag scope).flatMap fun
        | .keep _ within => inner.scopes compiler within
        | _ => []

end Place

namespace Visit

def keeps : Visit → Bool
  | .keep _ _ => true
  | _ => false

end Visit

namespace Compiler

def directives (compiler : Compiler) (tag : StartTag) : List Attr :=
  tag.attrs.filter compiler.isDirective

/-- The condition of an element is not met in a scope, with the problem that this makes. -/
inductive Unmet (compiler : Compiler) (tag : StartTag) (scope : Scope) : List Diagnostic → Prop
  | malformed {directive : List Char} {error : Condition.Error}
      (named : tag.directive? compiler.conditionAttr = some directive)
      (refused : Condition.parse directive = .error error) :
      Unmet compiler tag scope [⟨.malformedCondition error, directive⟩]
  | failed {directive : List Char} {condition : Condition} {error : Condition.Error}
      (named : tag.directive? compiler.conditionAttr = some directive)
      (parsed : Condition.parse directive = .ok condition)
      (fails : condition.evaluate scope = .error error) :
      Unmet compiler tag scope [⟨.conditionFailed error, directive⟩]
  | no {directive : List Char} {condition : Condition}
      (named : tag.directive? compiler.conditionAttr = some directive)
      (parsed : Condition.parse directive = .ok condition)
      (denied : condition.evaluate scope = .ok false) :
      Unmet compiler tag scope []

/-- An element is removed in a scope, with the problems that this makes: one for a repeat that names
no array, otherwise those of its condition, which is checked for every item of the array. -/
inductive Removed (compiler : Compiler) (tag : StartTag) (scope : Scope) : List Diagnostic → Prop
  | malformedRepeat {directive : List Char}
      (named : tag.directive? compiler.repeatAttr = some directive)
      (malformed : Repeat.parse? directive = none) :
      Removed compiler tag scope [⟨.malformedRepeat, directive⟩]
  | notArray {directive : List Char} {spec : Repeat}
      (named : tag.directive? compiler.repeatAttr = some directive)
      (parsed : Repeat.parse? directive = some spec)
      (unarrayed : ∀ items, scope.resolve? spec.source ≠ some (.array items)) :
      Removed compiler tag scope [⟨.repeatSourceNotArray spec.source
        ((scope.resolve? spec.source).map Json.kind), directive⟩]
  | repeated {directive : List Char} {spec : Repeat} {items : List Json}
      {problems : List (List Diagnostic)}
      (named : tag.directive? compiler.repeatAttr = some directive)
      (parsed : Repeat.parse? directive = some spec)
      (array : scope.resolve? spec.source = some (.array items))
      (each : List.Forall₂ (fun entry => compiler.Unmet tag (repetition spec scope entry.1 entry.2))
        items.zipIdx problems) :
      Removed compiler tag scope problems.flatten
  | single {problems : List Diagnostic}
      (unrepeated : tag.directive? compiler.repeatAttr = none)
      (unmet : compiler.Unmet tag scope problems) :
      Removed compiler tag scope problems

section Problems

variable {compiler : Compiler} {tag : StartTag} {scope : Scope}

/-- A visit that the condition does not let pass leaves its problem only. -/
theorem visited_of_unmet
    {problems : List Diagnostic} (unmet : compiler.Unmet tag scope problems)
    (children : List Node) (closing : Closing) :
    compiler.visited tag children closing (compiler.visit tag scope) = ⟨[], problems⟩ := by
  cases unmet with
  | malformed named refused =>
      obtain ⟨attr, found, rfl⟩ := Option.map_eq_some_iff.1 named
      simp only [visit, found, checkCondition, refused, visited]
  | failed named parsed fails =>
      obtain ⟨attr, found, rfl⟩ := Option.map_eq_some_iff.1 named
      simp only [visit, found, checkCondition, parsed, fails, visited]
  | no named parsed denied =>
      obtain ⟨attr, found, rfl⟩ := Option.map_eq_some_iff.1 named
      simp only [visit, found, checkCondition, parsed, denied, visited, Rendered.empty]

theorem concat_of_bare
    {α : Type} {entries : List α} {problems : List (List Diagnostic)} {rendered : α → Rendered}
    (bare : List.Forall₂ (fun entry problem => rendered entry = ⟨[], problem⟩) entries problems) :
    Rendered.concat (entries.map rendered) = ⟨[], problems.flatten⟩ := by
  induction bare with
  | nil => rfl
  | cons here _ ih =>
      rw [List.map_cons, Rendered.concat, here, ih]
      rfl

/-- A removed element leaves its problems only. -/
theorem render_of_removed
    {problems : List Diagnostic} (removed : compiler.Removed tag scope problems)
    (insertion : Insertion) (children : List Node) (closing : Closing) :
    compiler.render insertion (.element tag children closing) scope = ⟨[], problems⟩ := by
  rw [render_element]
  cases removed with
  | malformedRepeat named malformed =>
      rw [visits_of_malformed named malformed]
      rfl
  | notArray named parsed unarrayed =>
      rw [visits_of_not_array named parsed unarrayed]
      rfl
  | repeated named parsed array each =>
      rw [visits_of_repeats (repeats_of_directive named parsed array), List.map_map]
      apply concat_of_bare
      exact each.imp fun _ _ unmet => visited_of_unmet unmet children closing
  | single unrepeated unmet =>
      rw [visits_of_unrepeated unrepeated, List.map_singleton, Rendered.concat,
        visited_of_unmet unmet]
      exact Rendered.append_empty _

/-- The problems of a removed element are met in the visits to it. -/
theorem visits_of_removed
    {problems : List Diagnostic} (removed : compiler.Removed tag scope problems) :
    (compiler.visits tag scope).filterMap Visit.problem? = problems := by
  have each : ∀ visit : Visit,
      (compiler.visited tag [] .missing visit).diagnostics = visit.problem?.toList := by
    intro visit
    cases visit <;> rfl
  have rendered := render_of_removed removed .escaped [] .missing
  rw [render_element, Rendered.concat_eq] at rendered
  have met := congrArg Rendered.diagnostics rendered
  simp only [List.flatMap_map, each] at met
  rw [List.filterMap_eq_flatMap_toList, met]

theorem unkept_of_removed
    {problems : List Diagnostic} (removed : compiler.Removed tag scope problems) :
    ∀ visit ∈ compiler.visits tag scope, visit.keeps = false := by
  have rendered := render_of_removed removed .escaped [] .missing
  rw [render_element, Rendered.concat_eq] at rendered
  have bare := List.flatMap_eq_nil_iff.1 (congrArg Rendered.nodes rendered)
  intro visit made
  have here := bare _ (List.mem_map_of_mem made)
  cases visit with
  | keep kept inner => contradiction
  | skip => rfl
  | report diagnostic => rfl

theorem unmet_of_unkept (unkept : (compiler.visit tag scope).keeps = false) :
    ∃ problems, compiler.Unmet tag scope problems := by
  cases named : tag.directive? compiler.conditionAttr with
  | none =>
      rw [visit, Option.map_eq_none_iff.1 named] at unkept
      contradiction
  | some directive =>
      cases parsed : Condition.parse directive with
      | error error => exact ⟨_, .malformed named parsed⟩
      | ok condition =>
          cases value : condition.evaluate scope with
          | error error => exact ⟨_, .failed named parsed value⟩
          | ok holds =>
              cases holds with
              | false => exact ⟨_, .no named parsed value⟩
              | true =>
                  obtain ⟨attr, found, rfl⟩ := Option.map_eq_some_iff.1 named
                  simp only [visit, found, checkCondition, parsed, value] at unkept
                  contradiction

theorem removed_of_unkept (unkept : ∀ visit ∈ compiler.visits tag scope, visit.keeps = false) :
    ∃ problems, compiler.Removed tag scope problems := by
  cases named : tag.directive? compiler.repeatAttr with
  | none =>
      rw [visits_of_unrepeated named] at unkept
      obtain ⟨problems, unmet⟩ := unmet_of_unkept (unkept _ List.mem_cons_self)
      exact ⟨problems, .single named unmet⟩
  | some directive =>
      cases parsed : Repeat.parse? directive with
      | none => exact ⟨_, .malformedRepeat named parsed⟩
      | some spec =>
          by_cases array : ∃ items, scope.resolve? spec.source = some (.array items)
          · obtain ⟨items, resolved⟩ := array
            rw [visits_of_repeats (repeats_of_directive named parsed resolved)] at unkept
            have each : ∀ entry : Json × Nat, ∃ problems, entry ∈ items.zipIdx →
                compiler.Unmet tag (repetition spec scope entry.1 entry.2) problems := by
              intro entry
              by_cases member : entry ∈ items.zipIdx
              · obtain ⟨problems, unmet⟩ :=
                  unmet_of_unkept (unkept _ (List.mem_map.2 ⟨entry, member, rfl⟩))
                exact ⟨problems, fun _ => unmet⟩
              · exact ⟨[], fun inside => absurd inside member⟩
            choose problems unmet using each
            exact ⟨_, .repeated named parsed resolved
              (List.forall₂_map_right_iff.2 (List.forall₂_same.2 unmet))⟩
          · exact ⟨_, .notArray named parsed fun items resolved => array ⟨items, resolved⟩⟩

/-- An element is removed exactly where no visit keeps it. -/
theorem removed_iff_unkept :
    (∃ problems, compiler.Removed tag scope problems) ↔
      ∀ visit ∈ compiler.visits tag scope, visit.keeps = false :=
  ⟨fun ⟨_, removed⟩ => unkept_of_removed removed, removed_of_unkept⟩

end Problems

section Directives

variable {compiler : Compiler} {tag other : StartTag} {scope : Scope}

theorem directive?_of_directives
    (same : compiler.directives other = compiler.directives tag) {name : List Char}
    (directs : ∀ attr : Attr, attr.isNamed name = true → compiler.isDirective attr = true) :
    other.directive? name = tag.directive? name := by
  have among : ∀ some : StartTag,
      some.attr? name = (compiler.directives some).find? (Attr.isNamed name) := by
    intro some
    rw [StartTag.attr?, directives, List.find?_filter]
    congr 1
    funext attr
    rw [Bool.eq_iff_iff, decide_eq_true_iff]
    exact ⟨fun named => ⟨directs attr named, named⟩, And.right⟩
  rw [StartTag.directive?, StartTag.directive?, among, among, same]

/-- Whether an element is removed is told by its directives. -/
theorem Removed.of_directives
    {problems : List Diagnostic} (removed : compiler.Removed tag scope problems)
    (same : compiler.directives other = compiler.directives tag) :
    compiler.Removed other scope problems := by
  have repeat_eq : other.directive? compiler.repeatAttr = tag.directive? compiler.repeatAttr :=
    directive?_of_directives same fun attr named => by simp [isDirective, named]
  have condition_eq :
      other.directive? compiler.conditionAttr = tag.directive? compiler.conditionAttr :=
    directive?_of_directives same fun attr named => by simp [isDirective, named]
  have unmet_same : ∀ {scope : Scope} {problems : List Diagnostic},
      compiler.Unmet tag scope problems → compiler.Unmet other scope problems := by
    intro scope problems unmet
    cases unmet with
    | malformed named refused => exact .malformed (condition_eq.trans named) refused
    | failed named parsed fails => exact .failed (condition_eq.trans named) parsed fails
    | no named parsed denied => exact .no (condition_eq.trans named) parsed denied
  cases removed with
  | malformedRepeat named malformed => exact .malformedRepeat (repeat_eq.trans named) malformed
  | notArray named parsed unarrayed => exact .notArray (repeat_eq.trans named) parsed unarrayed
  | repeated named parsed array each =>
      exact .repeated (repeat_eq.trans named) parsed array (each.imp fun _ _ => unmet_same)
  | single unrepeated unmet => exact .single (repeat_eq.trans unrepeated) (unmet_same unmet)

end Directives

/-- Two nodes that render alike wherever rendering comes to a place can stand there in turn. -/
theorem renderAll_fill_congr
    {compiler : Compiler} {one other : Node} {place : Place} {scope : Scope}
    (same : ∀ inner ∈ place.scopes compiler scope, ∀ insertion,
      compiler.render insertion one inner = compiler.render insertion other inner)
    (insertion : Insertion) :
    compiler.renderAll insertion (place.fill one) scope =
      compiler.renderAll insertion (place.fill other) scope := by
  induction place generalizing scope insertion with
  | among before after =>
      rw [Place.fill, Place.fill, renderAll_append, renderAll_append, renderAll, renderAll,
        same scope List.mem_cons_self insertion]
  | inside before tag inner closing after ih =>
      have element_same : compiler.render insertion (.element tag (inner.fill one) closing) scope =
          compiler.render insertion (.element tag (inner.fill other) closing) scope := by
        rw [render_element, render_element]
        congr 1
        apply List.map_congr_left
        intro visit made
        cases visit with
        | keep kept within =>
            have content := ih (fun deeper reached =>
              same deeper (List.mem_flatMap.2 ⟨_, made, reached⟩)) tag.insertion
            simp only [visited, content]
        | skip => rfl
        | report diagnostic => rfl
      rw [Place.fill, Place.fill, renderAll_append, renderAll_append, renderAll, renderAll,
        element_same]

/-- An element that is removed wherever rendering comes to it leaves no trace but the problems with
its directives: any other element with the same directives in its place gives the same output and
the same problems. In one scope it gives no output, and the problems are those of its repeat or, for
each item in turn, of its condition. The problems of a rendering are those of all visits, in the
order of the document, and there is one visit at every address that rendering comes to. -/
theorem removed_leaves_problems_only
    {compiler : Compiler} {place : Place} {tag : StartTag} {data : Json}
    (removed : ∀ scope ∈ place.scopes compiler (Scope.root data),
      ∃ problems, compiler.Removed tag scope problems) :
    (∀ (other : StartTag) (children otherChildren : List Node) (closing otherClosing : Closing),
      compiler.directives other = compiler.directives tag →
        compiler.renderAll .escaped (place.fill (.element other otherChildren otherClosing))
          (Scope.root data) =
        compiler.renderAll .escaped (place.fill (.element tag children closing))
          (Scope.root data) ∧
        ∀ template otherTemplate : List Char,
          Markup.parse template = place.fill (.element tag children closing) →
          Markup.parse otherTemplate = place.fill (.element other otherChildren otherClosing) →
            compiler.compileWithDiagnostics otherTemplate data =
              compiler.compileWithDiagnostics template data) ∧
    (∀ (scope : Scope) (problems : List Diagnostic), compiler.Removed tag scope problems →
      (∀ (insertion : Insertion) (children : List Node) (closing : Closing),
        compiler.render insertion (.element tag children closing) scope = ⟨[], problems⟩) ∧
      (compiler.visits tag scope).filterMap Visit.problem? = problems) ∧
    ∀ (insertion : Insertion) (nodes : List Node) (scope : Scope),
      (compiler.renderAll insertion nodes scope).diagnostics =
        (compiler.tour nodes scope 0).filterMap (·.2.problem?) ∧
      (∀ (address : Address) (visit : Visit), (address, visit) ∈ compiler.tour nodes scope 0 ↔
        compiler.VisitAt nodes scope address visit) ∧
      (compiler.tour nodes scope 0).Pairwise fun first second => first.1.Before second.1 := by
  refine ⟨?_, ?_, ?_⟩
  · intro other children otherChildren closing otherClosing same
    have rendered : compiler.renderAll .escaped
        (place.fill (.element other otherChildren otherClosing)) (Scope.root data) =
        compiler.renderAll .escaped (place.fill (.element tag children closing))
          (Scope.root data) := by
      apply renderAll_fill_congr
      intro scope reached insertion
      obtain ⟨problems, here⟩ := removed scope reached
      rw [render_of_removed here, render_of_removed (here.of_directives same)]
    refine ⟨rendered, ?_⟩
    intro template otherTemplate tree otherTree
    simp only [compileWithDiagnostics, renderTemplate, tree, otherTree, rendered]
  · intro scope problems here
    exact ⟨render_of_removed here, visits_of_removed here⟩
  · intro insertion nodes scope
    exact ⟨compiler.tour_problems insertion nodes scope 0,
      fun _ _ => ⟨visitAt_of_mem_tour, mem_tour_of_visitAt⟩,
      tour_ordered (fun node _ => nodeTour_ordered node) scope 0⟩

def shiftList : StartTag where
  name := "ul".toList
  attrs := [⟨[' '], "ast-for".toList, some ⟨[], [], .double, "night in shifts".toList⟩⟩]
  trailing := []

def nightNote : StartTag where
  name := "li".toList
  attrs := [⟨[' '], "ast-if".toList, some ⟨[], [], .double, "night &amp;&amp; staffed".toList⟩⟩,
    ⟨[' '], "class".toList, some ⟨[], [], .double, "\x7b\x7bmood\x7d\x7d".toList⟩⟩]
  trailing := []

def plainNote : StartTag where
  name := "li".toList
  attrs := [⟨[' '], "ast-if".toList, some ⟨[], [], .double, "night &amp;&amp; staffed".toList⟩⟩]
  trailing := []

def shiftPlace : Place :=
  .inside [] shiftList (.among [.text "shift".toList] []) (.explicit "</ul>".toList) []

/-- A day shift, in which the condition of the note is false, and a night shift, in which it fails
on an unbound name. -/
def shifts : Json :=
  .object [("shifts", .array [.bool false, .bool true])]

theorem removed_leaves_problems_only_shifts :
    let note := Node.element nightNote [.text "quiet".toList] (.explicit "</li>".toList)
    let other := Node.element plainNote [] (.explicit "</li>".toList)
    (∀ scope ∈ shiftPlace.scopes standard (Scope.root shifts),
      ∃ problems, standard.Removed nightNote scope problems) ∧
    standard.renderAll .escaped (shiftPlace.fill other) (Scope.root shifts) =
      standard.renderAll .escaped (shiftPlace.fill note) (Scope.root shifts) ∧
    Node.sources (standard.renderAll .escaped (shiftPlace.fill note) (Scope.root shifts)).nodes =
      "<ul>shift</ul><ul>shift</ul>".toList ∧
    (standard.renderAll .escaped (shiftPlace.fill note) (Scope.root shifts)).diagnostics =
      [⟨.conditionFailed (.unbound "staffed".toList), "night && staffed".toList⟩] := by
  intro note other
  have removed : ∀ scope ∈ shiftPlace.scopes standard (Scope.root shifts),
      ∃ problems, standard.Removed nightNote scope problems := by
    simp only [removed_iff_unkept]
    decide +kernel
  have same : standard.directives plainNote = standard.directives nightNote := by
    decide +kernel
  refine ⟨removed, ((removed_leaves_problems_only removed).1 _ _ _ _ _ same).1, ?_, ?_⟩
  · decide +kernel
  · decide +kernel

end Compiler
end MarkupTemplate
