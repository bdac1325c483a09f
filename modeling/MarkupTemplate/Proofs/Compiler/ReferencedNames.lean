import MarkupTemplate.Proofs.Compiler.Unrolling
import MarkupTemplate.Proofs.Markup.Elements

/-!
The names that a template refers to: the first segments of the paths of its markers, of its repeat
directives and of its conditions. Rendering reads nothing else of its data.
-/

namespace MarkupTemplate

def markerNames (text : List Char) : List (List Char) :=
  (Piece.split text).filterMap fun
    | .literal _ => none
    | .marker found => some (Scope.head found.path)

def Condition.Expr.names : Condition.Expr → List (List Char)
  | .literal _ => []
  | .path dotted => [Scope.head dotted]
  | .not operand => operand.names
  | .and left right => left.names ++ right.names
  | .or left right => left.names ++ right.names
  | .compare _ left right => left.names ++ right.names

def conditionNames (directive : List Char) : List (List Char) :=
  match Condition.parse directive with
  | .ok condition => condition.expr.names
  | .error _ => []

def repeatNames (directive : List Char) : List (List Char) :=
  match Repeat.parse? directive with
  | some spec => [Scope.head spec.source]
  | none => []

namespace Compiler

/-- The names that a start tag refers to: in its first directive of each kind, and in the markers of
its other attributes. -/
def tagNames (compiler : Compiler) (tag : StartTag) : List (List Char) :=
  (tag.directive? compiler.repeatAttr).toList.flatMap repeatNames ++
    (tag.directive? compiler.conditionAttr).toList.flatMap conditionNames ++
    (tag.attrs.filter fun attr => !compiler.isDirective attr).flatMap fun attr =>
      markerNames attr.text

def nodeNames (compiler : Compiler) : Node → List (List Char)
  | .element tag _ _ => compiler.tagNames tag
  | .text body => markerNames body
  | .comment _ => []
  | .declaration _ => []

def names (compiler : Compiler) (nodes : List Node) : List (List Char) :=
  (Node.preorders nodes).flatMap compiler.nodeNames

end Compiler

namespace Scope

def AgreeOn (names : List (List Char)) (one other : Scope) : Prop :=
  ∀ name ∈ names, one.lookup? (String.ofList name) = other.lookup? (String.ofList name)

theorem resolve?_agree
    {one other : Scope} {path : List Char} (agree : AgreeOn [head path] one other) :
    one.resolve? path = other.resolve? path := by
  have same := agree (head path) List.mem_cons_self
  simp only [head] at same
  simp only [resolve?]
  split
  · rfl
  · next name segments split_eq =>
      rw [split_eq, List.headD_cons] at same
      rw [same]

namespace AgreeOn

variable {names fewer : List (List Char)} {one other : Scope}

theorem mono (agree : AgreeOn names one other) (inside : ∀ name ∈ fewer, name ∈ names) :
    AgreeOn fewer one other :=
  fun name member => agree name (inside name member)

theorem repetition (agree : AgreeOn names one other) (spec : Repeat) (item : Json) (index : Nat) :
    AgreeOn names (Compiler.repetition spec one item index)
      (Compiler.repetition spec other item index) := by
  intro name member
  rw [Compiler.lookup?_repetition, Compiler.lookup?_repetition, agree name member]

end AgreeOn
end Scope

section Reading

variable {one other : Scope}

theorem interpolate_agree
    {text : List Char} (agree : Scope.AgreeOn (markerNames text) one other)
    (insertion : Insertion) :
    interpolate insertion one text = interpolate insertion other text := by
  rw [interpolate, interpolate, List.flatMap_def, List.flatMap_def]
  congr 1
  apply List.map_congr_left
  intro piece member
  cases piece with
  | literal c => rfl
  | marker found =>
      have named : Scope.head found.path ∈ markerNames text :=
        List.mem_filterMap.2 ⟨.marker found, member, rfl⟩
      have same : one.resolve? found.path = other.resolve? found.path :=
        Scope.resolve?_agree (agree.mono (by simpa using named))
      simp only [Piece.render, Scope.display, same]

theorem attr_interpolate_agree
    {attr : Attr} (agree : Scope.AgreeOn (markerNames attr.text) one other) :
    attr.interpolate one = attr.interpolate other := by
  obtain ⟨leading, name, value⟩ := attr
  cases value with
  | none => rfl
  | some value =>
      have written : interpolate .escaped one value.text = interpolate .escaped other value.text :=
        interpolate_agree agree .escaped
      simp only [Attr.interpolate, AttrValue.interpolate, Option.map_some, written]

namespace Condition

theorem value_agree (expr : Expr) (agree : Scope.AgreeOn expr.names one other) :
    expr.value one = expr.value other := by
  induction expr with
  | literal value => rfl
  | path dotted =>
      simp only [Expr.value, pathValue, agree (Scope.head dotted) List.mem_cons_self,
        Scope.resolve?_agree agree]
  | not operand ih => simp only [Expr.value, ih agree]
  | and left right left_ih right_ih =>
      simp only [Expr.value, left_ih (agree.mono fun _ => List.mem_append_left _),
        right_ih (agree.mono fun _ => List.mem_append_right _)]
  | or left right left_ih right_ih =>
      simp only [Expr.value, left_ih (agree.mono fun _ => List.mem_append_left _),
        right_ih (agree.mono fun _ => List.mem_append_right _)]
  | compare comparison left right left_ih right_ih =>
      simp only [Expr.value, left_ih (agree.mono fun _ => List.mem_append_left _),
        right_ih (agree.mono fun _ => List.mem_append_right _)]

end Condition

end Reading

namespace Compiler

section Rendering

variable {compiler : Compiler} {one other : Scope}

theorem checkCondition_agree
    {directive : List Char} (agree : Scope.AgreeOn (conditionNames directive) one other) :
    checkCondition directive one = checkCondition directive other := by
  simp only [checkCondition]
  simp only [conditionNames] at agree
  split
  · rfl
  · next condition parsed =>
      rw [parsed] at agree
      simp only [Condition.evaluate, Condition.Expr.holds, Condition.value_agree _ agree]

theorem keptTag_agree
    {tag : StartTag} (agree : Scope.AgreeOn (compiler.tagNames tag) one other) :
    compiler.keptTag tag one = compiler.keptTag tag other := by
  have attrs_eq : (tag.attrs.filter fun attr => !compiler.isDirective attr).map
      (Attr.interpolate one) =
        (tag.attrs.filter fun attr => !compiler.isDirective attr).map (Attr.interpolate other) := by
    apply List.map_congr_left
    intro attr member
    apply attr_interpolate_agree
    exact agree.mono fun name inside =>
      List.mem_append_right _ (List.mem_flatMap.2 ⟨attr, member, inside⟩)
  simp only [keptTag, attrs_eq]

/-- One visit ends alike in both scopes, if the content of the element does. -/
theorem visited_agree
    {tag : StartTag} {children : List Node} {closing : Closing}
    (agree : Scope.AgreeOn (compiler.tagNames tag) one other)
    (content : compiler.renderAll tag.insertion children one =
      compiler.renderAll tag.insertion children other) :
    compiler.visited tag children closing (compiler.visit tag one) =
      compiler.visited tag children closing (compiler.visit tag other) := by
  simp only [visit]
  cases named : tag.attr? compiler.conditionAttr with
  | none => simp only [visited, keptTag_agree agree, content]
  | some attr =>
      have condition_eq : checkCondition (Text.decode attr.text) one =
          checkCondition (Text.decode attr.text) other := by
        apply checkCondition_agree
        refine agree.mono fun name inside => List.mem_append_left _ (List.mem_append_right _ ?_)
        simpa [StartTag.directive?, named] using inside
      simp only [condition_eq]
      split
      · rfl
      · simp only [visited, keptTag_agree agree, content]
      · rfl

/-- An element renders alike in both scopes, if its content does in scopes that agree. -/
theorem render_element_agree
    {names : List (List Char)} {tag : StartTag} {children : List Node} {closing : Closing}
    (agree : Scope.AgreeOn names one other) (inside : ∀ name ∈ compiler.tagNames tag, name ∈ names)
    (content : ∀ {one other : Scope}, Scope.AgreeOn names one other →
      compiler.renderAll tag.insertion children one =
        compiler.renderAll tag.insertion children other)
    (insertion : Insertion) :
    compiler.render insertion (.element tag children closing) one =
      compiler.render insertion (.element tag children closing) other := by
  rw [render_element, render_element]
  cases named : tag.directive? compiler.repeatAttr with
  | none =>
      simp only [visits_of_unrepeated named, List.map_cons, List.map_nil,
        visited_agree (agree.mono inside) (content agree)]
  | some directive =>
      cases parsed : Repeat.parse? directive with
      | none => rw [visits_of_malformed named parsed, visits_of_malformed named parsed]
      | some spec =>
          have source_eq : one.resolve? spec.source = other.resolve? spec.source := by
            apply Scope.resolve?_agree
            refine agree.mono fun name member => inside name ?_
            refine List.mem_append_left _ (List.mem_append_left _ ?_)
            simpa [named, repeatNames, parsed] using member
          by_cases array : ∃ items, other.resolve? spec.source = some (.array items)
          · obtain ⟨items, resolved⟩ := array
            rw [visits_of_repeats (repeats_of_directive named parsed resolved),
              visits_of_repeats (repeats_of_directive named parsed (source_eq.trans resolved)),
              List.map_map, List.map_map]
            congr 1
            apply List.map_congr_left
            intro repeated _
            have inner := agree.repetition spec repeated.1 repeated.2
            exact visited_agree (inner.mono inside) (content inner)
          · have unarrayed : ∀ items, other.resolve? spec.source ≠ some (.array items) :=
              fun items resolved => array ⟨items, resolved⟩
            rw [visits_of_not_array named parsed unarrayed,
              visits_of_not_array named parsed (source_eq ▸ unarrayed), source_eq]

theorem renderAll_congr
    (insertion : Insertion) {nodes : List Node}
    (each : ∀ node ∈ nodes, compiler.render insertion node one =
      compiler.render insertion node other) :
    compiler.renderAll insertion nodes one = compiler.renderAll insertion nodes other := by
  induction nodes with
  | nil => rfl
  | cons node nodes ih =>
      rw [renderAll, renderAll, each node List.mem_cons_self,
        ih fun later member => each later (List.mem_cons_of_mem _ member)]

theorem render_agree
    {names : List (List Char)} (node : Node)
    (inside : ∀ inner ∈ node.preorder, ∀ name ∈ compiler.nodeNames inner, name ∈ names) :
    ∀ {one other : Scope}, Scope.AgreeOn names one other → ∀ insertion,
      compiler.render insertion node one = compiler.render insertion node other := by
  induction node using Node.tree_induction with
  | element tag children closing ih =>
      intro one other agree insertion
      apply render_element_agree agree (inside _ (Node.mem_preorder _))
      intro one other agree
      apply renderAll_congr
      intro child member
      apply ih child member _ agree
      intro inner within
      exact inside inner (List.mem_cons_of_mem _ (Node.mem_preorders.2 ⟨child, member, within⟩))
  | text body =>
      intro one other agree insertion
      rw [render, render, interpolate_agree (agree.mono (inside _ (Node.mem_preorder _)))]
  | comment body =>
      intro one other _ insertion
      rw [render, render]
  | declaration source =>
      intro one other _ insertion
      rw [render, render]

end Rendering

/-- Two data values in which every name that a template refers to has the same value give the same
markup and the same problems. -/
theorem compile_of_names_agree
    {compiler : Compiler} {template : List Char} {one other : Json}
    (agree : ∀ name ∈ compiler.names (Markup.parse template),
      (Scope.root one).lookup? (String.ofList name) =
        (Scope.root other).lookup? (String.ofList name)) :
    compiler.compileWithDiagnostics template one =
      compiler.compileWithDiagnostics template other := by
  have same : compiler.renderTemplate template one = compiler.renderTemplate template other := by
    apply renderAll_congr
    intro node member
    apply render_agree node _ agree
    intro inner within name refers
    exact List.mem_flatMap.2 ⟨inner, Node.mem_preorders.2 ⟨node, member, within⟩, refers⟩
  simp only [compileWithDiagnostics, same]

def memberList : List Char :=
  "<li ast-for='m in staff' ast-if='m.active'>\x7b\x7bm.name\x7d\x7d</li>".toList ++
    "<b ast-if='admin'></b>".toList

/-- Two members of staff; a condition does not see the secret beside them. -/
def staffData (secret : String) : Json :=
  .object [("secret", .string secret), ("staff", .array
    [.object [("active", .bool true), ("name", .string "Ada")],
      .object [("active", .bool false), ("name", .string "Bob")]])]

theorem compile_of_names_agree_staff :
    (∀ name ∈ standard.names (Markup.parse memberList),
      (Scope.root (staffData "a")).lookup? (String.ofList name) =
        (Scope.root (staffData "b")).lookup? (String.ofList name)) ∧
    standard.compileWithDiagnostics memberList (staffData "a") =
      standard.compileWithDiagnostics memberList (staffData "b") ∧
    standard.compileWithDiagnostics memberList (staffData "a") =
      ("<li>Ada</li>".toList,
        [⟨.conditionFailed (.unbound "admin".toList), "admin".toList⟩]) := by
  have agree : ∀ name ∈ standard.names (Markup.parse memberList),
      (Scope.root (staffData "a")).lookup? (String.ofList name) =
        (Scope.root (staffData "b")).lookup? (String.ofList name) := by
    have names_eq : standard.names (Markup.parse memberList) =
        ["staff".toList, "m".toList, "m".toList, "admin".toList] := by decide +kernel
    rw [names_eq]
    intro name member
    simp only [List.mem_cons, List.not_mem_nil, or_false] at member
    rcases member with rfl | rfl | rfl | rfl <;> rfl
  refine ⟨agree, compile_of_names_agree agree, ?_⟩
  decide +kernel

end Compiler
end MarkupTemplate
