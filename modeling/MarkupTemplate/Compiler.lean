import MarkupTemplate.Condition
import MarkupTemplate.Directive.Diagnostic
import MarkupTemplate.Directive.Marker
import MarkupTemplate.Directive.Repeat
import MarkupTemplate.Markup.Tree

/-!
Rendering templates. An element with a repeat attribute is rendered once for each item of an array,
and an element with a conditional attribute only where the condition holds; both attributes are
left out, and markers in texts and attribute values are replaced.
-/

namespace MarkupTemplate

/-- The names of the two attributes that direct rendering. -/
structure Compiler where
  repeatAttr : List Char
  conditionAttr : List Char
deriving DecidableEq, Repr

/-- What rendering makes of a node: nodes, and the problems met on the way, in document order. -/
structure Rendered where
  nodes : List Node
  diagnostics : List Diagnostic

namespace Rendered

def empty : Rendered :=
  ⟨[], []⟩

def append (first second : Rendered) : Rendered :=
  ⟨first.nodes ++ second.nodes, first.diagnostics ++ second.diagnostics⟩

def concat : List Rendered → Rendered
  | [] => empty
  | first :: others => first.append (concat others)

end Rendered

/-- What becomes of an element in one scope. -/
inductive Visit
  | keep (tag : StartTag) (scope : Scope)
  | skip
  | report (diagnostic : Diagnostic)

def StartTag.insertion (tag : StartTag) : Insertion :=
  if Vocabulary.isUnescapedText tag.name then .verbatim else .escaped

def AttrValue.interpolate (scope : Scope) (value : AttrValue) : AttrValue :=
  if hasMarker value.text then
    value.respell (MarkupTemplate.interpolate .escaped scope value.text)
  else value

def Attr.interpolate (scope : Scope) (attr : Attr) : Attr :=
  { attr with value := attr.value.map (AttrValue.interpolate scope) }

namespace Compiler

def standard : Compiler where
  repeatAttr := "ast-for".toList
  conditionAttr := "ast-if".toList

def isDirective (compiler : Compiler) (attr : Attr) : Bool :=
  attr.isNamed compiler.repeatAttr || attr.isNamed compiler.conditionAttr

/-- The start tag of a kept element: without directives and with its markers replaced. -/
def keptTag (compiler : Compiler) (tag : StartTag) (scope : Scope) : StartTag where
  name := tag.name
  attrs := (tag.attrs.filter fun attr => !compiler.isDirective attr).map (Attr.interpolate scope)
  trailing := tag.trailing

def checkCondition (directive : List Char) (scope : Scope) : Except Diagnostic Bool :=
  match Condition.parse directive with
  | .error error => .error ⟨.malformedCondition error, directive⟩
  | .ok condition =>
      match condition.evaluate scope with
      | .error error => .error ⟨.conditionFailed error, directive⟩
      | .ok holds => .ok holds

def visit (compiler : Compiler) (tag : StartTag) (scope : Scope) : Visit :=
  match tag.attr? compiler.conditionAttr with
  | none => .keep (compiler.keptTag tag scope) scope
  | some attr =>
      match checkCondition (Text.decode attr.text) scope with
      | .error diagnostic => .report diagnostic
      | .ok true => .keep (compiler.keptTag tag scope) scope
      | .ok false => .skip

/-- The scope of one repetition: the item is bound first and then the index. -/
def repetition (spec : Repeat) (scope : Scope) (item : Json) (index : Nat) : Scope :=
  let bound := scope.child.bind (String.ofList spec.item) item
  match spec.index with
  | some name => bound.bind (String.ofList name) (.number (.ofNat index))
  | none => bound

def repetitions (directive : List Char) (scope : Scope) : Except Diagnostic (List Scope) :=
  match Repeat.parse? directive with
  | none => .error ⟨.malformedRepeat, directive⟩
  | some spec =>
      match scope.resolve? spec.source with
      | some (.array items) =>
          .ok (items.zipIdx.map fun (item, index) => repetition spec scope item index)
      | found => .error ⟨.repeatSourceNotArray spec.source (found.map Json.kind), directive⟩

/-- Everything that becomes of an element: one visit, or one for each repetition. -/
def visits (compiler : Compiler) (tag : StartTag) (scope : Scope) : List Visit :=
  match tag.attr? compiler.repeatAttr with
  | none => [compiler.visit tag scope]
  | some attr =>
      match repetitions (Text.decode attr.text) scope with
      | .error diagnostic => [.report diagnostic]
      | .ok scopes => scopes.map (compiler.visit tag)

mutual

/-- Renders a node; `insertion` is how the element around it takes texts. -/
def render (compiler : Compiler) (insertion : Insertion) : Node → Scope → Rendered
  | .element tag children closing, scope =>
      Rendered.concat ((compiler.visits tag scope).map fun
        | .keep kept inner =>
            let content := renderAll compiler tag.insertion children inner
            ⟨[.element kept content.nodes closing], content.diagnostics⟩
        | .skip => .empty
        | .report diagnostic => ⟨[], [diagnostic]⟩)
  | .text body, scope => ⟨[.text (interpolate insertion scope body)], []⟩
  | .comment body, _ => ⟨[.comment body], []⟩
  | .declaration source, _ => ⟨[.declaration source], []⟩

def renderAll (compiler : Compiler) (insertion : Insertion) : List Node → Scope → Rendered
  | [], _ => .empty
  | node :: nodes, scope =>
      (render compiler insertion node scope).append (renderAll compiler insertion nodes scope)

end

def renderTemplate (compiler : Compiler) (template : List Char) (data : Json) : Rendered :=
  compiler.renderAll .escaped (Markup.parse template) (Scope.root data)

def compileWithDiagnostics (compiler : Compiler) (template : List Char) (data : Json) :
    List Char × List Diagnostic :=
  let rendered := compiler.renderTemplate template data
  (Node.sources rendered.nodes, rendered.diagnostics)

def compile (compiler : Compiler) (template : List Char) (data : Json) : List Char :=
  (compiler.compileWithDiagnostics template data).1

end Compiler
end MarkupTemplate
