import MarkupTemplate.Json.Basic

/-!
Scopes. A template is rendered against one root value; every repetition adds a layer of bindings
on top of the scope around it. A name means the binding made last in the innermost layer that has
one, and without any binding the member of the root value.
-/

namespace MarkupTemplate

/-- Names with their values, in the order in which they were bound. -/
abbrev Bindings := List (String × Json)

structure Scope where
  data : Json
  bindings : Bindings
  /-- The layers around this one, the nearest first. -/
  enclosing : List Bindings
deriving Repr

namespace Scope

def root (data : Json) : Scope where
  data := data
  bindings := []
  enclosing := []

def child (scope : Scope) : Scope where
  data := scope.data
  bindings := []
  enclosing := scope.bindings :: scope.enclosing

def bind (scope : Scope) (name : String) (value : Json) : Scope :=
  { scope with bindings := scope.bindings ++ [(name, value)] }

def latest? (name : String) (bindings : Bindings) : Option Json :=
  bindings.reverse.lookup name

def lookup? (scope : Scope) (name : String) : Option Json :=
  ((scope.bindings :: scope.enclosing).findSome? (latest? name)).or (scope.data.member? name)

end Scope
end MarkupTemplate
