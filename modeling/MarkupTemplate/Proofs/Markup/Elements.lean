import MarkupTemplate.Markup.Basic

/-!
All nodes of a tree, and induction over a tree: what holds of an element whenever it holds of the
nodes inside it holds of every node.
-/

namespace MarkupTemplate
namespace Node

theorem tree_induction
    {motive : Node → Prop}
    (element : ∀ tag children closing, (∀ node ∈ children, motive node) →
      motive (.element tag children closing))
    (text : ∀ body, motive (.text body))
    (comment : ∀ body, motive (.comment body))
    (declaration : ∀ source, motive (.declaration source)) :
    ∀ node, motive node
  | .element tag children closing =>
      element tag children closing fun node _ =>
        tree_induction element text comment declaration node
  | .text body => text body
  | .comment body => comment body
  | .declaration source => declaration source

mutual

/-- A node and the nodes inside it, every element before its content. -/
def preorder : Node → List Node
  | .element tag children closing => .element tag children closing :: preorders children
  | .text body => [.text body]
  | .comment body => [.comment body]
  | .declaration source => [.declaration source]

def preorders : List Node → List Node
  | [] => []
  | node :: nodes => node.preorder ++ preorders nodes

end

theorem preorders_eq_flatMap (nodes : List Node) : preorders nodes = nodes.flatMap preorder := by
  induction nodes with
  | nil => rfl
  | cons node nodes ih => simp [preorders, ih]

theorem mem_preorder (node : Node) : node ∈ node.preorder := by
  cases node <;> simp [preorder]

theorem mem_preorders {inner : Node} {nodes : List Node} :
    inner ∈ preorders nodes ↔ ∃ node ∈ nodes, inner ∈ node.preorder := by
  rw [preorders_eq_flatMap, List.mem_flatMap]

def startTag? : Node → Option StartTag
  | .element tag _ _ => some tag
  | _ => none

def text? : Node → Option (List Char)
  | .text body => some body
  | _ => none

def startTags (nodes : List Node) : List StartTag :=
  (preorders nodes).filterMap startTag?

def texts (nodes : List Node) : List (List Char) :=
  (preorders nodes).filterMap text?

theorem startTag_mem
    {tag : StartTag} {children : List Node} {closing : Closing} {nodes : List Node}
    (inside : .element tag children closing ∈ preorders nodes) :
    tag ∈ startTags nodes :=
  List.mem_filterMap.2 ⟨_, inside, rfl⟩

theorem startTag_inside {tag : StartTag} {nodes : List Node} (member : tag ∈ startTags nodes) :
    ∃ children closing, .element tag children closing ∈ preorders nodes := by
  obtain ⟨node, inside, tag_eq⟩ := List.mem_filterMap.1 member
  cases node with
  | element other children closing =>
      cases tag_eq
      exact ⟨children, closing, inside⟩
  | _ => contradiction

theorem text_mem {body : List Char} {nodes : List Node} (inside : .text body ∈ preorders nodes) :
    body ∈ texts nodes :=
  List.mem_filterMap.2 ⟨_, inside, rfl⟩

theorem text_inside {body : List Char} {nodes : List Node} (member : body ∈ texts nodes) :
    .text body ∈ preorders nodes := by
  obtain ⟨node, inside, body_eq⟩ := List.mem_filterMap.1 member
  cases node with
  | text other =>
      cases body_eq
      exact inside
  | _ => contradiction

end Node
end MarkupTemplate
