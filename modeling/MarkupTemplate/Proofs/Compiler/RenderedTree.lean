import MarkupTemplate.Proofs.Compiler.KeptTag
import MarkupTemplate.Proofs.Compiler.Unrolling
import MarkupTemplate.Proofs.Markup.ParsedElements

/-!
The tree that rendering makes of a parsed one. Every node of it comes from one node of the template,
in the place that this node's parent came to, and takes its shape over. So what a parsed tree keeps
to, a rendered one keeps to as well, and directives are gone from all of it.
-/

namespace MarkupTemplate
namespace Node

mutual

def depth : Node → Nat
  | .element _ children _ => depths children + 1
  | .text _ => 0
  | .comment _ => 0
  | .declaration _ => 0

def depths : List Node → Nat
  | [] => 0
  | node :: nodes => max node.depth (depths nodes)

end

theorem depths_le_iff {nodes : List Node} {limit : Nat} :
    depths nodes ≤ limit ↔ ∀ node ∈ nodes, node.depth ≤ limit := by
  induction nodes with
  | nil => simp [depths]
  | cons node nodes ih => rw [depths, Nat.max_le, ih, List.forall_mem_cons]

mutual

/-- The elements of a tree reach as deep as the deepest one of them lies. -/
theorem depth_le_of_occurrences {limit : Nat} {node : Node} {enclosing : List (List Char)}
    {following : List Char} (within : enclosing.length ≤ limit)
    (shallow : ∀ element ∈ node.occurrences enclosing following,
      element.enclosing.length < limit) :
    enclosing.length + node.depth ≤ limit := by
  match node with
  | .element tag children closing =>
      have here := shallow _ List.mem_cons_self
      have inside : (tag.name :: enclosing).length + depths children ≤ limit :=
        depths_le_of_occurrences here
          fun element member => shallow element (List.mem_cons_of_mem _ member)
      rw [List.length_cons] at inside
      rw [depth]
      omega
  | .text _ => exact within
  | .comment _ => exact within
  | .declaration _ => exact within

theorem depths_le_of_occurrences {limit : Nat} {nodes : List Node} {enclosing : List (List Char)}
    {following : List Char} (within : enclosing.length ≤ limit)
    (shallow : ∀ element ∈ allOccurrences enclosing following nodes,
      element.enclosing.length < limit) :
    enclosing.length + depths nodes ≤ limit := by
  match nodes with
  | [] => exact within
  | node :: nodes =>
      have first := depth_le_of_occurrences within
        fun element member => shallow element (List.mem_append_left _ member)
      have others := depths_le_of_occurrences within
        fun element member => shallow element (List.mem_append_right _ member)
      rw [depths]
      omega

end

end Node

namespace Markup

theorem depths_parse_le (text : List Char) : Node.depths (parse text) ≤ maxDepth := by
  have within := Node.depths_le_of_occurrences (Nat.zero_le maxDepth)
    fun element member => (nested_parse text element member).shallow
  simpa using within

end Markup

namespace Compiler

/-- What is left of a start tag: its name, the blanks at its end, and attributes that have neither
of the two names that direct rendering, in no case of letters. -/
structure Strips (compiler : Compiler) (tag kept : StartTag) : Prop where
  name_eq : kept.name = tag.name
  trailing_eq : kept.trailing = tag.trailing
  undirected : ∀ attr ∈ kept.attrs, Text.sameName attr.name compiler.repeatAttr = false ∧
    Text.sameName attr.name compiler.conditionAttr = false

mutual

/-- The nodes that can come of a node of a template: of an element any number of elements, each with
what is left of its start tag, its closing, and what came of its content inside; of a text one text;
of any other node this node. -/
def Gives (compiler : Compiler) : Node → List Node → Prop
  | .element tag children closing, made =>
      ∀ node ∈ made, ∃ kept content, node = .element kept content closing ∧
        compiler.Strips tag kept ∧ GivesAll compiler children content
  | .text _, made => ∃ body, made = [.text body]
  | .comment body, made => made = [.comment body]
  | .declaration source, made => made = [.declaration source]

def GivesAll (compiler : Compiler) : List Node → List Node → Prop
  | [], made => made = []
  | node :: nodes, made => ∃ own others, made = own ++ others ∧
      Gives compiler node own ∧ GivesAll compiler nodes others

end

section Rendering

variable {compiler : Compiler}

theorem strips_keptTag (compiler : Compiler) (tag : StartTag) (scope : Scope) :
    compiler.Strips tag (compiler.keptTag tag scope) where
  name_eq := rfl
  trailing_eq := rfl
  undirected := by
    intro attr member
    obtain ⟨original, kept, rfl⟩ := List.mem_map.1 member
    have undirected := (List.mem_filter.1 kept).2
    simpa [isDirective, Attr.isNamed, Attr.interpolate] using undirected

theorem gives_visited {tag : StartTag} {children : List Node} {closing : Closing} {visit : Visit}
    (stripped : ∀ kept inner, visit = .keep kept inner → compiler.Strips tag kept)
    (inside : ∀ scope, GivesAll compiler children
      (compiler.renderAll tag.insertion children scope).nodes) :
    Gives compiler (.element tag children closing)
      (compiler.visited tag children closing visit).nodes := by
  rw [Gives]
  intro node member
  cases visit with
  | keep kept inner =>
      exact ⟨kept, _, List.mem_singleton.1 member, stripped kept inner rfl, inside inner⟩
  | skip => contradiction
  | report diagnostic => contradiction

theorem givesAll_renderAll {insertion : Insertion} {nodes : List Node} {scope : Scope}
    (each : ∀ node ∈ nodes, Gives compiler node (compiler.render insertion node scope).nodes) :
    GivesAll compiler nodes (compiler.renderAll insertion nodes scope).nodes := by
  induction nodes with
  | nil => rfl
  | cons node nodes ih =>
      rw [renderAll]
      exact ⟨_, _, rfl, each node List.mem_cons_self,
        ih fun other member => each other (List.mem_cons_of_mem _ member)⟩

theorem gives_render (compiler : Compiler) (node : Node) :
    ∀ insertion scope, Gives compiler node (compiler.render insertion node scope).nodes := by
  induction node using Node.tree_induction with
  | element tag children closing ih =>
      intro insertion scope
      have inside : ∀ inner, GivesAll compiler children
          (compiler.renderAll tag.insertion children inner).nodes :=
        fun inner => givesAll_renderAll fun child member => ih child member _ inner
      rw [render_element, Rendered.concat_eq]
      intro node member
      obtain ⟨rendered, listed, made⟩ := List.mem_flatMap.1 member
      obtain ⟨visit, visits, rfl⟩ := List.mem_map.1 listed
      have stripped : ∀ kept inner, visit = .keep kept inner → compiler.Strips tag kept := by
        rintro kept inner rfl
        rw [kept_of_visits visits]
        exact strips_keptTag compiler tag inner
      exact gives_visited stripped inside node made
  | text body =>
      intro insertion scope
      exact ⟨_, rfl⟩
  | comment body =>
      intro insertion scope
      rfl
  | declaration source =>
      intro insertion scope
      rfl

theorem givesAll_renderTemplate (compiler : Compiler) (template : List Char) (data : Json) :
    GivesAll compiler (Markup.parse template) (compiler.renderTemplate template data).nodes :=
  givesAll_renderAll fun node _ => gives_render compiler node _ _

theorem mem_givesAll {nodes made : List Node} (given : GivesAll compiler nodes made) {out : Node}
    (member : out ∈ made) :
    ∃ node ∈ nodes, ∃ own, Gives compiler node own ∧ out ∈ own := by
  induction nodes generalizing made with
  | nil =>
      rw [GivesAll] at given
      rw [given] at member
      contradiction
  | cons node nodes ih =>
      obtain ⟨own, others, rfl, first, behind⟩ := given
      rcases List.mem_append.1 member with here | later
      · exact ⟨node, List.mem_cons_self, own, first, here⟩
      · obtain ⟨other, listed, found⟩ := ih behind later
        exact ⟨other, List.mem_cons_of_mem _ listed, found⟩

/-- What comes of a node is no deeper than the node. -/
theorem depth_le_of_gives (node : Node) :
    ∀ {made : List Node}, Gives compiler node made → ∀ out ∈ made, out.depth ≤ node.depth := by
  induction node using Node.tree_induction with
  | element tag children closing ih =>
      intro made given out member
      obtain ⟨kept, content, rfl, _, inside⟩ := given out member
      have shallower : Node.depths content ≤ Node.depths children := by
        apply Node.depths_le_iff.2
        intro inner within
        obtain ⟨child, listed, own, first, made⟩ := mem_givesAll inside within
        exact (ih child listed first inner made).trans (Node.depths_le_iff.1 le_rfl child listed)
      rw [Node.depth, Node.depth]
      exact Nat.succ_le_succ shallower
  | text body =>
      rintro _ ⟨other, rfl⟩ out member
      rw [List.mem_singleton.1 member]
      exact le_rfl
  | comment body =>
      rintro _ rfl out member
      rw [List.mem_singleton.1 member]
  | declaration source =>
      rintro _ rfl out member
      rw [List.mem_singleton.1 member]

theorem depths_le_of_givesAll {nodes made : List Node} (given : GivesAll compiler nodes made) :
    Node.depths made ≤ Node.depths nodes := by
  apply Node.depths_le_iff.2
  intro out member
  obtain ⟨node, listed, own, first, inside⟩ := mem_givesAll given member
  exact (depth_le_of_gives node first out inside).trans (Node.depths_le_iff.1 le_rfl node listed)

/-- Every element inside what comes of a node comes of an element inside the node. -/
theorem origin_of_gives (node : Node) :
    ∀ {made : List Node}, Gives compiler node made →
      ∀ {kept : StartTag} {content : List Node} {closing : Closing},
        .element kept content closing ∈ Node.preorders made →
          ∃ tag children, .element tag children closing ∈ node.preorder ∧
            compiler.Strips tag kept ∧ GivesAll compiler children content := by
  induction node using Node.tree_induction with
  | element tag children closing ih =>
      intro made given kept content ending within
      obtain ⟨out, member, inside⟩ := Node.mem_preorders.1 within
      obtain ⟨outer, held, rfl, stripped, outer_given⟩ := given out member
      rcases List.mem_cons.1 inside with same | deeper
      · cases same
        exact ⟨tag, children, Node.mem_preorder _, stripped, outer_given⟩
      · obtain ⟨inner, listed, reached⟩ := Node.mem_preorders.1 deeper
        obtain ⟨child, child_listed, own, child_given, inner_made⟩ :=
          mem_givesAll outer_given listed
        obtain ⟨origin, below, origin_inside, found⟩ :=
          ih child child_listed child_given (Node.mem_preorders.2 ⟨inner, inner_made, reached⟩)
        have origin_within : .element origin below ending ∈ Node.preorders children :=
          Node.mem_preorders.2 ⟨child, child_listed, origin_inside⟩
        exact ⟨origin, below, List.mem_cons_of_mem _ origin_within, found⟩
  | text body =>
      rintro _ ⟨other, rfl⟩ kept content ending within
      simp [Node.preorders, Node.preorder] at within
  | comment body =>
      rintro _ rfl kept content ending within
      simp [Node.preorders, Node.preorder] at within
  | declaration source =>
      rintro _ rfl kept content ending within
      simp [Node.preorders, Node.preorder] at within

theorem origin_of_givesAll {nodes made : List Node} (given : GivesAll compiler nodes made)
    {kept : StartTag} {content : List Node} {closing : Closing}
    (within : .element kept content closing ∈ Node.preorders made) :
    ∃ tag children, .element tag children closing ∈ Node.preorders nodes ∧
      compiler.Strips tag kept ∧ GivesAll compiler children content := by
  obtain ⟨out, member, inside⟩ := Node.mem_preorders.1 within
  obtain ⟨node, listed, own, first, made⟩ := mem_givesAll given member
  obtain ⟨tag, children, reached, found⟩ :=
    origin_of_gives node first (Node.mem_preorders.2 ⟨out, made, inside⟩)
  exact ⟨tag, children, Node.mem_preorders.2 ⟨node, listed, reached⟩, found⟩

end Rendering

structure SoundElement (compiler : Compiler) (tag : StartTag) (children : List Node)
    (closing : Closing) : Prop where
  undirected : ∀ attr ∈ tag.attrs, Text.sameName attr.name compiler.repeatAttr = false ∧
    Text.sameName attr.name compiler.conditionAttr = false
  childless : closing = .selfClosing ∨ closing = .void ∨
    Vocabulary.isVoid tag.name = true → children = []
  raw : Vocabulary.isRawText tag.name = true → ∀ child ∈ children, ∃ body, child = .text body

theorem childless_parse {text : List Char} {tag : StartTag} {children : List Node}
    {closing : Closing}
    (inside : .element tag children closing ∈ Node.preorders (Markup.parse text))
    (ended : closing = .selfClosing ∨ closing = .void ∨ Vocabulary.isVoid tag.name = true) :
    children = [] := by
  obtain ⟨childless, void, _⟩ := Markup.closed_parse text _ inside
  rcases ended with selfClosing | nature | named
  · exact childless (.inl selfClosing)
  · exact childless (.inr nature)
  · exact childless (void named)

theorem raw_content_parse {text : List Char} {tag : StartTag} {children : List Node}
    {closing : Closing}
    (inside : .element tag children closing ∈ Node.preorders (Markup.parse text))
    (raw : Vocabulary.isRawText tag.name = true) :
    ∀ child ∈ children, ∃ body, child = .text body := by
  obtain ⟨_, content⟩ := Markup.spelled_parse text _ inside
  rcases content raw with selfClosing | content
  · rw [childless_parse inside (.inl selfClosing)]
    simp
  · rcases Markup.raw_content raw content with nothing | ⟨body, single, _⟩
    · simp [nothing]
    · simp [single]

theorem texts_of_givesAll {compiler : Compiler} {nodes made : List Node}
    (given : GivesAll compiler nodes made) (texts : ∀ node ∈ nodes, ∃ body, node = .text body) :
    ∀ out ∈ made, ∃ body, out = .text body := by
  intro out member
  obtain ⟨node, listed, own, first, inside⟩ := mem_givesAll given member
  obtain ⟨body, rfl⟩ := texts node listed
  obtain ⟨other, rfl⟩ := first
  exact ⟨other, List.mem_singleton.1 inside⟩

/-- The tree that is written has no directive in it and nests no deeper than a parsed one. Its
elements hold what elements of their kind can hold, and each of them has the name, the trailing
blanks and the closing of an element of the template, inside what came of that element's parent. -/
theorem rendered_tree_sound (compiler : Compiler) (template : List Char) (data : Json) :
    compiler.compile template data =
      Node.sources (compiler.renderTemplate template data).nodes ∧
    (∀ tag children closing, .element tag children closing ∈
        Node.preorders (compiler.renderTemplate template data).nodes →
      compiler.SoundElement tag children closing) ∧
    Node.depths (compiler.renderTemplate template data).nodes ≤ 256 ∧
    compiler.GivesAll (Markup.parse template) (compiler.renderTemplate template data).nodes := by
  have given := givesAll_renderTemplate compiler template data
  refine ⟨rfl, ?_, ?_, given⟩
  · intro kept content closing within
    obtain ⟨tag, children, inside, stripped, content_given⟩ := origin_of_givesAll given within
    exact
      { undirected := stripped.undirected
        childless := by
          intro ended
          rw [stripped.name_eq] at ended
          rw [childless_parse inside ended] at content_given
          exact content_given
        raw := by
          intro raw
          rw [stripped.name_eq] at raw
          exact texts_of_givesAll content_given (raw_content_parse inside raw) }
  · exact (depths_le_of_givesAll given).trans (Markup.depths_parse_le template)

def twiceRepeated : List Char :=
  "<A AST-FOR='x in xs' Ast-For='y in ys' id='i'><br></A>".toList

def repeatedItems : Json :=
  .object [("xs", .array [.null, .null])]

theorem rendered_tree_sound_twice :
    ∃ tag children closing, .element tag children closing ∈
        Node.preorders (standard.renderTemplate twiceRepeated repeatedItems).nodes ∧
      standard.SoundElement tag children closing ∧
      standard.compile twiceRepeated repeatedItems =
        "<A id='i'><br></A><A id='i'><br></A>".toList := by
  have sound := rendered_tree_sound standard twiceRepeated repeatedItems
  have written : standard.compile twiceRepeated repeatedItems =
      "<A id='i'><br></A><A id='i'><br></A>".toList := by decide +kernel
  have first : (Node.preorders (standard.renderTemplate twiceRepeated repeatedItems).nodes).any
      Node.isElement = true := by decide +kernel
  obtain ⟨node, within, element⟩ := List.any_eq_true.1 first
  cases node with
  | element tag children closing =>
      exact ⟨tag, children, closing, within, sound.2.1 tag children closing within, written⟩
  | _ => contradiction

end Compiler
end MarkupTemplate
