import Mathlib.Data.List.Basic
import MarkupTemplate.Proofs.Compiler.Unrolling
import MarkupTemplate.Proofs.Markup.Elements

/-!
The order of problems. Rendering visits the elements of a tree, each once for every repetition of
itself and of the elements around it. A visit is told by its address; addresses are ordered as the
start tags they lead to stand in the document, the repetitions of one element in a row. The problems
of a rendering are those of its visits, in that order.
-/

namespace MarkupTemplate

/-- The way to a visit: from the outermost element inward, the position among the nodes around it
and the repetition. -/
abbrev Address := List (Nat × Nat)

/-- Document order: by position first and by repetition second, an element before the elements in
it. -/
abbrev Address.Before : Address → Address → Prop :=
  List.Lex (Prod.Lex (· < ·) (· < ·))

namespace Visit

def problem? : Visit → Option Diagnostic
  | .keep _ _ => none
  | .skip => none
  | .report diagnostic => some diagnostic

/-- What is visited inside an element that is kept; `content` says it for a scope. -/
def inside (content : Scope → List (Address × Visit)) : Visit → List (Address × Visit)
  | .keep _ inner => content inner
  | _ => []

def tour (content : Scope → List (Address × Visit)) (position repetition : Nat) (visit : Visit) :
    List (Address × Visit) :=
  ([(position, repetition)], visit) :: (visit.inside content).map fun entry =>
    ((position, repetition) :: entry.1, entry.2)

variable {content : Scope → List (Address × Visit)} {position repetition : Nat} {visit : Visit}

theorem mem_tour {entry : Address × Visit} :
    entry ∈ visit.tour content position repetition ↔
      entry = ([(position, repetition)], visit) ∨
        ∃ inner ∈ visit.inside content,
          ((position, repetition) :: inner.1, inner.2) = entry := by
  rw [tour, List.mem_cons, List.mem_map]

/-- The addresses of a visit and of those behind it begin with where the element stands. -/
theorem tour_address
    {entry : Address × Visit} (member : entry ∈ visit.tour content position repetition) :
    ∃ inward : Address, entry.1 = (position, repetition) :: inward := by
  rcases mem_tour.1 member with rfl | ⟨inner, _, rfl⟩
  · exact ⟨[], rfl⟩
  · exact ⟨inner.1, rfl⟩

/-- An element comes before its content. -/
theorem tour_ordered
    (addressed : ∀ entry ∈ visit.inside content, entry.1 ≠ [])
    (ordered : (visit.inside content).Pairwise fun first second => first.1.Before second.1) :
    (visit.tour content position repetition).Pairwise fun first second =>
      first.1.Before second.1 := by
  refine List.pairwise_cons.2 ⟨?_, List.pairwise_map.2 (ordered.imp .cons)⟩
  intro entry member
  obtain ⟨inner, within, rfl⟩ := List.mem_map.1 member
  obtain ⟨step, inward, address_eq⟩ := List.exists_cons_of_ne_nil (addressed inner within)
  rw [address_eq]
  exact .cons .nil

end Visit

namespace Compiler

/-- The visit that is made at an address, where rendering comes there: to an element among the
nodes, or further inward to one in the content of an element that is kept. -/
inductive VisitAt (compiler : Compiler) : List Node → Scope → Address → Visit → Prop
  | here {nodes : List Node} {scope : Scope} {position repetition : Nat} {tag : StartTag}
      {children : List Node} {closing : Closing} {visit : Visit}
      (found : nodes[position]? = some (.element tag children closing))
      (made : (compiler.visits tag scope)[repetition]? = some visit) :
      VisitAt compiler nodes scope [(position, repetition)] visit
  | inward {nodes : List Node} {scope : Scope} {position repetition : Nat} {tag : StartTag}
      {children : List Node} {closing : Closing} {kept : StartTag} {inner : Scope}
      {address : Address} {visit : Visit}
      (found : nodes[position]? = some (.element tag children closing))
      (made : (compiler.visits tag scope)[repetition]? = some (.keep kept inner))
      (within : VisitAt compiler children inner address visit) :
      VisitAt compiler nodes scope ((position, repetition) :: address) visit

mutual

/-- All visits to a node at a position and to the nodes inside it, in the order in which they are
made. -/
def nodeTour (compiler : Compiler) : Node → Scope → Nat → List (Address × Visit)
  | .element tag children _, scope, position =>
      (compiler.visits tag scope).zipIdx.flatMap fun (visit, repetition) =>
        visit.tour (fun inner => tour compiler children inner 0) position repetition
  | _, _, _ => []

def tour (compiler : Compiler) : List Node → Scope → Nat → List (Address × Visit)
  | [], _, _ => []
  | node :: nodes, scope, position =>
      nodeTour compiler node scope position ++ tour compiler nodes scope (position + 1)

end

section Problems

variable (compiler : Compiler)

theorem renderAll_diagnostics
    {nodes : List Node}
    (each : ∀ node ∈ nodes, ∀ (insertion : Insertion) (scope : Scope) (position : Nat),
      (compiler.render insertion node scope).diagnostics =
        (compiler.nodeTour node scope position).filterMap (·.2.problem?))
    (insertion : Insertion) (scope : Scope) (position : Nat) :
    (compiler.renderAll insertion nodes scope).diagnostics =
      (compiler.tour nodes scope position).filterMap (·.2.problem?) := by
  induction nodes generalizing position with
  | nil => rfl
  | cons node nodes ih =>
      rw [renderAll, Rendered.append, tour, List.filterMap_append,
        each node (by simp) insertion scope position,
        ih (fun other member => each other (by simp [member])) (position + 1)]

theorem visited_diagnostics
    {tag : StartTag} {children : List Node} {content : Scope → List (Address × Visit)}
    (closing : Closing)
    (inside : ∀ scope : Scope, (compiler.renderAll tag.insertion children scope).diagnostics =
      (content scope).filterMap (·.2.problem?))
    (position repetition : Nat) (visit : Visit) :
    (compiler.visited tag children closing visit).diagnostics =
      (visit.tour content position repetition).filterMap (·.2.problem?) := by
  cases visit with
  | keep kept inner =>
      rw [Visit.tour, List.filterMap_cons_none rfl, List.filterMap_map]
      exact inside inner
  | skip => rfl
  | report diagnostic => rfl

theorem render_diagnostics (node : Node) :
    ∀ (insertion : Insertion) (scope : Scope) (position : Nat),
      (compiler.render insertion node scope).diagnostics =
        (compiler.nodeTour node scope position).filterMap (·.2.problem?) := by
  induction node using Node.tree_induction with
  | element tag children closing ih =>
      intro insertion scope position
      rw [render_element, Rendered.concat_eq, nodeTour, List.filterMap_flatMap]
      calc
        ((compiler.visits tag scope).map (compiler.visited tag children closing)).flatMap
            Rendered.diagnostics =
          ((compiler.visits tag scope).zipIdx.map Prod.fst).flatMap fun visit =>
            (compiler.visited tag children closing visit).diagnostics := by
              rw [List.zipIdx_map_fst, List.flatMap_map]
        _ = (compiler.visits tag scope).zipIdx.flatMap fun entry =>
            (entry.1.tour (fun inner => compiler.tour children inner 0) position
              entry.2).filterMap (·.2.problem?) := by
              rw [List.flatMap_map]
              congr 1
              funext entry
              exact compiler.visited_diagnostics closing
                (fun inner => compiler.renderAll_diagnostics ih tag.insertion inner 0) position
                entry.2 entry.1
  | text body =>
      intro insertion scope position
      rw [render]
      rfl
  | comment body =>
      intro insertion scope position
      rw [render]
      rfl
  | declaration source =>
      intro insertion scope position
      rw [render]
      rfl

/-- The problems of a rendering are those that its visits meet, one after the other. -/
theorem tour_problems (insertion : Insertion) (nodes : List Node) (scope : Scope)
    (position : Nat) :
    (compiler.renderAll insertion nodes scope).diagnostics =
      (compiler.tour nodes scope position).filterMap (·.2.problem?) :=
  compiler.renderAll_diagnostics (fun node _ => compiler.render_diagnostics node) insertion scope
    position

end Problems

section Addresses

variable {compiler : Compiler}

theorem mem_tour
    {nodes : List Node} {scope : Scope} {position : Nat} {entry : Address × Visit} :
    entry ∈ compiler.tour nodes scope position ↔
      ∃ (offset : Nat) (node : Node), nodes[offset]? = some node ∧
        entry ∈ compiler.nodeTour node scope (position + offset) := by
  induction nodes generalizing position with
  | nil => simp [tour]
  | cons node nodes ih =>
      rw [tour, List.mem_append, ih]
      constructor
      · rintro (here | ⟨offset, other, found, inside⟩)
        · exact ⟨0, node, rfl, here⟩
        · refine ⟨offset + 1, other, found, ?_⟩
          rwa [Nat.add_right_comm] at inside
      · rintro ⟨offset, other, found, inside⟩
        cases offset with
        | zero =>
            cases found
            exact .inl inside
        | succ offset =>
            right
            refine ⟨offset, other, found, ?_⟩
            rwa [Nat.add_right_comm]

theorem mem_nodeTour
    {tag : StartTag} {children : List Node} {closing : Closing} {scope : Scope} {position : Nat}
    {entry : Address × Visit} :
    entry ∈ compiler.nodeTour (.element tag children closing) scope position ↔
      ∃ (repetition : Nat) (visit : Visit), (compiler.visits tag scope)[repetition]? = some visit ∧
        entry ∈ visit.tour (fun inner => compiler.tour children inner 0) position repetition := by
  rw [nodeTour, List.mem_flatMap]
  constructor
  · rintro ⟨⟨visit, repetition⟩, member, inside⟩
    exact ⟨repetition, visit, List.mk_mem_zipIdx_iff_getElem?.1 member, inside⟩
  · rintro ⟨repetition, visit, found, inside⟩
    exact ⟨(visit, repetition), List.mk_mem_zipIdx_iff_getElem?.2 found, inside⟩

/-- An address begins with where the node stands. -/
theorem nodeTour_address
    {node : Node} {scope : Scope} {position : Nat} {entry : Address × Visit}
    (member : entry ∈ compiler.nodeTour node scope position) :
    ∃ (repetition : Nat) (inward : Address), entry.1 = (position, repetition) :: inward := by
  cases node with
  | element tag children closing =>
      obtain ⟨repetition, visit, -, inside⟩ := mem_nodeTour.1 member
      exact ⟨repetition, Visit.tour_address inside⟩
  | _ => simp [nodeTour] at member

theorem tour_address
    {nodes : List Node} {scope : Scope} {position : Nat} {entry : Address × Visit}
    (member : entry ∈ compiler.tour nodes scope position) :
    ∃ (offset repetition : Nat) (inward : Address),
      entry.1 = (position + offset, repetition) :: inward := by
  obtain ⟨offset, node, -, inside⟩ := mem_tour.1 member
  exact ⟨offset, nodeTour_address inside⟩

theorem mem_tour_of_visitAt
    {nodes : List Node} {scope : Scope} {address : Address} {visit : Visit}
    (made_at : compiler.VisitAt nodes scope address visit) :
    (address, visit) ∈ compiler.tour nodes scope 0 := by
  induction made_at with
  | here found made =>
      refine mem_tour.2 ⟨_, _, found, mem_nodeTour.2 ⟨_, _, made, Visit.mem_tour.2 (.inl ?_)⟩⟩
      rw [Nat.zero_add]
  | inward found made _ ih =>
      refine mem_tour.2 ⟨_, _, found, mem_nodeTour.2 ⟨_, _, made, Visit.mem_tour.2 (.inr ?_)⟩⟩
      exact ⟨_, ih, by rw [Nat.zero_add]⟩

theorem visitAt_of_mem_tour
    {nodes : List Node} {scope : Scope} {address : Address} {visit : Visit}
    (member : (address, visit) ∈ compiler.tour nodes scope 0) :
    compiler.VisitAt nodes scope address visit := by
  induction address generalizing nodes scope with
  | nil =>
      obtain ⟨_, _, _, address_eq⟩ := tour_address member
      contradiction
  | cons step inward ih =>
      obtain ⟨offset, node, found, inside⟩ := mem_tour.1 member
      cases node with
      | element tag children closing =>
          obtain ⟨repetition, made, made_eq, inside⟩ := mem_nodeTour.1 inside
          rw [Nat.zero_add] at inside
          rcases Visit.mem_tour.1 inside with here | ⟨inner, within, entry_eq⟩
          · cases here
            exact .here found made_eq
          · cases entry_eq
            cases made with
            | keep kept scope_within => exact .inward found made_eq (ih within)
            | _ => contradiction
      | _ => simp [nodeTour] at inside

theorem tour_ordered
    {nodes : List Node}
    (each : ∀ node ∈ nodes, ∀ (scope : Scope) (position : Nat),
      (compiler.nodeTour node scope position).Pairwise fun first second =>
        first.1.Before second.1)
    (scope : Scope) (position : Nat) :
    (compiler.tour nodes scope position).Pairwise fun first second =>
      first.1.Before second.1 := by
  induction nodes generalizing position with
  | nil => exact .nil
  | cons node nodes ih =>
      rw [tour, List.pairwise_append]
      refine ⟨each node (by simp) scope position,
        ih (fun other member => each other (by simp [member])) (position + 1), ?_⟩
      intro first first_here second second_behind
      obtain ⟨_, _, first_eq⟩ := nodeTour_address first_here
      obtain ⟨offset, _, _, second_eq⟩ := tour_address second_behind
      rw [first_eq, second_eq]
      exact .rel (.left _ _ (by omega))

theorem zipIdx_ordered {α : Type} (list : List α) :
    list.zipIdx.Pairwise fun first second => first.2 < second.2 := by
  apply List.pairwise_map.1
  rw [List.zipIdx_map_snd]
  exact List.pairwise_lt_range'

theorem nodeTour_ordered (node : Node) :
    ∀ (scope : Scope) (position : Nat),
      (compiler.nodeTour node scope position).Pairwise fun first second =>
        first.1.Before second.1 := by
  induction node using Node.tree_induction with
  | element tag children closing ih =>
      intro scope position
      rw [nodeTour, List.pairwise_flatMap]
      constructor
      · rintro ⟨visit, repetition⟩ _
        cases visit with
        | keep kept inner =>
            refine Visit.tour_ordered ?_ (tour_ordered ih inner 0)
            intro entry member
            obtain ⟨_, _, _, address_eq⟩ := tour_address member
            rw [address_eq]
            exact List.cons_ne_nil _ _
        | _ => exact List.pairwise_singleton _ _
      · apply (zipIdx_ordered _).imp
        intro first second earlier one one_member other other_member
        obtain ⟨_, one_eq⟩ := Visit.tour_address one_member
        obtain ⟨_, other_eq⟩ := Visit.tour_address other_member
        rw [one_eq, other_eq]
        exact .rel (.right _ earlier)
  | _ => intros; exact .nil

end Addresses

end Compiler
end MarkupTemplate
