import MarkupTemplate.Condition.Expr

/-!
The grammar of conditions, as its derivation trees. A tree spells tokens, stands for an expression,
and places each of its operands at a depth. The grammar is unambiguous: no two trees spell the same
tokens.
-/

namespace MarkupTemplate
namespace Condition
namespace Grammar

/-- An operand that is one token. Only finite numbers are operands. -/
inductive Leaf
  | number (value : Finite)
  | string (value : List Char)
  | path (value : List Char)
  | truth (value : Bool)
  | null
deriving DecidableEq, Repr

namespace Leaf

def token : Leaf → Token
  | .number value => .number (.finite value)
  | .string value => .string value
  | .path value => .path value
  | .truth value => .truth value
  | .null => .null

def expr : Leaf → Expr
  | .number value => .literal (.number (.float value))
  | .string value => .literal (.string (String.ofList value))
  | .path value => .path value
  | .truth value => .literal (.bool value)
  | .null => .literal .null

theorem token_injective {leaf other : Leaf} (same : leaf.token = other.token) : leaf = other := by
  cases leaf <;> cases other <;> simp_all [token]

end Leaf

mutual

inductive Disjunction
  | chain (first : Conjunction) (more : Disjuncts)

inductive Disjuncts
  | none
  | or (next : Conjunction) (more : Disjuncts)

inductive Conjunction
  | chain (first : Relation) (more : Conjuncts)

inductive Conjuncts
  | none
  | and (next : Relation) (more : Conjuncts)

/-- At most one comparison. -/
inductive Relation
  | alone (operand : Operand)
  | compare (left : Operand) (comparison : Comparison) (right : Operand)

inductive Operand
  | leaf (leaf : Leaf)
  | not (operand : Operand)
  | group (inner : Disjunction)

end

mutual

def Disjunction.tokens : Disjunction → List Token
  | .chain first more => first.tokens ++ more.tokens

def Disjuncts.tokens : Disjuncts → List Token
  | .none => []
  | .or next more => .or :: (next.tokens ++ more.tokens)

def Conjunction.tokens : Conjunction → List Token
  | .chain first more => first.tokens ++ more.tokens

def Conjuncts.tokens : Conjuncts → List Token
  | .none => []
  | .and next more => .and :: (next.tokens ++ more.tokens)

def Relation.tokens : Relation → List Token
  | .alone operand => operand.tokens
  | .compare left comparison right => left.tokens ++ .compare comparison :: right.tokens

def Operand.tokens : Operand → List Token
  | .leaf leaf => [leaf.token]
  | .not operand => .not :: operand.tokens
  | .group inner => .leftParen :: (inner.tokens ++ [.rightParen])

end

mutual

def Disjunction.expr : Disjunction → Expr
  | .chain first more => more.expr first.expr

/-- The expression of a chain whose operands up to here make `left`. -/
def Disjuncts.expr (left : Expr) : Disjuncts → Expr
  | .none => left
  | .or next more => more.expr (.or left next.expr)

def Conjunction.expr : Conjunction → Expr
  | .chain first more => more.expr first.expr

def Conjuncts.expr (left : Expr) : Conjuncts → Expr
  | .none => left
  | .and next more => more.expr (.and left next.expr)

def Relation.expr : Relation → Expr
  | .alone operand => operand.expr
  | .compare left comparison right => .compare comparison left.expr right.expr

/-- Parentheses leave no trace in an expression. -/
def Operand.expr : Operand → Expr
  | .leaf leaf => leaf.expr
  | .not operand => .not operand.expr
  | .group inner => inner.expr

end

mutual

def Disjunction.depths (outer : Nat) : Disjunction → List Nat
  | .chain first more => first.depths outer ++ more.depths outer

/-- Each operand lies one deeper than the one before it in the chain. -/
def Disjuncts.depths (outer : Nat) : Disjuncts → List Nat
  | .none => []
  | .or next more => next.depths (outer + 1) ++ more.depths (outer + 1)

def Conjunction.depths (outer : Nat) : Conjunction → List Nat
  | .chain first more => first.depths outer ++ more.depths outer

def Conjuncts.depths (outer : Nat) : Conjuncts → List Nat
  | .none => []
  | .and next more => next.depths (outer + 1) ++ more.depths (outer + 1)

def Relation.depths (outer : Nat) : Relation → List Nat
  | .alone operand => operand.depths outer
  | .compare left _ right => left.depths outer ++ right.depths outer

def Operand.depths (outer : Nat) : Operand → List Nat
  | .leaf _ => [outer]
  | .not operand => outer :: operand.depths (outer + 1)
  | .group inner => outer :: inner.depths (outer + 1)

end

mutual

/-- The greatest depth of an operand below the place where the tree stands. -/
def Disjunction.height : Disjunction → Nat
  | .chain first more => max first.height more.height

def Disjuncts.height : Disjuncts → Nat
  | .none => 0
  | .or next more => max next.height more.height + 1

def Conjunction.height : Conjunction → Nat
  | .chain first more => max first.height more.height

def Conjuncts.height : Conjuncts → Nat
  | .none => 0
  | .and next more => max next.height more.height + 1

def Relation.height : Relation → Nat
  | .alone operand => operand.height
  | .compare left _ right => max left.height right.height

def Operand.height : Operand → Nat
  | .leaf _ => 0
  | .not operand => operand.height + 1
  | .group inner => inner.height + 1

end

theorem Operand.tokens_ne_nil (tree : Operand) : tree.tokens ≠ [] := by
  cases tree <;> simp [Operand.tokens]

theorem Relation.tokens_ne_nil (tree : Relation) : tree.tokens ≠ [] := by
  cases tree <;> simp [Relation.tokens, Operand.tokens_ne_nil]

theorem Conjunction.tokens_ne_nil (tree : Conjunction) : tree.tokens ≠ [] := by
  cases tree
  simp [Conjunction.tokens, Relation.tokens_ne_nil]

theorem Disjunction.tokens_ne_nil (tree : Disjunction) : tree.tokens ≠ [] := by
  cases tree
  simp [Disjunction.tokens, Conjunction.tokens_ne_nil]

theorem chain_fits_iff
    {first more : Prop} {outer bound height moreHeight : Nat}
    (first_iff : first ↔ outer + height ≤ bound)
    (more_iff : outer ≤ bound → (more ↔ outer + moreHeight ≤ bound)) :
    first ∧ more ↔ outer + max height moreHeight ≤ bound := by
  constructor
  · rintro ⟨first_fits, more_fits⟩
    have height_le := first_iff.1 first_fits
    have moreHeight_le := (more_iff (by omega)).1 more_fits
    omega
  · intro fits
    exact ⟨first_iff.2 (by omega), (more_iff (by omega)).2 (by omega)⟩

mutual

/-- No operand lies deeper than the bound exactly if the deepest does not. -/
theorem Disjunction.depths_le_iff (tree : Disjunction) (outer bound : Nat) :
    (∀ depth ∈ tree.depths outer, depth ≤ bound) ↔ outer + tree.height ≤ bound := by
  match tree with
  | .chain first more =>
      rw [Disjunction.depths, Disjunction.height, List.forall_mem_append]
      exact chain_fits_iff (first.depths_le_iff outer bound) (more.depths_le_iff outer bound)

theorem Disjuncts.depths_le_iff (tree : Disjuncts) (outer bound : Nat) (fits : outer ≤ bound) :
    (∀ depth ∈ tree.depths outer, depth ≤ bound) ↔ outer + tree.height ≤ bound := by
  match tree with
  | .none => simpa [Disjuncts.depths, Disjuncts.height] using fits
  | .or next more =>
      rw [Disjuncts.depths, Disjuncts.height, List.forall_mem_append, chain_fits_iff
        (next.depths_le_iff (outer + 1) bound) (more.depths_le_iff (outer + 1) bound)]
      omega

theorem Conjunction.depths_le_iff (tree : Conjunction) (outer bound : Nat) :
    (∀ depth ∈ tree.depths outer, depth ≤ bound) ↔ outer + tree.height ≤ bound := by
  match tree with
  | .chain first more =>
      rw [Conjunction.depths, Conjunction.height, List.forall_mem_append]
      exact chain_fits_iff (first.depths_le_iff outer bound) (more.depths_le_iff outer bound)

theorem Conjuncts.depths_le_iff (tree : Conjuncts) (outer bound : Nat) (fits : outer ≤ bound) :
    (∀ depth ∈ tree.depths outer, depth ≤ bound) ↔ outer + tree.height ≤ bound := by
  match tree with
  | .none => simpa [Conjuncts.depths, Conjuncts.height] using fits
  | .and next more =>
      rw [Conjuncts.depths, Conjuncts.height, List.forall_mem_append, chain_fits_iff
        (next.depths_le_iff (outer + 1) bound) (more.depths_le_iff (outer + 1) bound)]
      omega

theorem Relation.depths_le_iff (tree : Relation) (outer bound : Nat) :
    (∀ depth ∈ tree.depths outer, depth ≤ bound) ↔ outer + tree.height ≤ bound := by
  match tree with
  | .alone operand => rw [Relation.depths, Relation.height, operand.depths_le_iff]
  | .compare left _ right =>
      rw [Relation.depths, Relation.height, List.forall_mem_append]
      exact chain_fits_iff (left.depths_le_iff outer bound) fun _ =>
        right.depths_le_iff outer bound

theorem Operand.depths_le_iff (tree : Operand) (outer bound : Nat) :
    (∀ depth ∈ tree.depths outer, depth ≤ bound) ↔ outer + tree.height ≤ bound := by
  match tree with
  | .leaf _ => simp [Operand.depths, Operand.height]
  | .not operand =>
      rw [Operand.depths, Operand.height, List.forall_mem_cons, operand.depths_le_iff]
      omega
  | .group inner =>
      rw [Operand.depths, Operand.height, List.forall_mem_cons, inner.depths_le_iff]
      omega

end

def relationGoesOn : List Token → Bool
  | .compare _ :: _ => true
  | _ => false

def conjunctionGoesOn : List Token → Bool
  | .and :: _ => true
  | tokens => relationGoesOn tokens

def disjunctionGoesOn : List Token → Bool
  | .or :: _ => true
  | tokens => conjunctionGoesOn tokens

theorem relation_stops {tokens : List Token} (stops : conjunctionGoesOn tokens = false) :
    relationGoesOn tokens = false := by
  unfold conjunctionGoesOn at stops
  split at stops
  · contradiction
  · exact stops

theorem conjunction_stops {tokens : List Token} (stops : disjunctionGoesOn tokens = false) :
    conjunctionGoesOn tokens = false := by
  unfold disjunctionGoesOn at stops
  split at stops
  · contradiction
  · exact stops

theorem Conjuncts.relation_stops
    (more : Conjuncts) {rest : List Token} (stops : conjunctionGoesOn rest = false) :
    relationGoesOn (more.tokens ++ rest) = false := by
  cases more with
  | none => exact Grammar.relation_stops stops
  | and next more => rfl

theorem Disjuncts.conjunction_stops
    (more : Disjuncts) {rest : List Token} (stops : disjunctionGoesOn rest = false) :
    conjunctionGoesOn (more.tokens ++ rest) = false := by
  cases more with
  | none => exact Grammar.conjunction_stops stops
  | or next more => rfl

mutual

/-- Two trees whose tokens begin one text, each up to where its tree cannot go on, are one. -/
theorem Disjunction.unique
    (tree other : Disjunction) {rest otherRest : List Token}
    (same : tree.tokens ++ rest = other.tokens ++ otherRest)
    (stops : disjunctionGoesOn rest = false) (otherStops : disjunctionGoesOn otherRest = false) :
    tree = other ∧ rest = otherRest := by
  match tree, other with
  | .chain first more, .chain otherFirst otherMore =>
      simp only [Disjunction.tokens, List.append_assoc] at same
      obtain ⟨rfl, behind⟩ := first.unique otherFirst same (more.conjunction_stops stops)
        (otherMore.conjunction_stops otherStops)
      obtain ⟨rfl, rest_eq⟩ := more.unique otherMore behind stops otherStops
      exact ⟨rfl, rest_eq⟩

theorem Disjuncts.unique
    (tree other : Disjuncts) {rest otherRest : List Token}
    (same : tree.tokens ++ rest = other.tokens ++ otherRest)
    (stops : disjunctionGoesOn rest = false) (otherStops : disjunctionGoesOn otherRest = false) :
    tree = other ∧ rest = otherRest := by
  match tree, other with
  | .none, .none => exact ⟨rfl, same⟩
  | .none, .or _ _ =>
      simp only [Disjuncts.tokens, List.nil_append] at same
      rw [same] at stops
      contradiction
  | .or _ _, .none =>
      simp only [Disjuncts.tokens, List.nil_append] at same
      rw [← same] at otherStops
      contradiction
  | .or next more, .or otherNext otherMore =>
      simp only [Disjuncts.tokens, List.cons_append, List.append_assoc, List.cons.injEq,
        true_and] at same
      obtain ⟨rfl, behind⟩ := next.unique otherNext same (more.conjunction_stops stops)
        (otherMore.conjunction_stops otherStops)
      obtain ⟨rfl, rest_eq⟩ := more.unique otherMore behind stops otherStops
      exact ⟨rfl, rest_eq⟩

theorem Conjunction.unique
    (tree other : Conjunction) {rest otherRest : List Token}
    (same : tree.tokens ++ rest = other.tokens ++ otherRest)
    (stops : conjunctionGoesOn rest = false) (otherStops : conjunctionGoesOn otherRest = false) :
    tree = other ∧ rest = otherRest := by
  match tree, other with
  | .chain first more, .chain otherFirst otherMore =>
      simp only [Conjunction.tokens, List.append_assoc] at same
      obtain ⟨rfl, behind⟩ := first.unique otherFirst same (more.relation_stops stops)
        (otherMore.relation_stops otherStops)
      obtain ⟨rfl, rest_eq⟩ := more.unique otherMore behind stops otherStops
      exact ⟨rfl, rest_eq⟩

theorem Conjuncts.unique
    (tree other : Conjuncts) {rest otherRest : List Token}
    (same : tree.tokens ++ rest = other.tokens ++ otherRest)
    (stops : conjunctionGoesOn rest = false) (otherStops : conjunctionGoesOn otherRest = false) :
    tree = other ∧ rest = otherRest := by
  match tree, other with
  | .none, .none => exact ⟨rfl, same⟩
  | .none, .and _ _ =>
      simp only [Conjuncts.tokens, List.nil_append] at same
      rw [same] at stops
      contradiction
  | .and _ _, .none =>
      simp only [Conjuncts.tokens, List.nil_append] at same
      rw [← same] at otherStops
      contradiction
  | .and next more, .and otherNext otherMore =>
      simp only [Conjuncts.tokens, List.cons_append, List.append_assoc, List.cons.injEq,
        true_and] at same
      obtain ⟨rfl, behind⟩ := next.unique otherNext same (more.relation_stops stops)
        (otherMore.relation_stops otherStops)
      obtain ⟨rfl, rest_eq⟩ := more.unique otherMore behind stops otherStops
      exact ⟨rfl, rest_eq⟩

theorem Relation.unique
    (tree other : Relation) {rest otherRest : List Token}
    (same : tree.tokens ++ rest = other.tokens ++ otherRest)
    (stops : relationGoesOn rest = false) (otherStops : relationGoesOn otherRest = false) :
    tree = other ∧ rest = otherRest := by
  match tree, other with
  | .alone operand, .alone otherOperand =>
      obtain ⟨rfl, rest_eq⟩ := operand.unique otherOperand same
      exact ⟨rfl, rest_eq⟩
  -- what one tree takes as its end, the other goes on with
  | .alone operand, .compare left _ _ =>
      simp only [Relation.tokens, List.append_assoc, List.cons_append] at same
      rw [(operand.unique left same).2] at stops
      contradiction
  | .compare left _ _, .alone operand =>
      simp only [Relation.tokens, List.append_assoc, List.cons_append] at same
      rw [← (left.unique operand same).2] at otherStops
      contradiction
  | .compare left comparison right, .compare otherLeft otherComparison otherRight =>
      simp only [Relation.tokens, List.append_assoc, List.cons_append] at same
      obtain ⟨rfl, behind⟩ := left.unique otherLeft same
      simp only [List.cons.injEq, Token.compare.injEq] at behind
      obtain ⟨rfl, behind⟩ := behind
      obtain ⟨rfl, rest_eq⟩ := right.unique otherRight behind
      exact ⟨rfl, rest_eq⟩

theorem Operand.unique
    (tree other : Operand) {rest otherRest : List Token}
    (same : tree.tokens ++ rest = other.tokens ++ otherRest) :
    tree = other ∧ rest = otherRest := by
  match tree, other with
  | .leaf leaf, .leaf otherLeaf =>
      simp only [Operand.tokens, List.cons_append, List.nil_append, List.cons.injEq] at same
      exact ⟨congrArg Operand.leaf (Leaf.token_injective same.1), same.2⟩
  | .not operand, .not otherOperand =>
      simp only [Operand.tokens, List.cons_append, List.cons.injEq, true_and] at same
      obtain ⟨rfl, rest_eq⟩ := operand.unique otherOperand same
      exact ⟨rfl, rest_eq⟩
  -- inside parentheses nothing is asked of the rest: the closing one ends the tree in any case
  | .group inner, .group otherInner =>
      simp only [Operand.tokens, List.cons_append, List.append_assoc, List.nil_append,
        List.cons.injEq, true_and] at same
      obtain ⟨rfl, behind⟩ := inner.unique otherInner same rfl rfl
      exact ⟨rfl, (List.cons.inj behind).2⟩
  | .leaf leaf, .not _ => cases leaf <;> simp [Operand.tokens, Leaf.token] at same
  | .leaf leaf, .group _ => cases leaf <;> simp [Operand.tokens, Leaf.token] at same
  | .not _, .leaf leaf => cases leaf <;> simp [Operand.tokens, Leaf.token] at same
  | .not _, .group _ => simp [Operand.tokens] at same
  | .group _, .leaf leaf => cases leaf <;> simp [Operand.tokens, Leaf.token] at same
  | .group _, .not _ => simp [Operand.tokens] at same

end

/-- The grammar is unambiguous. -/
theorem tree_eq_of_tokens_eq {tree other : Disjunction} (same : tree.tokens = other.tokens) :
    tree = other :=
  (tree.unique other (congrArg (· ++ []) same) rfl rfl).1

end Grammar
end Condition
end MarkupTemplate
