import MarkupTemplate.Condition.Parser
import MarkupTemplate.Proofs.Condition.Grammar

/-!
The parser and the grammar. What the parser reads off the front of its tokens is a tree whose
operands lie within the budget; and it reads every such tree, wherever the tokens behind it cannot
go on with it.
-/

namespace MarkupTemplate
namespace Condition
namespace Parser

open Grammar

theorem close_sound
    {group expr : Expr} {tokens rest : List Token}
    (read : close group tokens = .ok (expr, rest)) :
    group = expr ∧ tokens = .rightParen :: rest := by
  unfold close at read
  split at read
  · cases read
    exact ⟨rfl, rfl⟩
  · contradiction
  · contradiction

mutual

theorem disjunction_sound
    {budget : Nat} {tokens rest : List Token} {expr : Expr}
    (read : disjunction budget tokens = .ok (expr, rest)) :
    ∃ tree : Disjunction,
      tree.height ≤ budget ∧ tree.expr = expr ∧ tree.tokens ++ rest = tokens := by
  rw [disjunction] at read
  split at read
  · contradiction
  · next left behind first_read =>
      obtain ⟨first, first_fits, rfl, rfl⟩ := conjunction_sound first_read
      obtain ⟨more, more_fits, rfl, rfl⟩ := moreDisjuncts_sound read
      refine ⟨.chain first more, ?_, rfl, ?_⟩
      · rw [Disjunction.height]
        omega
      · rw [Disjunction.tokens, List.append_assoc]
termination_by 6 * budget + 5

theorem moreDisjuncts_sound
    {budget : Nat} {left expr : Expr} {tokens rest : List Token}
    (read : moreDisjuncts budget left tokens = .ok (expr, rest)) :
    ∃ more : Disjuncts,
      more.height ≤ budget ∧ more.expr left = expr ∧ more.tokens ++ rest = tokens := by
  rw [moreDisjuncts.eq_def] at read
  split at read
  · contradiction
  · split at read
    · contradiction
    · next next_read =>
        obtain ⟨next, next_fits, rfl, rfl⟩ := conjunction_sound next_read
        obtain ⟨more, more_fits, rfl, rfl⟩ := moreDisjuncts_sound read
        refine ⟨.or next more, ?_, rfl, ?_⟩
        · rw [Disjuncts.height]
          omega
        · rw [Disjuncts.tokens, List.cons_append, List.append_assoc]
  · cases read
    exact ⟨.none, Nat.zero_le _, rfl, rfl⟩
termination_by 6 * budget + 4

theorem conjunction_sound
    {budget : Nat} {tokens rest : List Token} {expr : Expr}
    (read : conjunction budget tokens = .ok (expr, rest)) :
    ∃ tree : Conjunction,
      tree.height ≤ budget ∧ tree.expr = expr ∧ tree.tokens ++ rest = tokens := by
  rw [conjunction] at read
  split at read
  · contradiction
  · next left behind first_read =>
      obtain ⟨first, first_fits, rfl, rfl⟩ := comparison_sound first_read
      obtain ⟨more, more_fits, rfl, rfl⟩ := moreConjuncts_sound read
      refine ⟨.chain first more, ?_, rfl, ?_⟩
      · rw [Conjunction.height]
        omega
      · rw [Conjunction.tokens, List.append_assoc]
termination_by 6 * budget + 4

theorem moreConjuncts_sound
    {budget : Nat} {left expr : Expr} {tokens rest : List Token}
    (read : moreConjuncts budget left tokens = .ok (expr, rest)) :
    ∃ more : Conjuncts,
      more.height ≤ budget ∧ more.expr left = expr ∧ more.tokens ++ rest = tokens := by
  rw [moreConjuncts.eq_def] at read
  split at read
  · contradiction
  · split at read
    · contradiction
    · next next_read =>
        obtain ⟨next, next_fits, rfl, rfl⟩ := comparison_sound next_read
        obtain ⟨more, more_fits, rfl, rfl⟩ := moreConjuncts_sound read
        refine ⟨.and next more, ?_, rfl, ?_⟩
        · rw [Conjuncts.height]
          omega
        · rw [Conjuncts.tokens, List.cons_append, List.append_assoc]
  · cases read
    exact ⟨.none, Nat.zero_le _, rfl, rfl⟩
termination_by 6 * budget + 3

theorem comparison_sound
    {budget : Nat} {tokens rest : List Token} {expr : Expr}
    (read : comparison budget tokens = .ok (expr, rest)) :
    ∃ tree : Relation,
      tree.height ≤ budget ∧ tree.expr = expr ∧ tree.tokens ++ rest = tokens := by
  rw [comparison] at read
  split at read
  · contradiction
  · next left_read =>
      obtain ⟨left, left_fits, rfl, rfl⟩ := operand_sound left_read
      split at read
      · contradiction
      · next right_read =>
          cases read
          obtain ⟨right, right_fits, rfl, rfl⟩ := operand_sound right_read
          refine ⟨.compare left _ right, ?_, rfl, ?_⟩
          · rw [Relation.height]
            omega
          · rw [Relation.tokens, List.append_assoc, List.cons_append]
  · next alone_read =>
      cases read
      obtain ⟨operand, fits, rfl, rfl⟩ := operand_sound alone_read
      exact ⟨.alone operand, fits, rfl, rfl⟩
termination_by 6 * budget + 2

theorem operand_sound
    {budget : Nat} {tokens rest : List Token} {expr : Expr}
    (read : operand budget tokens = .ok (expr, rest)) :
    ∃ tree : Operand,
      tree.height ≤ budget ∧ tree.expr = expr ∧ tree.tokens ++ rest = tokens := by
  rw [operand.eq_def] at read
  split at read
  · contradiction
  · split at read
    · contradiction
    · next inner_read =>
        cases read
        obtain ⟨inner, fits, rfl, rfl⟩ := operand_sound inner_read
        refine ⟨.not inner, ?_, rfl, rfl⟩
        rw [Operand.height]
        omega
  · contradiction
  · split at read
    · contradiction
    · next inner_read =>
        obtain ⟨inner, fits, rfl, rfl⟩ := disjunction_sound inner_read
        obtain ⟨rfl, rfl⟩ := close_sound read
        refine ⟨.group inner, ?_, rfl, ?_⟩
        · rw [Operand.height]
          omega
        · rw [Operand.tokens, List.cons_append, List.append_assoc, List.singleton_append]
  · next value _ =>
      cases value <;> cases read
      exact ⟨.leaf (.number _), Nat.zero_le _, rfl, rfl⟩
  · cases read
    exact ⟨.leaf (.string _), Nat.zero_le _, rfl, rfl⟩
  · cases read
    exact ⟨.leaf (.truth _), Nat.zero_le _, rfl, rfl⟩
  · cases read
    exact ⟨.leaf .null, Nat.zero_le _, rfl, rfl⟩
  · cases read
    exact ⟨.leaf (.path _), Nat.zero_le _, rfl, rfl⟩
  · contradiction
  · contradiction
termination_by 6 * budget + 1

end

theorem close_rightParen (group : Expr) (rest : List Token) :
    close group (.rightParen :: rest) = .ok (group, rest) := rfl

theorem operand_leaf (leaf : Leaf) (budget : Nat) (rest : List Token) :
    operand budget (leaf.token :: rest) = .ok (leaf.expr, rest) := by
  cases leaf <;> cases budget <;> rw [operand.eq_def] <;> rfl

theorem moreDisjuncts_stops
    {tokens : List Token} (stops : disjunctionGoesOn tokens = false) (budget : Nat) (left : Expr) :
    moreDisjuncts budget left tokens = .ok (left, tokens) := by
  rw [moreDisjuncts.eq_def]
  split
  · contradiction
  · contradiction
  · rfl

theorem moreConjuncts_stops
    {tokens : List Token} (stops : conjunctionGoesOn tokens = false) (budget : Nat) (left : Expr) :
    moreConjuncts budget left tokens = .ok (left, tokens) := by
  rw [moreConjuncts.eq_def]
  split
  · contradiction
  · contradiction
  · rfl

mutual

theorem disjunction_complete
    (tree : Disjunction) {budget : Nat} {rest : List Token}
    (fits : tree.height ≤ budget) (stops : disjunctionGoesOn rest = false) :
    disjunction budget (tree.tokens ++ rest) = .ok (tree.expr, rest) := by
  match tree with
  | .chain first more =>
      rw [Disjunction.height] at fits
      rw [Disjunction.tokens, Disjunction.expr, List.append_assoc, disjunction,
        conjunction_complete first (by omega) (more.conjunction_stops stops)]
      exact moreDisjuncts_complete more (by omega) stops

theorem moreDisjuncts_complete
    (more : Disjuncts) {budget : Nat} {left : Expr} {rest : List Token}
    (fits : more.height ≤ budget) (stops : disjunctionGoesOn rest = false) :
    moreDisjuncts budget left (more.tokens ++ rest) = .ok (more.expr left, rest) := by
  match more, budget with
  | .none, _ => exact moreDisjuncts_stops stops _ _
  | .or _ _, 0 => simp [Disjuncts.height] at fits
  -- the budget falls with every operator and is never given back inside the chain
  | .or next more, budget + 1 =>
      rw [Disjuncts.height] at fits
      rw [Disjuncts.tokens, Disjuncts.expr, List.cons_append, List.append_assoc, moreDisjuncts,
        conjunction_complete next (by omega) (more.conjunction_stops stops)]
      exact moreDisjuncts_complete more (by omega) stops

theorem conjunction_complete
    (tree : Conjunction) {budget : Nat} {rest : List Token}
    (fits : tree.height ≤ budget) (stops : conjunctionGoesOn rest = false) :
    conjunction budget (tree.tokens ++ rest) = .ok (tree.expr, rest) := by
  match tree with
  | .chain first more =>
      rw [Conjunction.height] at fits
      rw [Conjunction.tokens, Conjunction.expr, List.append_assoc, conjunction,
        comparison_complete first (by omega) (more.relation_stops stops)]
      exact moreConjuncts_complete more (by omega) stops

theorem moreConjuncts_complete
    (more : Conjuncts) {budget : Nat} {left : Expr} {rest : List Token}
    (fits : more.height ≤ budget) (stops : conjunctionGoesOn rest = false) :
    moreConjuncts budget left (more.tokens ++ rest) = .ok (more.expr left, rest) := by
  match more, budget with
  | .none, _ => exact moreConjuncts_stops stops _ _
  | .and _ _, 0 => simp [Conjuncts.height] at fits
  | .and next more, budget + 1 =>
      rw [Conjuncts.height] at fits
      rw [Conjuncts.tokens, Conjuncts.expr, List.cons_append, List.append_assoc, moreConjuncts,
        comparison_complete next (by omega) (more.relation_stops stops)]
      exact moreConjuncts_complete more (by omega) stops

theorem comparison_complete
    (tree : Relation) {budget : Nat} {rest : List Token}
    (fits : tree.height ≤ budget) (stops : relationGoesOn rest = false) :
    comparison budget (tree.tokens ++ rest) = .ok (tree.expr, rest) := by
  match tree with
  | .alone operand =>
      rw [Relation.height] at fits
      rw [Relation.tokens, Relation.expr, comparison, operand_complete operand fits]
      split
      · contradiction
      · next read =>
          cases read
          contradiction
      · next read =>
          cases read
          rfl
  | .compare left comparison right =>
      rw [Relation.height] at fits
      rw [Relation.tokens, Relation.expr, List.append_assoc, List.cons_append, Parser.comparison,
        operand_complete left (by omega)]
      simp only [operand_complete right (show right.height ≤ budget by omega)]

theorem operand_complete
    (tree : Operand) {budget : Nat} {rest : List Token} (fits : tree.height ≤ budget) :
    operand budget (tree.tokens ++ rest) = .ok (tree.expr, rest) := by
  match tree, budget with
  | .leaf leaf, budget => exact operand_leaf leaf budget rest
  | .not _, 0 => simp [Operand.height] at fits
  | .not inner, budget + 1 =>
      rw [Operand.height] at fits
      rw [Operand.tokens, Operand.expr, List.cons_append, operand,
        operand_complete inner (by omega)]
  | .group _, 0 => simp [Operand.height] at fits
  | .group inner, budget + 1 =>
      rw [Operand.height] at fits
      rw [Operand.tokens, Operand.expr, List.cons_append, List.append_assoc, operand,
        disjunction_complete inner (by omega) rfl]
      exact close_rightParen inner.expr rest

end

theorem parse_sound
    {tokens : List Token} {expr : Expr} (parsed : parse tokens = .ok expr) :
    ∃ tree : Disjunction, tree.height ≤ maxDepth ∧ tree.expr = expr ∧ tree.tokens = tokens := by
  unfold parse at parsed
  split at parsed
  · contradiction
  · split at parsed
    · contradiction
    · next read =>
        cases parsed
        obtain ⟨tree, fits, expr_eq, spelled⟩ := disjunction_sound read
        rw [List.append_nil] at spelled
        exact ⟨tree, fits, expr_eq, spelled⟩
    · contradiction

theorem parse_complete (tree : Disjunction) (fits : tree.height ≤ maxDepth) :
    parse tree.tokens = .ok tree.expr := by
  have read : disjunction maxDepth (tree.tokens ++ []) = .ok (tree.expr, []) :=
    disjunction_complete tree fits rfl
  rw [List.append_nil] at read
  unfold parse
  rw [if_neg (by simpa using tree.tokens_ne_nil), read]

/-- The parser accepts exactly the grammar within its limit of nesting, and answers the expression
of the one tree that spells all the tokens. -/
theorem parse_ok_iff_derives (tokens : List Token) (expr : Expr) :
    (parse tokens = .ok expr ↔
      ∃ tree : Disjunction, tree.tokens = tokens ∧ tree.expr = expr ∧
        ∀ depth ∈ tree.depths 0, depth ≤ maxDepth) ∧
    ∀ tree other : Disjunction, tree.tokens = tokens → other.tokens = tokens → tree = other := by
  refine ⟨⟨fun parsed => ?_, ?_⟩, ?_⟩
  · obtain ⟨tree, fits, expr_eq, spelled⟩ := parse_sound parsed
    exact ⟨tree, spelled, expr_eq, (tree.depths_le_iff 0 maxDepth).2 (by omega)⟩
  · rintro ⟨tree, rfl, rfl, fits⟩
    have fits := (tree.depths_le_iff 0 maxDepth).1 fits
    exact parse_complete tree (by omega)
  · intro tree other spelled otherSpelled
    exact tree_eq_of_tokens_eq (spelled.trans otherSpelled.symm)

end Parser
end Condition
end MarkupTemplate
