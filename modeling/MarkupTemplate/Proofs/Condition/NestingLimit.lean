import MarkupTemplate.Condition
import MarkupTemplate.Proofs.Condition.Parsing

/-!
How deep the expression of a condition is. The parser counts for an operand the operators to its
left, but an operator stands in the expression above everything to its left. The first operand of a
chain may therefore use the whole budget of nesting and still come to lie below each operator of the
chain, and it may be a group with such a chain in it. So the limit of nesting bounds the height of
an expression by its square.
-/

namespace MarkupTemplate
namespace Condition

/-- The greatest number of negations, conjunctions and disjunctions on a way down from the root. -/
def Expr.logicalHeight : Expr → Nat
  | .literal _ => 0
  | .path _ => 0
  | .not operand => operand.logicalHeight + 1
  | .and left right => max left.logicalHeight right.logicalHeight + 1
  | .or left right => max left.logicalHeight right.logicalHeight + 1
  | .compare _ left right => max left.logicalHeight right.logicalHeight

namespace Grammar

/-- The height of an expression that is a conjunction read with a budget of nesting. An operand
stays below it by the budget, since so many operators may still come to stand above it. -/
def conjunctionLimit (budget : Nat) : Nat :=
  budget * budget + min budget 1

theorem conjunctionLimit_succ (budget : Nat) :
    conjunctionLimit (budget + 1) = budget * budget + 2 * budget + 2 := by
  simp only [conjunctionLimit, Nat.succ_mul, Nat.mul_succ]
  omega

theorem conjunctionLimit_le (budget : Nat) : conjunctionLimit budget ≤ budget * budget + 1 := by
  unfold conjunctionLimit
  omega

theorem Leaf.logicalHeight_expr (leaf : Leaf) : leaf.expr.logicalHeight = 0 := by
  cases leaf <;> rfl

mutual

theorem Disjunction.logicalHeight_le
    (tree : Disjunction) {budget : Nat} (fits : tree.height ≤ budget) :
    tree.expr.logicalHeight ≤ conjunctionLimit budget + budget := by
  match tree with
  | .chain first more =>
      rw [Disjunction.height] at fits
      have first_le : first.expr.logicalHeight ≤ conjunctionLimit budget :=
        first.logicalHeight_le (by omega)
      -- the whole budget is left for the operators that come to stand above the first operand
      exact more.logicalHeight_le (by omega) (Nat.le_refl _) (by omega)

/-- Every further operand takes one unit of the budget and puts one operator above the operands
before it: the height at which the chain may end stays the same. -/
theorem Disjuncts.logicalHeight_le
    (more : Disjuncts) {budget limit : Nat} {left : Expr}
    (fits : more.height ≤ budget) (enough : conjunctionLimit budget + budget ≤ limit)
    (left_le : left.logicalHeight + budget ≤ limit) :
    (more.expr left).logicalHeight ≤ limit := by
  match more, budget with
  | .none, budget =>
      rw [Disjuncts.expr]
      omega
  | .or _ _, 0 => simp [Disjuncts.height] at fits
  | .or next more, budget + 1 =>
      rw [Disjuncts.height] at fits
      rw [conjunctionLimit_succ] at enough
      have limit_le := conjunctionLimit_le budget
      have next_le : next.expr.logicalHeight ≤ conjunctionLimit budget :=
        next.logicalHeight_le (by omega)
      have more_fits : more.height ≤ budget := by omega
      rw [Disjuncts.expr]
      apply more.logicalHeight_le more_fits (by omega)
      rw [Expr.logicalHeight]
      omega

theorem Conjunction.logicalHeight_le
    (tree : Conjunction) {budget : Nat} (fits : tree.height ≤ budget) :
    tree.expr.logicalHeight ≤ conjunctionLimit budget := by
  match tree with
  | .chain first more =>
      rw [Conjunction.height] at fits
      have first_le : first.expr.logicalHeight + budget ≤ conjunctionLimit budget :=
        first.logicalHeight_le (by omega)
      exact more.logicalHeight_le (by omega) (Nat.le_refl _) first_le

theorem Conjuncts.logicalHeight_le
    (more : Conjuncts) {budget limit : Nat} {left : Expr}
    (fits : more.height ≤ budget) (enough : conjunctionLimit budget ≤ limit)
    (left_le : left.logicalHeight + budget ≤ limit) :
    (more.expr left).logicalHeight ≤ limit := by
  match more, budget with
  | .none, budget =>
      rw [Conjuncts.expr]
      omega
  | .and _ _, 0 => simp [Conjuncts.height] at fits
  | .and next more, budget + 1 =>
      rw [Conjuncts.height] at fits
      rw [conjunctionLimit_succ] at enough
      have limit_le := conjunctionLimit_le budget
      have next_le : next.expr.logicalHeight + budget ≤ conjunctionLimit budget :=
        next.logicalHeight_le (by omega)
      have more_fits : more.height ≤ budget := by omega
      rw [Conjuncts.expr]
      apply more.logicalHeight_le more_fits (by omega)
      rw [Expr.logicalHeight]
      omega

theorem Relation.logicalHeight_le
    (tree : Relation) {budget : Nat} (fits : tree.height ≤ budget) :
    tree.expr.logicalHeight + budget ≤ conjunctionLimit budget := by
  match tree with
  | .alone operand =>
      rw [Relation.height] at fits
      exact operand.logicalHeight_le fits
  | .compare left _ right =>
      rw [Relation.height] at fits
      have left_le : left.expr.logicalHeight + budget ≤ conjunctionLimit budget :=
        left.logicalHeight_le (by omega)
      have right_le : right.expr.logicalHeight + budget ≤ conjunctionLimit budget :=
        right.logicalHeight_le (by omega)
      rw [Relation.expr, Expr.logicalHeight]
      omega

theorem Operand.logicalHeight_le
    (tree : Operand) {budget : Nat} (fits : tree.height ≤ budget) :
    tree.expr.logicalHeight + budget ≤ conjunctionLimit budget := by
  match tree, budget with
  | .leaf leaf, 0 => simp [Operand.expr, leaf.logicalHeight_expr]
  | .leaf leaf, budget + 1 =>
      rw [Operand.expr, leaf.logicalHeight_expr, conjunctionLimit_succ]
      omega
  | .not _, 0 => simp [Operand.height] at fits
  | .not inner, budget + 1 =>
      rw [Operand.height] at fits
      have inner_le : inner.expr.logicalHeight + budget ≤ conjunctionLimit budget :=
        inner.logicalHeight_le (by omega)
      have limit_le := conjunctionLimit_le budget
      rw [Operand.expr, Expr.logicalHeight, conjunctionLimit_succ]
      unfold conjunctionLimit at inner_le
      omega
  | .group _, 0 => simp [Operand.height] at fits
  | .group inner, budget + 1 =>
      rw [Operand.height] at fits
      have inner_le : inner.expr.logicalHeight ≤ conjunctionLimit budget + budget :=
        inner.logicalHeight_le (by omega)
      have limit_le := conjunctionLimit_le budget
      rw [Operand.expr, conjunctionLimit_succ]
      omega

end

def name : Operand :=
  .leaf (.path ['a'])

def ands : Nat → Conjuncts
  | 0 => .none
  | count + 1 => .and (.alone name) (ands count)

def ors : Nat → Disjuncts
  | 0 => .none
  | count + 1 => .or (.chain (.alone name) .none) (ors count)

def chained (operand : Operand) (count : Nat) : Disjunction :=
  .chain (.chain (.alone operand) (ands count)) (ors count)

/-- The highest operand within a budget. Its group begins with the highest operand of the next
smaller budget, and the chains behind that one use the same budget again. -/
def highest : Nat → Operand
  | 0 => name
  | 1 => .not name
  | budget + 2 => .group (chained (highest (budget + 1)) (budget + 1))

theorem height_ands (count : Nat) : (ands count).height = count := by
  induction count with
  | zero => rfl
  | succ count ih => simp [ands, Conjuncts.height, Relation.height, name, Operand.height, ih]

theorem height_ors (count : Nat) : (ors count).height = count := by
  induction count with
  | zero => rfl
  | succ count ih =>
      simp [ors, Disjuncts.height, Conjunction.height, Conjuncts.height, Relation.height, name,
        Operand.height, ih]

theorem logicalHeight_ands (count : Nat) (left : Expr) :
    ((ands count).expr left).logicalHeight = left.logicalHeight + count := by
  induction count generalizing left with
  | zero => rfl
  | succ count ih =>
      rw [ands, Conjuncts.expr, ih]
      simp [Relation.expr, name, Operand.expr, Leaf.expr, Expr.logicalHeight]
      omega

theorem logicalHeight_ors (count : Nat) (left : Expr) :
    ((ors count).expr left).logicalHeight = left.logicalHeight + count := by
  induction count generalizing left with
  | zero => rfl
  | succ count ih =>
      rw [ors, Disjuncts.expr, ih]
      simp [Conjunction.expr, Conjuncts.expr, Relation.expr, name, Operand.expr, Leaf.expr,
        Expr.logicalHeight]
      omega

theorem height_chained {operand : Operand} {budget : Nat} (fits : operand.height ≤ budget) :
    (chained operand budget).height ≤ budget := by
  simp only [chained, Disjunction.height, Conjunction.height, Relation.height, height_ands,
    height_ors]
  omega

theorem logicalHeight_chained (operand : Operand) (count : Nat) :
    (chained operand count).expr.logicalHeight = operand.expr.logicalHeight + 2 * count := by
  simp only [chained, Disjunction.expr, Conjunction.expr, Relation.expr, logicalHeight_ands,
    logicalHeight_ors]
  omega

theorem height_highest (budget : Nat) : (highest budget).height ≤ budget := by
  fun_induction highest budget with
  | case1 => simp [name, Operand.height]
  | case2 => simp [name, Operand.height]
  | case3 budget ih =>
      have fits := height_chained ih
      rw [Operand.height]
      omega

theorem logicalHeight_highest (budget : Nat) :
    (highest budget).expr.logicalHeight + budget = conjunctionLimit budget := by
  fun_induction highest budget with
  | case1 => rfl
  | case2 => rfl
  | case3 budget ih =>
      rw [conjunctionLimit_succ] at ih ⊢
      rw [Operand.expr, logicalHeight_chained]
      simp only [Nat.succ_mul, Nat.mul_succ]
      omega

end Grammar

open Grammar

def spelled : Token → List Char
  | .path value => value ++ [' ']
  | .not => "! ".toList
  | .and => "&& ".toList
  | .or => "|| ".toList
  | .leftParen => "( ".toList
  | .rightParen => ") ".toList
  | _ => []

def nestingTokens : List Token :=
  [.path ['a'], .not, .and, .or, .leftParen, .rightParen]

theorem lex_cons
    {signed : Bool} {c : Char} {text rest : List Char} {found : Token}
    (visible : Text.isBlank c = false) (read : Lexer.token signed c text = .ok (found, rest)) :
    Lexer.tokens signed (c :: text) =
      (Lexer.tokens (!found.endsOperand) rest).map fun following => found :: following := by
  rw [Lexer.tokens, visible]
  simp only [Bool.false_eq_true, if_false]
  split
  · next failed =>
      rw [read] at failed
      contradiction
  · next again =>
      rw [read] at again
      cases again
      rfl

theorem lex_blank (signed : Bool) (text : List Char) :
    Lexer.tokens signed (' ' :: text) = Lexer.tokens signed text := by
  rw [Lexer.tokens]
  rfl

theorem lex_spelled
    {token : Token} (nesting : token ∈ nestingTokens) (signed : Bool) (text : List Char) :
    Lexer.tokens signed (spelled token ++ text) =
      (Lexer.tokens (!token.endsOperand) text).map fun following => token :: following := by
  rw [← lex_blank (!token.endsOperand) text]
  simp only [nestingTokens, List.mem_cons, List.not_mem_nil, or_false] at nesting
  rcases nesting with rfl | rfl | rfl | rfl | rfl | rfl
  · exact lex_cons rfl rfl
  · exact lex_cons rfl rfl
  · exact lex_cons rfl rfl
  · exact lex_cons rfl rfl
  · exact lex_cons rfl rfl
  · exact lex_cons rfl rfl

theorem lex_all_spelled
    {tokens : List Token} (nesting : ∀ token ∈ tokens, token ∈ nestingTokens) (signed : Bool) :
    Lexer.tokens signed (tokens.flatMap spelled) = .ok tokens := by
  induction tokens generalizing signed with
  | nil => rw [List.flatMap_nil, Lexer.tokens]
  | cons token tokens ih =>
      rw [List.flatMap_cons, lex_spelled (nesting token (by simp)),
        ih fun other member => nesting other (by simp [member])]
      rfl

theorem tokens_ands (count : Nat) : ∀ token ∈ (ands count).tokens, token ∈ nestingTokens := by
  induction count with
  | zero => simp [ands, Conjuncts.tokens]
  | succ count ih =>
      intro token member
      simp only [ands, Conjuncts.tokens, Relation.tokens, name, Operand.tokens, Leaf.token,
        List.mem_cons, List.cons_append, List.nil_append] at member
      rcases member with rfl | rfl | member
      · simp [nestingTokens]
      · simp [nestingTokens]
      · exact ih token member

theorem tokens_ors (count : Nat) : ∀ token ∈ (ors count).tokens, token ∈ nestingTokens := by
  induction count with
  | zero => simp [ors, Disjuncts.tokens]
  | succ count ih =>
      intro token member
      simp only [ors, Disjuncts.tokens, Conjunction.tokens, Conjuncts.tokens, Relation.tokens, name,
        Operand.tokens, Leaf.token, List.mem_cons, List.cons_append, List.nil_append] at member
      rcases member with rfl | rfl | member
      · simp [nestingTokens]
      · simp [nestingTokens]
      · exact ih token member

theorem tokens_chained
    {operand : Operand} (nesting : ∀ token ∈ operand.tokens, token ∈ nestingTokens)
    (count : Nat) :
    ∀ token ∈ (chained operand count).tokens, token ∈ nestingTokens := by
  simp only [chained, Disjunction.tokens, Conjunction.tokens, Relation.tokens,
    List.forall_mem_append]
  exact ⟨⟨nesting, tokens_ands count⟩, tokens_ors count⟩

theorem tokens_highest (budget : Nat) :
    ∀ token ∈ (highest budget).tokens, token ∈ nestingTokens := by
  fun_induction highest budget with
  | case1 => simp [name, Operand.tokens, Leaf.token, nestingTokens]
  | case2 => simp [name, Operand.tokens, Leaf.token, nestingTokens]
  | case3 budget ih =>
      rw [Operand.tokens, List.forall_mem_cons, List.forall_mem_append]
      exact ⟨by simp [nestingTokens], tokens_chained ih _, by simp [nestingTokens]⟩

theorem parse_of_tree {source : List Char} {tree : Disjunction}
    (read : tokenize source = .ok tree.tokens) (fits : tree.height ≤ maxDepth) :
    Condition.parse source = .ok ⟨source, tree.expr⟩ := by
  rw [Condition.parse, read]
  simp only [Parser.parse_complete tree fits]
  rfl

/-- A tree of one name within the limit, spelled and read back. -/
theorem parse_spelled
    {tree : Disjunction} (fits : tree.height ≤ maxDepth)
    (nesting : ∀ token ∈ tree.tokens, token ∈ nestingTokens) :
    Condition.parse (tree.tokens.flatMap spelled) =
      .ok ⟨tree.tokens.flatMap spelled, tree.expr⟩ := by
  have lexed : tokenize (tree.tokens.flatMap spelled) = .ok tree.tokens := by
    rw [tokenize, lex_all_spelled nesting]
    rfl
  exact parse_of_tree lexed fits

/-- The expression of a condition is at most about the square of the limit high, not the limit. -/
theorem logicalHeight_parse_le
    {source : List Char} {condition : Condition}
    (parsed : Condition.parse source = .ok condition) :
    condition.expr.logicalHeight ≤ maxDepth * maxDepth + maxDepth + 1 := by
  unfold Condition.parse at parsed
  split at parsed
  · contradiction
  · next tokens _ =>
      match read : Parser.parse tokens, parsed with
      | .ok expr, parsed =>
          cases parsed
          obtain ⟨tree, fits, rfl, _⟩ := Parser.parse_sound read
          have height_le := tree.logicalHeight_le fits
          have limit_le := conjunctionLimit_le maxDepth
          simp only
          omega

/-- Some condition is as high as that. -/
theorem logicalHeight_parse_attained :
    ∃ (source : List Char) (condition : Condition), Condition.parse source = .ok condition ∧
      condition.expr.logicalHeight = maxDepth * maxDepth + maxDepth + 1 := by
  have parsed := parse_spelled (height_chained (height_highest maxDepth))
    (tokens_chained (tokens_highest maxDepth) maxDepth)
  refine ⟨_, _, parsed, Nat.le_antisymm (logicalHeight_parse_le parsed) ?_⟩
  -- the operand alone is not enough: the two chains behind it add the budget twice
  have operand_eq := logicalHeight_highest maxDepth
  have limit_eq : conjunctionLimit maxDepth = maxDepth * maxDepth + 1 := rfl
  rw [logicalHeight_chained]
  omega

/-- As many negations as the limit allows, with an operator behind them. -/
theorem logicalHeight_parse_not_always_le :
    ¬∀ (source : List Char) (condition : Condition), Condition.parse source = .ok condition →
      condition.expr.logicalHeight ≤ maxDepth := by
  intro always
  have height : (Condition.parse (List.replicate 128 '!' ++ "a || a".toList)).toOption.map
      (fun condition => condition.expr.logicalHeight) = some 129 := by
    decide +kernel
  match parsed : Condition.parse (List.replicate 128 '!' ++ "a || a".toList), height with
  | .ok condition, height =>
      have height_le := always _ condition parsed
      have height_eq : condition.expr.logicalHeight = 129 := Option.some.inj height
      simp only [maxDepth] at height_le
      omega

end Condition
end MarkupTemplate
