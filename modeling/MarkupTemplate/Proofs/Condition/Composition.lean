import MarkupTemplate.Proofs.Condition.LexingBorder

/-!
Conditions put together from others. The tokens of a source keep their places between parentheses,
so the tree of a source becomes a group in the tree of the whole. The whole is a condition with the
outcome that its parts determine, or it is rejected because an operand of a part has come to lie too
deep.
-/

namespace MarkupTemplate
namespace Condition
namespace Parser

open Grammar

mutual

/-- A tree with an operand that lies deeper than the budget is rejected, wherever the tokens behind
it cannot go on with it. -/
theorem disjunction_tooDeep
    (tree : Disjunction) {budget : Nat} {rest : List Token}
    (deep : budget < tree.height) (stops : disjunctionGoesOn rest = false) :
    disjunction budget (tree.tokens ++ rest) = .error .tooDeep := by
  match tree with
  | .chain first more =>
      rw [Disjunction.height] at deep
      rw [Disjunction.tokens, List.append_assoc, disjunction]
      by_cases fits : first.height ≤ budget
      · rw [conjunction_complete first fits (more.conjunction_stops stops)]
        exact moreDisjuncts_tooDeep more (by omega) stops
      · rw [conjunction_tooDeep first (by omega) (more.conjunction_stops stops)]

theorem moreDisjuncts_tooDeep
    (more : Disjuncts) {budget : Nat} {left : Expr} {rest : List Token}
    (deep : budget < more.height) (stops : disjunctionGoesOn rest = false) :
    moreDisjuncts budget left (more.tokens ++ rest) = .error .tooDeep := by
  match more, budget with
  | .none, _ => simp [Disjuncts.height] at deep
  | .or _ _, 0 => rw [Disjuncts.tokens, List.cons_append, moreDisjuncts]
  | .or next more, budget + 1 =>
      rw [Disjuncts.height] at deep
      rw [Disjuncts.tokens, List.cons_append, List.append_assoc, moreDisjuncts]
      by_cases fits : next.height ≤ budget
      · rw [conjunction_complete next fits (more.conjunction_stops stops)]
        exact moreDisjuncts_tooDeep more (by omega) stops
      · rw [conjunction_tooDeep next (by omega) (more.conjunction_stops stops)]

theorem conjunction_tooDeep
    (tree : Conjunction) {budget : Nat} {rest : List Token}
    (deep : budget < tree.height) (stops : conjunctionGoesOn rest = false) :
    conjunction budget (tree.tokens ++ rest) = .error .tooDeep := by
  match tree with
  | .chain first more =>
      rw [Conjunction.height] at deep
      rw [Conjunction.tokens, List.append_assoc, conjunction]
      by_cases fits : first.height ≤ budget
      · rw [comparison_complete first fits (more.relation_stops stops)]
        exact moreConjuncts_tooDeep more (by omega) stops
      · rw [comparison_tooDeep first (by omega)]

theorem moreConjuncts_tooDeep
    (more : Conjuncts) {budget : Nat} {left : Expr} {rest : List Token}
    (deep : budget < more.height) (stops : conjunctionGoesOn rest = false) :
    moreConjuncts budget left (more.tokens ++ rest) = .error .tooDeep := by
  match more, budget with
  | .none, _ => simp [Conjuncts.height] at deep
  | .and _ _, 0 => rw [Conjuncts.tokens, List.cons_append, moreConjuncts]
  | .and next more, budget + 1 =>
      rw [Conjuncts.height] at deep
      rw [Conjuncts.tokens, List.cons_append, List.append_assoc, moreConjuncts]
      by_cases fits : next.height ≤ budget
      · rw [comparison_complete next fits (more.relation_stops stops)]
        exact moreConjuncts_tooDeep more (by omega) stops
      · rw [comparison_tooDeep next (by omega)]

theorem comparison_tooDeep
    (tree : Relation) {budget : Nat} {rest : List Token} (deep : budget < tree.height) :
    comparison budget (tree.tokens ++ rest) = .error .tooDeep := by
  match tree with
  | .alone operand =>
      rw [Relation.height] at deep
      rw [Relation.tokens, comparison, operand_tooDeep operand deep]
  | .compare left comparison right =>
      rw [Relation.height] at deep
      rw [Relation.tokens, List.append_assoc, List.cons_append, Parser.comparison]
      by_cases fits : left.height ≤ budget
      · rw [operand_complete left fits]
        simp only [operand_tooDeep right (show budget < right.height by omega)]
      · rw [operand_tooDeep left (by omega)]

theorem operand_tooDeep
    (tree : Operand) {budget : Nat} {rest : List Token} (deep : budget < tree.height) :
    operand budget (tree.tokens ++ rest) = .error .tooDeep := by
  match tree, budget with
  | .leaf _, _ => simp [Operand.height] at deep
  | .not _, 0 => rw [Operand.tokens, List.cons_append, operand]
  | .not inner, budget + 1 =>
      rw [Operand.height] at deep
      rw [Operand.tokens, List.cons_append, operand, operand_tooDeep inner (by omega)]
  | .group _, 0 => rw [Operand.tokens, List.cons_append, operand]
  | .group inner, budget + 1 =>
      rw [Operand.height] at deep
      rw [Operand.tokens, List.cons_append, List.append_assoc, operand,
        disjunction_tooDeep inner (by omega) rfl]

end

theorem parse_tooDeep (tree : Disjunction) (deep : maxDepth < tree.height) :
    parse tree.tokens = .error .tooDeep := by
  have rejected : disjunction maxDepth (tree.tokens ++ []) = .error .tooDeep :=
    disjunction_tooDeep tree deep rfl
  rw [List.append_nil] at rejected
  unfold parse
  rw [if_neg (by simpa using tree.tokens_ne_nil), rejected]

end Parser

open Grammar

section Outcomes

variable (scope : Scope)

theorem holds_not (operand : Expr) :
    (Expr.not operand).holds scope = (do return !(← operand.holds scope)) := by
  unfold Expr.holds
  rw [Expr.value]
  cases operand.value scope <;> rfl

theorem holds_and (left right : Expr) :
    (Expr.and left right).holds scope =
      (do if ← left.holds scope then right.holds scope else return false) := by
  unfold Expr.holds
  rw [Expr.value]
  cases left.value scope with
  | error error => rfl
  | ok value =>
      change Except.map Json.isTruthy (if value.isTruthy then right.value scope else .ok value) =
        if value.isTruthy then (right.value scope).map Json.isTruthy else .ok false
      cases truthy : value.isTruthy with
      | true => rfl
      | false => exact congrArg Except.ok truthy

theorem holds_or (left right : Expr) :
    (Expr.or left right).holds scope =
      (do if ← left.holds scope then return true else right.holds scope) := by
  unfold Expr.holds
  rw [Expr.value]
  cases left.value scope with
  | error error => rfl
  | ok value =>
      change Except.map Json.isTruthy (if value.isTruthy then .ok value else right.value scope) =
        if value.isTruthy then .ok true else (right.value scope).map Json.isTruthy
      cases truthy : value.isTruthy with
      | true => exact congrArg Except.ok truthy
      | false => rfl

end Outcomes

def negatedTree (tree : Disjunction) : Disjunction :=
  .chain (.chain (.alone (.not (.group tree))) .none) .none

def conjoinedTree (left right : Disjunction) : Disjunction :=
  .chain (.chain (.alone (.group left)) (.and (.alone (.group right)) .none)) .none

def disjoinedTree (left right : Disjunction) : Disjunction :=
  .chain (.chain (.alone (.group left)) .none) (.or (.chain (.alone (.group right)) .none) .none)

theorem negatedTree_tokens (tree : Disjunction) :
    (negatedTree tree).tokens = .not :: .leftParen :: (tree.tokens ++ [.rightParen]) := by
  simp [negatedTree, Disjunction.tokens, Disjuncts.tokens, Conjunction.tokens, Conjuncts.tokens,
    Relation.tokens, Operand.tokens]

theorem conjoinedTree_tokens (left right : Disjunction) :
    (conjoinedTree left right).tokens =
      .leftParen :: (left.tokens ++ .rightParen :: .and ::
        .leftParen :: (right.tokens ++ [.rightParen])) := by
  simp [conjoinedTree, Disjunction.tokens, Disjuncts.tokens, Conjunction.tokens, Conjuncts.tokens,
    Relation.tokens, Operand.tokens]

theorem disjoinedTree_tokens (left right : Disjunction) :
    (disjoinedTree left right).tokens =
      .leftParen :: (left.tokens ++ .rightParen :: .or ::
        .leftParen :: (right.tokens ++ [.rightParen])) := by
  simp [disjoinedTree, Disjunction.tokens, Disjuncts.tokens, Conjunction.tokens, Conjuncts.tokens,
    Relation.tokens, Operand.tokens]

theorem negatedTree_height (tree : Disjunction) :
    (negatedTree tree).height = tree.height + 2 := by
  simp [negatedTree, Disjunction.height, Disjuncts.height, Conjunction.height, Conjuncts.height,
    Relation.height, Operand.height]

theorem conjoinedTree_height (left right : Disjunction) :
    (conjoinedTree left right).height = max (left.height + 1) (right.height + 2) := by
  simp [conjoinedTree, Disjunction.height, Disjuncts.height, Conjunction.height, Conjuncts.height,
    Relation.height, Operand.height]

theorem disjoinedTree_height (left right : Disjunction) :
    (disjoinedTree left right).height = max (left.height + 1) (right.height + 2) := by
  simp [disjoinedTree, Disjunction.height, Disjuncts.height, Conjunction.height, Conjuncts.height,
    Relation.height, Operand.height]

theorem tokens_of_tokenize {source : List Char} {tokens : List Token} :
    tokenize source = .ok tokens ↔ Lexer.tokens true source = .ok tokens := by
  unfold tokenize
  cases Lexer.tokens true source with
  | error fault => exact iff_of_false (fun read => by contradiction) (fun read => by contradiction)
  | ok found =>
      constructor
      · rintro ⟨⟩
        rfl
      · rintro ⟨⟩
        rfl

/-- A source between parentheses is read as a group, in front of any rest. -/
theorem lex_group {source : List Char} {tokens : List Token}
    (read : Lexer.tokens true source = .ok tokens) (signed : Bool) (rest : List Char) :
    Lexer.tokens signed ('(' :: (source ++ ')' :: rest)) =
      (Lexer.tokens false rest).map fun following =>
        .leftParen :: (tokens ++ .rightParen :: following) := by
  have opened : Lexer.token signed '(' (source ++ ')' :: rest) =
      .ok (.leftParen, source ++ ')' :: rest) := rfl
  have inside := @Lexer.tokens_border rest _ _ _ read
  rw [lex_cons rfl opened]
  change Except.map _ (Lexer.tokens true (source ++ ')' :: rest)) = _
  rw [inside]
  cases Lexer.tokens false rest <;> rfl

def negatedGroup (source : List Char) : List Char :=
  "!(".toList ++ source ++ ")".toList

def joinedGroups (operator left right : List Char) : List Char :=
  "(".toList ++ left ++ ") ".toList ++ operator ++ " (".toList ++ right ++ ")".toList

theorem lex_negatedGroup {source : List Char} {tree : Disjunction}
    (read : Lexer.tokens true source = .ok tree.tokens) :
    Lexer.tokens true (negatedGroup source) = .ok (negatedTree tree).tokens := by
  have group := lex_group read true []
  rw [Lexer.tokens] at group
  have spelled : negatedGroup source = '!' :: '(' :: (source ++ [')']) := by simp [negatedGroup]
  have sign : Lexer.token true '!' ('(' :: (source ++ [')'])) =
      .ok (.not, '(' :: (source ++ [')'])) := rfl
  rw [spelled, lex_cons rfl sign]
  change Except.map _ (Lexer.tokens true ('(' :: (source ++ [')']))) = _
  rw [group, negatedTree_tokens]
  rfl

theorem lex_joinedGroups {left right : List Char} {leftTokens rightTokens : List Token}
    (left_read : Lexer.tokens true left = .ok leftTokens)
    (right_read : Lexer.tokens true right = .ok rightTokens)
    {operator : List Char} {symbol : Token}
    (operator_read : ∀ text, Lexer.tokens false (operator ++ text) =
      (Lexer.tokens true text).map fun following => symbol :: following) :
    Lexer.tokens true (joinedGroups operator left right) =
      .ok (.leftParen :: (leftTokens ++ .rightParen :: symbol ::
        .leftParen :: (rightTokens ++ [.rightParen]))) := by
  have last := lex_group right_read true []
  rw [Lexer.tokens] at last
  have spelled : joinedGroups operator left right =
      '(' :: (left ++ ')' :: (' ' :: (operator ++ ' ' :: '(' :: (right ++ [')'])))) := by
    simp [joinedGroups]
  rw [spelled, lex_group left_read, lex_blank, operator_read, lex_blank, last]
  rfl

theorem lex_and (text : List Char) :
    Lexer.tokens false ("&&".toList ++ text) =
      (Lexer.tokens true text).map fun following => .and :: following :=
  lex_cons rfl rfl

theorem lex_or (text : List Char) :
    Lexer.tokens false ("||".toList ++ text) =
      (Lexer.tokens true text).map fun following => .or :: following :=
  lex_cons rfl rfl

/-- Some operand of a source, placed `levels` further down, lies deeper than the limit. -/
def TooDeepUnder (levels : Nat) (source : List Char) : Prop :=
  ∃ tree : Disjunction, tokenize source = .ok tree.tokens ∧
    ∃ depth ∈ tree.depths levels, maxDepth < depth

/-- Whether a source is rejected as too deep, in the one case, or in the other is a condition of the
given outcomes. -/
def ReadsAs (tooDeep : Prop) (source : List Char) (outcome : Scope → Except Error Bool) : Prop :=
  (tooDeep ∧ parse source = .error .tooDeep) ∨
    (¬tooDeep ∧ ∃ condition, parse source = .ok condition ∧
      ∀ scope, condition.evaluate scope = outcome scope)

theorem tooDeepUnder_iff {source : List Char} {tree : Disjunction}
    (read : Lexer.tokens true source = .ok tree.tokens) (levels : Nat) :
    TooDeepUnder levels source ↔ maxDepth < levels + tree.height := by
  constructor
  · rintro ⟨other, other_read, depth, member, deep⟩
    rw [tokens_of_tokenize, read] at other_read
    obtain rfl := tree_eq_of_tokens_eq (Except.ok.inj other_read)
    apply Nat.lt_of_not_le
    intro fits
    have depth_le := (tree.depths_le_iff levels maxDepth).2 fits depth member
    omega
  · intro deep
    have unbounded : ¬∀ depth ∈ tree.depths levels, depth ≤ maxDepth := by
      rw [tree.depths_le_iff]
      omega
    obtain ⟨depth, deep_here⟩ := Classical.not_forall.1 unbounded
    obtain ⟨member, deep_here⟩ := Classical.not_imp.1 deep_here
    exact ⟨tree, tokens_of_tokenize.2 read, depth, member, Nat.lt_of_not_le deep_here⟩

theorem readsAs_of_tree {source : List Char} {tree : Disjunction} {tooDeep : Prop}
    {outcome : Scope → Except Error Bool}
    (read : Lexer.tokens true source = .ok tree.tokens) (deep : tooDeep ↔ maxDepth < tree.height)
    (outcomes : ∀ scope, tree.expr.holds scope = outcome scope) :
    ReadsAs tooDeep source outcome := by
  have lexed := tokens_of_tokenize.2 read
  by_cases fits : tree.height ≤ maxDepth
  · right
    exact ⟨by rw [deep]; omega, ⟨source, tree.expr⟩, parse_of_tree lexed fits, outcomes⟩
  · left
    refine ⟨by rw [deep]; omega, ?_⟩
    rw [parse, lexed]
    simp only [Parser.parse_tooDeep tree (by omega)]
    rfl

theorem tree_of_parse {source : List Char} {condition : Condition}
    (parsed : parse source = .ok condition) :
    ∃ tree : Disjunction, Lexer.tokens true source = .ok tree.tokens ∧
      tree.expr = condition.expr := by
  unfold parse at parsed
  split at parsed
  · contradiction
  · next tokens lexed =>
      match read : Parser.parse tokens, parsed with
      | .ok expr, parsed =>
          cases parsed
          obtain ⟨tree, _, expr_eq, rfl⟩ := Parser.parse_sound read
          exact ⟨tree, tokens_of_tokenize.1 lexed, expr_eq⟩

/-- A condition negated in parentheses, or two joined in parentheses, make a condition again, unless
an operand of a part comes to lie too deep: the negation, the parenthesis and the operator before it
put it one level down each. The outcome is determined by those of the parts, and the right part is
looked at only where the left one does not decide. -/
theorem composed_readsAs {left right : List Char} {leftCondition rightCondition : Condition}
    (left_parsed : parse left = .ok leftCondition)
    (right_parsed : parse right = .ok rightCondition) :
    ReadsAs (TooDeepUnder 2 left) (negatedGroup left)
      (fun scope => do return !(← leftCondition.evaluate scope)) ∧
    ReadsAs (TooDeepUnder 1 left ∨ TooDeepUnder 2 right) (joinedGroups "&&".toList left right)
      (fun scope => do
        if ← leftCondition.evaluate scope then rightCondition.evaluate scope else return false) ∧
    ReadsAs (TooDeepUnder 1 left ∨ TooDeepUnder 2 right) (joinedGroups "||".toList left right)
      (fun scope => do
        if ← leftCondition.evaluate scope then return true
        else rightCondition.evaluate scope) := by
  obtain ⟨tree, left_read, left_expr⟩ := tree_of_parse left_parsed
  obtain ⟨other, right_read, right_expr⟩ := tree_of_parse right_parsed
  have either_deep : TooDeepUnder 1 left ∨ TooDeepUnder 2 right ↔
      maxDepth < max (tree.height + 1) (other.height + 2) := by
    rw [tooDeepUnder_iff left_read, tooDeepUnder_iff right_read]
    omega
  have and_read := lex_joinedGroups left_read right_read lex_and
  have or_read := lex_joinedGroups left_read right_read lex_or
  rw [← conjoinedTree_tokens] at and_read
  rw [← disjoinedTree_tokens] at or_read
  refine ⟨?_, ?_, ?_⟩
  · apply readsAs_of_tree (lex_negatedGroup left_read)
    · rw [tooDeepUnder_iff left_read, negatedTree_height]
      omega
    · intro scope
      rw [evaluate, ← left_expr]
      exact holds_not scope tree.expr
  · apply readsAs_of_tree and_read
    · rw [either_deep, conjoinedTree_height]
    · intro scope
      rw [evaluate, evaluate, ← left_expr, ← right_expr]
      exact holds_and scope tree.expr other.expr
  · apply readsAs_of_tree or_read
    · rw [either_deep, disjoinedTree_height]
    · intro scope
      rw [evaluate, evaluate, ← left_expr, ← right_expr]
      exact holds_or scope tree.expr other.expr

def emptyShelf : Scope :=
  .root (.object [("sold", .bool false), ("stock", .number (.int 0))])

theorem ok_of_toOption {α ε : Type} {result : Except ε α} {value : α}
    (found : result.toOption = some value) :
    result = .ok value := by
  cases result with
  | error error => contradiction
  | ok other => rw [Option.some.inj found]

theorem outcome_of_answer {source : List Char} {answer : Bool}
    (answered : (parse source).toOption.bind (fun condition =>
      (condition.evaluate emptyShelf).toOption) = some answer) :
    ∃ condition, parse source = .ok condition ∧ condition.evaluate emptyShelf = .ok answer := by
  obtain ⟨condition, parsed, evaluated⟩ := Option.bind_eq_some_iff.1 answered
  exact ⟨condition, ok_of_toOption parsed, ok_of_toOption evaluated⟩

theorem composed_readsAs_emptyShelf :
    ∃ condition, parse "(sold) || (stock > -1)".toList = .ok condition ∧
      condition.evaluate emptyShelf = .ok true := by
  obtain ⟨sold, sold_parsed, sold_false⟩ :=
    @outcome_of_answer "sold".toList false (by decide +kernel)
  obtain ⟨stocked, stocked_parsed, stocked_true⟩ :=
    @outcome_of_answer "stock > -1".toList true (by decide +kernel)
  have accepted : (parse "(sold) || (stock > -1)".toList).toOption.isSome = true := by
    decide +kernel
  obtain ⟨_, _, rejected | ⟨_, condition, parsed, outcome⟩⟩ :=
    composed_readsAs sold_parsed stocked_parsed
  · have rejected : parse "(sold) || (stock > -1)".toList = .error .tooDeep := rejected.2
    rw [rejected] at accepted
    contradiction
  · refine ⟨condition, parsed, ?_⟩
    rw [outcome]
    simp only [sold_false, stocked_true]
    rfl

end Condition
end MarkupTemplate
