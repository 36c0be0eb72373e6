import Arith.Proofs.Conservation
import Arith.Proofs.Phrase

/-!
# A group reads as an operand

A balanced list in parentheses is atomic, and so is an operand, so a context cannot tell the
two apart: what it puts out before and behind them is the same, and so is whether it fails.

The expression is then built from an order in which an operand has become the postfix order
of an expression. That order puts one expression on the stack as the operand did, so the
stacks of the two readings have the same height throughout, and the same errors arise.

## Main definitions

* `Arith.Operand.replaceBy`: the replacement of one operand by an expression.
* `Arith.Token.expand`: the operands of a list replaced by lists of tokens.

## Main results

* `Arith.Expr.ofPostfix_expand`: expressions may be put at the leaves before or after an
  order is read.
* `Arith.Postfix.group_eq_operand`: a group reads as the operand in its place would, with
  the expression of the group put there.
-/

namespace Arith

/-- The expression at the leaf `a` once the operand `x` is replaced by `e`. -/
def Operand.replaceBy (x : Operand) (e : Expr) (a : Operand) : Expr :=
  if a = x then e else .leaf a

theorem Operand.replaceBy_self (x : Operand) (e : Expr) : x.replaceBy e x = e :=
  if_pos rfl

theorem Operand.replaceBy_of_ne {x a : Operand} (other : a ≠ x) (e : Expr) :
    x.replaceBy e a = .leaf a :=
  if_neg other

namespace Token

/-- The tokens with every operand replaced by the list that `f` gives for it. -/
def expand (f : Operand → List Token) : List Token → List Token
  | [] => []
  | .operand a :: tokens => f a ++ expand f tokens
  | t :: tokens => t :: expand f tokens

variable {f g : Operand → List Token} {tokens tokens' : List Token} {x : Operand}

theorem expand_append (f : Operand → List Token) (tokens tokens' : List Token) :
    expand f (tokens ++ tokens') = expand f tokens ++ expand f tokens' := by
  induction tokens with
  | nil => rfl
  | cons t tokens ih => cases t <;> simp [expand, ih]

/-- The tokens are replaced one by one. -/
theorem expand_eq_flatMap (f : Operand → List Token) (tokens : List Token) :
    expand f tokens = tokens.flatMap fun t => expand f [t] := by
  induction tokens with
  | nil => rfl
  | cons t tokens ih => rw [List.flatMap_cons, ← ih, ← expand_append, List.singleton_append]

/-- An operand is missing where the operands are those of a list without it. -/
theorem not_mem_of_operands_eq (own : operands tokens = operands tokens')
    (free : .operand x ∉ tokens') : .operand x ∉ tokens := by
  rw [← mem_operands_iff, own, mem_operands_iff]
  exact free

/-- Operands that are replaced by themselves stay. -/
theorem expand_eq_self (same : ∀ a ∈ operands tokens, f a = [.operand a]) :
    expand f tokens = tokens := by
  induction tokens with
  | nil => rfl
  | cons t tokens ih =>
    cases t with
    | operand a =>
      obtain ⟨here, later⟩ := List.forall_mem_cons.mp same
      rw [expand, here, ih later]
      rfl
    | operator o => rw [expand, ih same]; simp
    | lparen => rw [expand, ih same]; simp
    | rparen => rw [expand, ih same]; simp

/-- Replacing an operand that is missing changes nothing. -/
theorem expand_of_not_mem (order : List Token) (free : .operand x ∉ tokens) :
    expand (fun a => if a = x then order else [.operand a]) tokens = tokens := by
  apply expand_eq_self
  intro a mem
  apply if_neg
  intro same
  subst same
  exact free (mem_operands_iff.mp mem)

end Token

namespace Expr

open Token (expand expand_eq_flatMap)

variable {g : Operand → Expr} {tokens : List Token}

/-! ### Expressions at the leaves of an order -/

/-- Putting expressions at the leaves goes along with putting their postfix orders in place of
the operands: each of these is read as the one expression it was written for. -/
theorem translates_expand (parenless : ∀ a, (g a).Parenless) :
    Translates (·.bind g) fun t => expand (fun a => (g a).toPostfix) [t] where
  operand a stack tokens := by
    rw [expand, expand, List.append_nil, reduce_toPostfix_append,
      erase_eq_self_iff.mpr (parenless a)]
    rfl
  operator o := ⟨o, rfl, fun _ _ => rfl⟩
  lparen := rfl
  rparen := rfl

/-- Expressions may be put at the leaves before or after an order is read. -/
theorem ofPostfix_expand (leftovers : Leftovers) (parenless : ∀ a, (g a).Parenless) :
    ofPostfix leftovers (expand (fun a => (g a).toPostfix) tokens) =
      (ofPostfix leftovers tokens).map (·.bind g) := by
  rw [expand_eq_flatMap]
  exact (translates_expand parenless).ofPostfix_flatMap leftovers tokens

end Expr

namespace Postfix

open Token (Balanced expand expand_append expand_of_not_mem)

variable {u v s : List Token} {x : Operand}

/-- In a context without the operand `x`, a balanced list in parentheses is put into
postfix order as `x` would be in its place, with the order of the list where `x` would
stand. -/
theorem toPostfix_group (balanced : Balanced s) (left_free : .operand x ∉ u)
    (right_free : .operand x ∉ v) :
    ∃ order, toPostfix s = .ok order ∧
      toPostfix (u ++ [.lparen] ++ s ++ [.rparen] ++ v) =
        (toPostfix (u ++ [.operand x] ++ v)).map
          (expand fun a => if a = x then order else [.operand a]) ∧
      ∀ result, toPostfix (u ++ [.operand x] ++ v) = .ok result →
        result.count (.operand x) = 1 := by
  obtain ⟨order, ordered, atomic⟩ := atomic_group balanced
  obtain ⟨context, plugged, own⟩ := exists_context u v
  have with_operand := plugged _ _ (atomic_operand x)
  have with_group := plugged _ _ atomic
  rw [← List.append_assoc, ← List.append_assoc] at with_group
  refine ⟨order, ordered, ?_, ?_⟩
  · rw [with_group, with_operand]
    match context with
    | .error cause => rfl
    | .ok (before, after) =>
      -- What the context itself puts out has only its own operands, and `x` is none of them.
      obtain ⟨own_before, own_after⟩ := own before after rfl
      simp only [Except.map, expand_append,
        expand_of_not_mem order (Token.not_mem_of_operands_eq own_before left_free),
        expand_of_not_mem order (Token.not_mem_of_operands_eq own_after right_free)]
      simp [expand]
  · intro result same
    rw [with_operand] at same
    match context with
    | .ok (before, after) =>
      obtain ⟨own_before, own_after⟩ := own before after rfl
      cases same
      rw [List.count_append, List.count_append,
        List.count_eq_zero.mpr (Token.not_mem_of_operands_eq own_before left_free),
        List.count_eq_zero.mpr (Token.not_mem_of_operands_eq own_after right_free)]
      simp

/-- A group reads as an operand. In a context without the operand `x`, a balanced list in
parentheses is put into postfix order as `x` would be, with the order of the list in the
place of the only `x`; and if the list stands for an expression, the whole is parsed as
with `x`, with that expression at the leaf `x`, or refused for the very same cause. -/
theorem group_eq_operand (balanced : Balanced s) (left_free : .operand x ∉ u)
    (right_free : .operand x ∉ v) :
    (∃ order, toPostfix s = .ok order ∧
      toPostfix (u ++ [.lparen] ++ s ++ [.rparen] ++ v) =
        (toPostfix (u ++ [.operand x] ++ v)).map
          (expand fun a => if a = x then order else [.operand a]) ∧
      ∀ result, toPostfix (u ++ [.operand x] ++ v) = .ok result →
        result.count (.operand x) = 1) ∧
    ∀ tree : Expr, ofInfix .strict s = .ok tree → ∀ config : Config,
      ofInfix config (u ++ [.lparen] ++ s ++ [.rparen] ++ v) =
        (ofInfix config (u ++ [.operand x] ++ v)).map (·.bind (x.replaceBy tree)) := by
  refine ⟨toPostfix_group balanced left_free right_free, ?_⟩
  intro tree parsed config
  obtain ⟨order, ordered, grouped, -⟩ := toPostfix_group balanced left_free right_free
  obtain ⟨ordered', parenless⟩ := toPostfix_of_ofInfix_strict parsed
  obtain rfl : order = tree.toPostfix := Except.ok.inj (ordered.symm.trans ordered')
  have leaves_parenless (a : Operand) : (x.replaceBy tree a).Parenless := by
    by_cases same : a = x
    · rw [same, Operand.replaceBy_self]
      exact parenless
    · rw [Operand.replaceBy_of_ne same]
      trivial
  -- The tokens put in for an operand are the order of the expression put in for it.
  have same_tokens : (fun a => if a = x then tree.toPostfix else [.operand a]) =
      fun a => (x.replaceBy tree a).toPostfix := by
    funext a
    by_cases same : a = x
    · rw [if_pos same, same, Operand.replaceBy_self]
    · rw [if_neg same, Operand.replaceBy_of_ne same, Expr.toPostfix_leaf]
  rw [ofInfix, ofInfix, grouped, same_tokens]
  cases toPostfix (u ++ [.operand x] ++ v) with
  | error cause => rfl
  | ok result => exact Expr.ofPostfix_expand config.leftovers leaves_parenless

/-- In `da-(c/2)*b` a group stands where `x` stands in `da-x*b`. The leading `d` is left
over either way, so a strict reading refuses both for the same cause. -/
theorem group_eq_operand_leftover :
    Balanced [.operand (.var 'c'), .operator .divide, .operand (.lit '2')] ∧
    ofInfix .lenient [.operand (.var 'd'), .operand (.var 'a'), .operator .subtract, .lparen,
        .operand (.var 'c'), .operator .divide, .operand (.lit '2'), .rparen,
        .operator .multiply, .operand (.var 'b')] =
      .ok (.binary .subtract (.leaf (.var 'a'))
        (.binary .multiply (.binary .divide (.leaf (.var 'c')) (.leaf (.lit '2')))
          (.leaf (.var 'b')))) ∧
    ofInfix .strict [.operand (.var 'd'), .operand (.var 'a'), .operator .subtract, .lparen,
        .operand (.var 'c'), .operator .divide, .operand (.lit '2'), .rparen,
        .operator .multiply, .operand (.var 'b')] =
      .error (.incompleteExpression 1 2) := by
  have balanced : Balanced [.operand (.var 'c'), .operator .divide, .operand (.lit '2')] := by
    decide
  obtain ⟨-, parsed⟩ := group_eq_operand (x := .var 'x') balanced
    (u := [.operand (.var 'd'), .operand (.var 'a'), .operator .subtract]) (by decide)
    (v := [.operator .multiply, .operand (.var 'b')]) (by decide)
  exact ⟨balanced, (parsed _ rfl .lenient).trans rfl, (parsed _ rfl .strict).trans rfl⟩

end Postfix

end Arith
