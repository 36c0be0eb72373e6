import Arith.Expr.Basic

/-!
# The grammar of infix expressions

A sum is a term, or a sum, an additive operator and a term; a term is a factor, or a
term, a multiplicative operator and a factor; a factor is an operand or a sum in
parentheses. Multiplication thus binds tighter than addition, operators of one
precedence group to the left, and parentheses group as they please.

A derivation comes with its tokens and with the tree it stands for, which has a binary
node for every operator, a leaf for every operand and no trace of the parentheses.

## Main definitions

* `Arith.Nonterminal`: sums, terms and factors.
* `Arith.Derives`: the derivations, with their tokens and trees.

## Main results

* `Arith.Derives.parenless`: the tree of a derivation has no grouping node.
* `Arith.Derives.leaves_eq`: its leaves are the operands of the phrase in their order.
-/

namespace Arith

/-- The kinds of phrases in the grammar. -/
inductive Nonterminal
  | sum
  | term
  | factor
  deriving DecidableEq, Repr

/-- The tokens are a phrase of the given kind, and the tree is what the phrase stands
for. -/
inductive Derives : Nonterminal → List Token → Expr → Prop
  | operand (a : Operand) : Derives .factor [.operand a] (.leaf a)
  | group {w : List Token} {t : Expr} (inner : Derives .sum w t) :
    Derives .factor (.lparen :: w ++ [.rparen]) t
  | ofFactor {w : List Token} {t : Expr} (factor : Derives .factor w t) : Derives .term w t
  | multiplicative {o : Operator} {u v : List Token} {l r : Expr} (tight : o.precedence = 1)
    (left : Derives .term u l) (right : Derives .factor v r) :
    Derives .term (u ++ .operator o :: v) (.binary o l r)
  | ofTerm {w : List Token} {t : Expr} (term : Derives .term w t) : Derives .sum w t
  | additive {o : Operator} {u v : List Token} {l r : Expr} (loose : o.precedence = 0)
    (left : Derives .sum u l) (right : Derives .term v r) :
    Derives .sum (u ++ .operator o :: v) (.binary o l r)

namespace Derives

variable {kind : Nonterminal} {w : List Token} {t : Expr}

/-- The tree of a derivation has no grouping node. -/
theorem parenless (h : Derives kind w t) : t.Parenless := by
  induction h with
  | operand a => trivial
  | group _ ih => exact ih
  | ofFactor _ ih => exact ih
  | multiplicative _ _ _ ihl ihr => exact ⟨ihl, ihr⟩
  | ofTerm _ ih => exact ih
  | additive _ _ _ ihl ihr => exact ⟨ihl, ihr⟩

/-- The leaves of the tree are the operands of the phrase in their order. -/
theorem leaves_eq (h : Derives kind w t) : t.leaves = Token.operands w := by
  induction h with
  | operand a => rfl
  | group _ ih => simp [ih]
  | ofFactor _ ih => exact ih
  | multiplicative _ _ _ ihl ihr => simp [Expr.leaves, ihl, ihr]
  | ofTerm _ ih => exact ih
  | additive _ _ _ ihl ihr => simp [Expr.leaves, ihl, ihr]

end Derives

end Arith
