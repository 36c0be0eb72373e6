import Arith.Expr.Basic

/-!
# Expressions in infix order

An expression without grouping nodes is written in infix order with as few parentheses as
the precedences allow: a left operand takes them if its operator binds looser than the one
above it, and a right operand if its operator binds no tighter. A grouping node is always
written with parentheses.

## Main definitions

* `Arith.Expr.NeedsLeft` and `Arith.Expr.NeedsRight`: which operands take parentheses.
* `Arith.Expr.toInfix`: the tokens of the expression in infix order.
-/

namespace Arith

namespace Expr

/-- A left operand below `o` takes parentheses if its operator binds looser than `o`. -/
def NeedsLeft (o : Operator) : Expr → Prop
  | binary o' _ _ => o'.precedence < o.precedence
  | _ => False

/-- A right operand below `o` takes parentheses if its operator binds no tighter than
`o`. -/
def NeedsRight (o : Operator) : Expr → Prop
  | binary o' _ _ => o'.precedence ≤ o.precedence
  | _ => False

instance (o : Operator) (e : Expr) : Decidable (e.NeedsLeft o) :=
  match e with
  | binary o' _ _ => inferInstanceAs (Decidable (o'.precedence < o.precedence))
  | leaf _ | paren _ => inferInstanceAs (Decidable False)

instance (o : Operator) (e : Expr) : Decidable (e.NeedsRight o) :=
  match e with
  | binary o' _ _ => inferInstanceAs (Decidable (o'.precedence ≤ o.precedence))
  | leaf _ | paren _ => inferInstanceAs (Decidable False)

/-- The tokens in parentheses. -/
def group (tokens : List Token) : List Token :=
  .lparen :: tokens ++ [.rparen]

/-- The tokens of the expression in infix order, with parentheses where the operands need
them and at grouping nodes. -/
def toInfix : Expr → List Token
  | leaf a => [.operand a]
  | binary o l r =>
    (if l.NeedsLeft o then group l.toInfix else l.toInfix) ++ .operator o ::
      (if r.NeedsRight o then group r.toInfix else r.toInfix)
  | paren e => group e.toInfix

end Expr

end Arith
