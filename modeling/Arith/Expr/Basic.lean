import Arith.Token.Basic

/-!
# Expressions

An expression is a tree of operands and binary operators. A node for explicit
grouping can be built by hand; reading tokens never makes one, since parentheses are
used up while the operators are put in order.

## Main definitions

* `Arith.Expr`: leaves, binary nodes and grouped expressions.
* `Arith.Expr.size`: the number of nodes.
* `Arith.Expr.leaves` and `Arith.Expr.operators`: the operands from left to right, and
  the operators in the order of the nodes from the root.
* `Arith.Expr.Parenless` and `Arith.Expr.erase`: the trees without grouping nodes, and
  their removal.
* `Arith.Expr.map`: another operand at every leaf and another operator at every binary
  node.

## Main results

* `Arith.Expr.erase_eq_self_iff`: a tree is unchanged by the removal of grouping nodes
  exactly when it has none.
* `Arith.Expr.length_leaves`: a tree has one leaf more than operators.
-/

namespace Arith

/-- An expression over single characters and binary operators. -/
inductive Expr
  | leaf (a : Operand)
  | binary (o : Operator) (left right : Expr)
  | paren (inner : Expr)
  deriving DecidableEq, Repr

namespace Expr

/-- The number of nodes. -/
def size : Expr → Nat
  | leaf _ => 1
  | binary _ l r => l.size + r.size + 1
  | paren e => e.size + 1

/-- The operands at the leaves from left to right. -/
def leaves : Expr → List Operand
  | leaf a => [a]
  | binary _ l r => l.leaves ++ r.leaves
  | paren e => e.leaves

/-- The operators at the binary nodes, each before those below it. -/
def operators : Expr → List Operator
  | leaf _ => []
  | binary o l r => o :: (l.operators ++ r.operators)
  | paren e => e.operators

/-- There is no grouping node. -/
def Parenless : Expr → Prop
  | leaf _ => True
  | binary _ l r => l.Parenless ∧ r.Parenless
  | paren _ => False

/-- The expression with every grouping node replaced by what it groups. -/
def erase : Expr → Expr
  | leaf a => leaf a
  | binary o l r => binary o l.erase r.erase
  | paren e => e.erase

/-- The expression with `f` applied at every leaf and `g` at every binary node. -/
def map (f : Operand → Operand) (g : Operator → Operator) : Expr → Expr
  | leaf a => leaf (f a)
  | binary o l r => binary (g o) (l.map f g) (r.map f g)
  | paren e => paren (e.map f g)

/-- The expression with another expression at every leaf. -/
def bind (e : Expr) (f : Operand → Expr) : Expr :=
  match e with
  | leaf a => f a
  | binary o l r => binary o (l.bind f) (r.bind f)
  | paren e => paren (e.bind f)

theorem size_left_lt (o : Operator) (l r : Expr) : l.size < (binary o l r).size := by
  rw [size]
  omega

theorem size_right_lt (o : Operator) (l r : Expr) : r.size < (binary o l r).size := by
  rw [size]
  omega

theorem size_inner_lt (e : Expr) : e.size < (paren e).size :=
  Nat.lt_succ_self e.size

theorem leaves_ne_nil (e : Expr) : e.leaves ≠ [] := by
  induction e with
  | leaf a => simp [leaves]
  | binary o l r ihl _ => simp [leaves, ihl]
  | paren e ih => exact ih

@[simp] theorem parenless_erase (e : Expr) : e.erase.Parenless := by
  induction e with
  | leaf a => trivial
  | binary o l r ihl ihr => exact ⟨ihl, ihr⟩
  | paren e ih => exact ih

/-- A tree is unchanged by the removal of grouping nodes exactly when it has none. -/
theorem erase_eq_self_iff {e : Expr} : e.erase = e ↔ e.Parenless := by
  constructor
  · intro h
    rw [← h]
    exact parenless_erase e
  · intro h
    induction e with
    | leaf a => rfl
    | binary o l r ihl ihr => rw [erase, ihl h.1, ihr h.2]
    | paren e _ => exact h.elim

@[simp] theorem leaves_erase (e : Expr) : e.erase.leaves = e.leaves := by
  induction e with
  | leaf a => rfl
  | binary o l r ihl ihr => rw [erase, leaves, leaves, ihl, ihr]
  | paren e ih => exact ih

@[simp] theorem operators_erase (e : Expr) : e.erase.operators = e.operators := by
  induction e with
  | leaf a => rfl
  | binary o l r ihl ihr => rw [erase, operators, operators, ihl, ihr]
  | paren e ih => exact ih

/-- There is one leaf more than operators. -/
theorem length_leaves (e : Expr) : e.leaves.length = e.operators.length + 1 := by
  induction e with
  | leaf a => rfl
  | binary o l r ihl ihr =>
    simp only [leaves, operators, List.length_append, List.length_cons, ihl, ihr]
    omega
  | paren e ih => exact ih

end Expr

end Arith
