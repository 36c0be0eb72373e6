import Arith.Config
import Arith.Error
import Arith.Expr.Visitor

/-!
# Expressions and postfix order

An expression is written in postfix order by a visitor that puts each operator after
its operands, and is built from tokens in postfix order with a stack of operands: an
operator takes the two topmost expressions and leaves one.

## Main definitions

* `Arith.Expr.toPostfix`: the tokens of an expression in postfix order.
* `Arith.Expr.reduce`: the stack of operands that tokens in postfix order leave.
* `Arith.Expr.settle`: the result that a stack of operands stands for.
* `Arith.Expr.ofPostfix`: the expression that tokens in postfix order stand for.

## Main results

* `Arith.Expr.toPostfix_binary`: a binary node's tokens are those of its left operand,
  those of its right operand and its operator.
* `Arith.Expr.reduce_append`: the stack is built up from left to right.
* `Arith.Expr.ofPostfix_eq_ok_iff`: when tokens in postfix order stand for an expression.
-/

namespace Arith

/-- Collects the tokens in postfix order; a grouping node adds none of its own. -/
def Visitor.postorder : Visitor (Array Token) where
  lit c tokens := tokens.push (.operand (.lit c))
  var c tokens := tokens.push (.operand (.var c))
  binary o left right visit tokens := (walkBinary o left right visit tokens).push (.operator o)

namespace Expr

/-- The tokens of the expression in postfix order. -/
def toPostfix (e : Expr) : List Token :=
  (e.accept Visitor.postorder #[]).toList

/-- Reads tokens in postfix order onto a stack of operands, the topmost first. An operator
takes the two topmost ones, of which the upper is its right operand. -/
def reduce : List Expr → List Token → Except ParseError (List Expr)
  | stack, [] => .ok stack
  | stack, .operand a :: tokens => reduce (leaf a :: stack) tokens
  | right :: left :: stack, .operator o :: tokens => reduce (binary o left right :: stack) tokens
  | stack, .operator _ :: _ => .error (.incompleteExpression 2 stack.length)
  | _, .lparen :: _ => .error .parenthesisInPostfix
  | _, .rparen :: _ => .error .parenthesisInPostfix

/-- The expression that a stack of operands stands for: its only one, or the topmost one
if the others may be left over. -/
def settle (leftovers : Leftovers) : List Expr → Except ParseError Expr
  | [] => .error (.incompleteExpression 1 0)
  | [root] => .ok root
  | root :: rest =>
    match leftovers with
    | .reject => .error (.incompleteExpression 1 (rest.length + 1))
    | .keepTopmost => .ok root

/-- The expression that tokens in postfix order stand for. -/
def ofPostfix (leftovers : Leftovers) (tokens : List Token) : Except ParseError Expr :=
  if tokens.isEmpty then .error .emptyInput
  else
    match reduce [] tokens with
    | .error e => .error e
    | .ok stack => settle leftovers stack

/-! ### The visitor writes postfix order -/

theorem toList_accept_postorder (e : Expr) (tokens : Array Token) :
    (e.accept Visitor.postorder tokens).toList = tokens.toList ++ e.toPostfix := by
  unfold toPostfix
  induction e generalizing tokens with
  | leaf a =>
    cases a with
    | lit c => simp [accept_lit, Visitor.postorder]
    | var c => simp [accept_var, Visitor.postorder]
  | binary o l r ihl ihr =>
    -- The visitor pushes the operator behind what the two visits leave.
    have pushed (start : Array Token) :
        ((binary o l r).accept Visitor.postorder start).toList =
          ((r.accept Visitor.postorder (l.accept Visitor.postorder start)).push
            (.operator o)).toList := by
      rw [accept_binary]
      rfl
    simp only [pushed, Array.toList_push]
    rw [ihr, ihl, ihr (l.accept Visitor.postorder #[]), ← List.append_assoc, ← List.append_assoc]
  | paren e ih =>
    have same (start : Array Token) :
        (paren e).accept Visitor.postorder start = e.accept Visitor.postorder start := by
      rw [accept_paren]
      rfl
    rw [same, same]
    exact ih tokens

@[simp] theorem toPostfix_leaf (a : Operand) : (leaf a).toPostfix = [.operand a] := by
  cases a <;> simp [toPostfix, accept_lit, accept_var, Visitor.postorder]

/-- A binary node's tokens are those of its left operand, those of its right operand and
its operator. -/
@[simp] theorem toPostfix_binary (o : Operator) (l r : Expr) :
    (binary o l r).toPostfix = l.toPostfix ++ r.toPostfix ++ [.operator o] := by
  have pushed : ((binary o l r).accept Visitor.postorder #[]) =
      (r.accept Visitor.postorder (l.accept Visitor.postorder #[])).push (.operator o) := by
    rw [accept_binary]
    rfl
  rw [toPostfix, pushed, Array.toList_push, toList_accept_postorder]
  rfl

@[simp] theorem toPostfix_paren (e : Expr) : (paren e).toPostfix = e.toPostfix := by
  rw [toPostfix, accept_paren]
  rfl

/-- The operands stand in postfix order as they do at the leaves. -/
theorem operands_toPostfix (e : Expr) : Token.operands e.toPostfix = e.leaves := by
  induction e with
  | leaf a => simp [leaves]
  | binary o l r ihl ihr => simp [leaves, ihl, ihr]
  | paren e ih => rw [toPostfix_paren, ih, leaves]

/-- The operators in postfix order are those of the nodes, each behind those below it. -/
theorem operators_toPostfix (e : Expr) : (Token.operators e.toPostfix).Perm e.operators := by
  induction e with
  | leaf a => simp [operators]
  | binary o l r ihl ihr =>
    simp only [toPostfix_binary, Token.operators_append]
    exact List.perm_append_comm.trans ((ihl.append ihr).cons o)
  | paren e ih => rwa [toPostfix_paren, operators]

/-! ### The stack is built up from left to right -/

/-- The stack that two lists of tokens leave is what the second leaves on the stack of the
first. -/
theorem reduce_append (stack : List Expr) (tokens tokens' : List Token) :
    reduce stack (tokens ++ tokens') =
      match reduce stack tokens with
      | .error e => .error e
      | .ok rest => reduce rest tokens' := by
  fun_induction reduce stack tokens with
  | case1 => rfl
  | case2 stack a tokens ih => simpa [reduce] using ih
  | case3 right left stack o tokens ih => simpa [reduce] using ih
  | case4 stack o tokens short =>
    -- The operator fails on fewer than two operands, whatever comes behind it.
    rcases stack with _ | ⟨right, _ | ⟨left, below⟩⟩
    · rfl
    · rfl
    · exact (short right left below rfl).elim
  | case5 => rfl
  | case6 => rfl

/-- Tokens in postfix order stand for an expression exactly when they are not empty and
leave a stack that does. -/
theorem ofPostfix_eq_ok_iff {leftovers : Leftovers} {tokens : List Token} {e : Expr} :
    ofPostfix leftovers tokens = .ok e ↔
      tokens ≠ [] ∧ ∃ stack, reduce [] tokens = .ok stack ∧ settle leftovers stack = .ok e := by
  unfold ofPostfix
  cases tokens with
  | nil => simp
  | cons t tokens => cases reduce [] (t :: tokens) <;> simp

/-- Tokens that leave expressions on the stack are settled like the stack. -/
theorem ofPostfix_of_reduce {tokens : List Token} {e : Expr} {below : List Expr}
    (leftovers : Leftovers) (h : reduce [] tokens = .ok (e :: below)) :
    ofPostfix leftovers tokens = settle leftovers (e :: below) := by
  unfold ofPostfix
  cases tokens with
  | nil => cases h
  | cons t tokens => rw [if_neg (by simp), h]

/-- Tokens that cannot be read onto a stack are refused for that cause, whatever becomes of
leftovers. -/
theorem ofPostfix_of_reduce_error {tokens : List Token} {cause : ParseError}
    (leftovers : Leftovers) (h : reduce [] tokens = .error cause) :
    ofPostfix leftovers tokens = .error cause := by
  unfold ofPostfix
  cases tokens with
  | nil => cases h
  | cons t tokens => rw [if_neg (by simp), h]

end Expr

end Arith
