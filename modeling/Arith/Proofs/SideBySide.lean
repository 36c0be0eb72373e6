import Arith.Proofs.FaithfulLog
import Arith.Proofs.Phrase

/-!
# Expressions side by side

An operand or a group in parentheses leaves the stack of waiting operators as it found it. Where
several of them stand side by side, their postfix orders therefore follow one another, and then
the order of whatever stands behind them, as if each had been read alone. Every one of them puts
one expression on the stack of operands, and the operators of the last expression find enough
operands of its own, so they never take one that was left before.

So `12+3` is read as `1` and `2+3`. The strict reading refuses it for the two expressions that it
finds, and the lenient one keeps the last and drops the other.

## Main definitions

* `Arith.Piece`: an operand, or a group that stands for an expression.

## Main results

* `Arith.Piece.atomic_flatten`: pieces side by side are atomic.
* `Arith.Piece.reduce_flatMap`: the stack that pieces and what stands behind them leave.
* `Arith.side_by_side_keeps_last`: how an expression is read with pieces before it.
-/

namespace Arith

open Token (Balanced operand lparen rparen)
open Postfix (Atomic)

/-- The tokens are an operand, or a group in parentheses whose tokens stand for the expression
with nothing left over. -/
inductive Piece : List Token → Expr → Prop
  | operand (a : Operand) : Piece [operand a] (.leaf a)
  | group {tokens : List Token} {e : Expr} (balanced : Balanced tokens)
    (read : ofInfix .strict tokens = .ok e) : Piece ([lparen] ++ tokens ++ [rparen]) e

variable {tokens : List Token} {pieces : List (List Token)} {e : Expr} {es : List Expr}

namespace Piece

/-- A piece is atomic and puts out the postfix order of its expression. -/
theorem atomic (h : Piece tokens e) : Atomic tokens e.toPostfix := by
  cases h with
  | operand a =>
    rw [Expr.toPostfix_leaf]
    exact Postfix.atomic_operand a
  | group balanced read =>
    obtain ⟨order, ordered, atomic⟩ := Postfix.atomic_group balanced
    obtain ⟨ordered', -⟩ := Postfix.toPostfix_of_ofInfix_strict read
    obtain rfl := Except.ok.inj (ordered.symm.trans ordered')
    exact atomic

theorem parenless (h : Piece tokens e) : e.Parenless := by
  cases h with
  | operand a => trivial
  | group balanced read => exact (Postfix.toPostfix_of_ofInfix_strict read).2

theorem toPostfix_eq (h : Piece tokens e) : toPostfix tokens = .ok e.toPostfix :=
  (h.atomic.runsAs 0).toPostfix_eq

/-- Pieces side by side are atomic, and their orders follow one another. -/
theorem atomic_flatten (h : List.Forall₂ Piece pieces es) :
    Atomic pieces.flatten (es.flatMap Expr.toPostfix) := by
  induction h with
  | nil => exact Postfix.atomic_nil
  | cons piece _ ih => exact piece.atomic.append ih

theorem forall_parenless (h : List.Forall₂ Piece pieces es) : ∀ e ∈ es, e.Parenless := by
  induction h with
  | nil => simp
  | cons piece _ ih => exact List.forall_mem_cons.mpr ⟨piece.parenless, ih⟩

/-- The expressions of pieces pile up, and that of the tokens behind them comes to lie on top. -/
theorem reduce_flatMap (h : List.Forall₂ Piece pieces es) (parenless : e.Parenless) :
    Expr.reduce [] (es.flatMap Expr.toPostfix ++ e.toPostfix) = .ok (e :: es.reverse) := by
  refine Expr.reduce_nil_eq_ok_iff.mpr ⟨by simp, ?_⟩
  simpa [parenless] using forall_parenless h

end Piece

/-- Where pieces stand side by side before tokens that stand for an expression, all of them are put
into postfix order one after the other. The strict reading takes the expression if there are no
pieces, and otherwise finds one expression more than there are pieces. The lenient reading takes
the expression of the last tokens whatever stands before it; what it drops are the expressions of
the pieces, and the log tells how many they are. -/
theorem side_by_side_keeps_last (beside : List.Forall₂ Piece pieces es)
    (read : ofInfix .strict tokens = .ok e) :
    List.Forall₂ (fun piece e => toPostfix piece = .ok e.toPostfix) pieces es ∧
    toPostfix tokens = .ok e.toPostfix ∧
    toPostfix (pieces.flatten ++ tokens) = .ok (es.flatMap Expr.toPostfix ++ e.toPostfix) ∧
    Expr.reduce [] (es.flatMap Expr.toPostfix ++ e.toPostfix) = .ok (e :: es.reverse) ∧
    (pieces = [] → ofInfix .strict (pieces.flatten ++ tokens) = .ok e) ∧
    (pieces ≠ [] → ofInfix .strict (pieces.flatten ++ tokens) =
      .error (.incompleteExpression 1 (pieces.length + 1))) ∧
    ofInfix .lenient (pieces.flatten ++ tokens) = .ok e ∧
    ∀ count, .dropped count ∈ (Logged.ofInfix .lenient (pieces.flatten ++ tokens)).log ↔
      pieces ≠ [] ∧ count = pieces.length := by
  obtain ⟨ordered, parenless⟩ := Postfix.toPostfix_of_ofInfix_strict read
  have whole := (Piece.atomic_flatten beside).toPostfix_append ordered
  have stack := Piece.reduce_flatMap beside parenless
  have settled (config : Config) : ofInfix config (pieces.flatten ++ tokens) =
      Expr.settle config.leftovers (e :: es.reverse) :=
    (ofInfix_of_ok config whole).trans (Expr.ofPostfix_of_reduce config.leftovers stack)
  have strict_some (some_piece : pieces ≠ []) : ofInfix .strict (pieces.flatten ++ tokens) =
      .error (.incompleteExpression 1 (pieces.length + 1)) := by
    have leftover : es.reverse ≠ [] := by
      rw [← List.length_pos_iff, List.length_reverse, ← beside.length_eq]
      exact List.length_pos_iff.mpr some_piece
    rw [settled, beside.length_eq, ← List.length_reverse]
    exact Expr.settle_reject_of_ne_nil e leftover
  refine ⟨beside.imp fun _ _ piece => piece.toPostfix_eq, ordered, whole, stack, ?_, strict_some,
    (settled .lenient).trans (Expr.settle_keepTopmost e es.reverse), ?_⟩
  · rintro rfl
    exact read
  · intro count
    rw [Logged.dropped_mem_log_ofInfix_iff]
    by_cases none : pieces = []
    · subst none
      simp [read]
    · rw [strict_some none]
      simp [Config.lenient, none, eq_comm]

/-- In `(1+2)a((b))c*(2` three pieces stand before a product whose group is left open. -/
theorem side_by_side_keeps_last_product :
    List.Forall₂ Piece [tokenize "(1+2)", tokenize "a", tokenize "((b))"]
      [.binary .add (.leaf (.lit '1')) (.leaf (.lit '2')), .leaf (.var 'a'), .leaf (.var 'b')] ∧
    ofInfix .strict (tokenize "c*(2") =
      .ok (.binary .multiply (.leaf (.var 'c')) (.leaf (.lit '2'))) ∧
    parse .strict "(1+2)a((b))c*(2" = .error (.incompleteExpression 1 4) ∧
    parse .lenient "(1+2)a((b))c*(2" =
      .ok (.binary .multiply (.leaf (.var 'c')) (.leaf (.lit '2'))) := by
  have balanced : Balanced (tokenize "1+2") := by decide
  have sum : ofInfix .strict (tokenize "1+2") =
      .ok (.binary .add (.leaf (.lit '1')) (.leaf (.lit '2'))) := by decide
  have balanced' : Balanced (tokenize "(b)") := by decide
  have group : ofInfix .strict (tokenize "(b)") = .ok (.leaf (.var 'b')) := by decide
  have beside : List.Forall₂ Piece [tokenize "(1+2)", tokenize "a", tokenize "((b))"]
      [.binary .add (.leaf (.lit '1')) (.leaf (.lit '2')), .leaf (.var 'a'), .leaf (.var 'b')] :=
    .cons (.group balanced sum) (.cons (.operand (.var 'a')) (.cons (.group balanced' group) .nil))
  have read : ofInfix .strict (tokenize "c*(2") =
      .ok (.binary .multiply (.leaf (.var 'c')) (.leaf (.lit '2'))) := by decide
  obtain ⟨-, -, -, -, -, strict, lenient, -⟩ := side_by_side_keeps_last beside read
  exact ⟨beside, read, strict (by simp), lenient⟩

end Arith
