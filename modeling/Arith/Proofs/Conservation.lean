import Mathlib.Data.List.Perm.Subperm
import Arith.Parse
import Arith.Proofs.OperatorStack
import Arith.Proofs.PostfixInverse

/-!
# Nothing is lost between a text and its expression

Putting tokens into postfix order moves the operators and leaves the operands in their
order: an operand goes straight to the output, and an operator is put out once, by a later
operator, by the end of its group or by the end of the input. The expression is spelled by
an end of that order. So its leaves are the last operands of the text, and its operators are
among those of the text, each taken as often as it stands there at most. Where nothing may
be left over the end is the whole order, and with it all operands and operators are used.

## Main results

* `Arith.Postfix.operands_of_toPostfix` and `Arith.Postfix.operators_of_toPostfix`: postfix
  order keeps the operands in their order and the operators up to order.
* `Arith.Postfix.toPostfix_of_ofInfix_strict`: where nothing is left over, it is the postfix
  order of the expression.
* `Arith.length_operands_of_ofInfix_strict`: it has one operand more than operators then.
* `Arith.parse_conserves`: what of a text is found in its expression.
-/

namespace Arith

variable {tokens order : List Token}

namespace Postfix

/-- Postfix order has the operands in the order in which they were read. -/
theorem operands_of_toPostfix (h : toPostfix tokens = .ok order) :
    Token.operands order = Token.operands tokens := by
  obtain ⟨moves, rest, ran, rfl⟩ := exists_run_of_toPostfix h
  rw [Token.operands_append, operands_of_run ran, operands_map_operator, List.append_nil]

/-- Postfix order has the operators that were read, in some order. -/
theorem operators_of_toPostfix (h : toPostfix tokens = .ok order) :
    (Token.operators order).Perm (Token.operators tokens) := by
  obtain ⟨moves, rest, ran, rfl⟩ := exists_run_of_toPostfix h
  rw [Token.operators_append, operators_map_operator]
  exact operators_of_run_nil ran

/-- Tokens that are read with nothing left over have the postfix order of their expression. -/
theorem toPostfix_of_ofInfix_strict {tree : Expr} (h : ofInfix .strict tokens = .ok tree) :
    toPostfix tokens = .ok tree.toPostfix ∧ tree.Parenless := by
  obtain ⟨order, ordered, read⟩ := ofInfix_eq_ok_iff.mp h
  obtain ⟨parenless, rfl⟩ := Expr.ofPostfix_eq_ok_iff_toPostfix.mp read
  exact ⟨ordered, parenless⟩

end Postfix

/-- Tokens that are read with nothing left over have one operand more than operators. -/
theorem length_operands_of_ofInfix_strict {e : Expr} (h : ofInfix .strict tokens = .ok e) :
    (Token.operands tokens).length = (Token.operators tokens).length + 1 := by
  obtain ⟨ordered, -⟩ := Postfix.toPostfix_of_ofInfix_strict h
  have leaves := Postfix.operands_of_toPostfix ordered
  have nodes := Postfix.operators_of_toPostfix ordered
  rw [Expr.operands_toPostfix] at leaves
  rw [← leaves, ← nodes.length_eq, (Expr.operators_toPostfix e).length_eq, Expr.length_leaves]

/-- Nothing is lost, doubled or moved between a text and its expression. There is no grouping
node. The leaves are the last operands of the text in their order, all of them if leftovers
are refused. The operators are then exactly those of the text, each as often as it stands
there; if leftovers are dropped they are among them, one fewer than there are leaves. -/
theorem parse_conserves {config : Config} {text : String} {e : Expr}
    (h : parse config text = .ok e) :
    e.Parenless ∧ e.leaves <:+ Token.operands (tokenize text) ∧
    (config = .strict → e.leaves = Token.operands (tokenize text) ∧
      e.operators.Perm (Token.operators (tokenize text))) ∧
    (config = .lenient → e.operators.Subperm (Token.operators (tokenize text)) ∧
      e.operators.length = e.leaves.length - 1) := by
  obtain ⟨order, ordered, read⟩ := ofInfix_eq_ok_iff.mp h
  obtain ⟨parenless, before, rfl, all⟩ := Expr.exists_append_of_ofPostfix read
  have operands := Postfix.operands_of_toPostfix ordered
  have operators := Postfix.operators_of_toPostfix ordered
  rw [Token.operands_append, Expr.operands_toPostfix] at operands
  rw [Token.operators_append] at operators
  have spelled := Expr.operators_toPostfix e
  refine ⟨parenless, ⟨_, operands⟩, ?_, ?_⟩
  · rintro rfl
    rw [all rfl, Token.operands_nil, List.nil_append] at operands
    rw [all rfl, Token.operators_nil, List.nil_append] at operators
    exact ⟨operands, spelled.symm.trans operators⟩
  · rintro rfl
    refine ⟨?_, by rw [Expr.length_leaves, Nat.add_sub_cancel]⟩
    -- Operators before the end that was kept are dropped with their operands.
    have kept : (Token.operators e.toPostfix).Subperm
        (Token.operators before ++ Token.operators e.toPostfix) :=
      (List.sublist_append_right _ _).subperm
    exact spelled.symm.subperm.trans (kept.trans operators.subperm)

/-- In `(1+2)a(b-3)*c` the lenient reading keeps the product. The sum and `a` stand before
it and are dropped, with them one of the three operators. -/
theorem parse_conserves_product :
    ∃ e, parse .lenient "(1+2)a(b-3)*c" = .ok e ∧
      e.leaves = [.var 'b', .lit '3', .var 'c'] ∧ e.operators = [.multiply, .subtract] ∧
      e.leaves <:+ [.lit '1', .lit '2', .var 'a', .var 'b', .lit '3', .var 'c'] ∧
      e.operators.Subperm [.add, .subtract, .multiply] := by
  have tokens : tokenize "(1+2)a(b-3)*c" =
      [.lparen, .operand (.lit '1'), .operator .add, .operand (.lit '2'), .rparen,
        .operand (.var 'a'), .lparen, .operand (.var 'b'), .operator .subtract,
        .operand (.lit '3'), .rparen, .operator .multiply, .operand (.var 'c')] := by decide
  have kept : parse .lenient "(1+2)a(b-3)*c" =
      .ok (.binary .multiply (.binary .subtract (.leaf (.var 'b')) (.leaf (.lit '3')))
        (.leaf (.var 'c'))) := by
    rw [parse, tokens]
    rfl
  obtain ⟨-, ending, -, among⟩ := parse_conserves kept
  rw [tokens] at ending among
  exact ⟨_, kept, rfl, rfl, ending, (among rfl).1⟩

end Arith
