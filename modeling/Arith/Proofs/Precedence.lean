import Arith.Grammar
import Arith.Parse
import Arith.Proofs.Phrase
import Arith.Proofs.PostfixInverse

/-!
# Derivations are parsed to their trees

A phrase of the grammar runs as a phrase of the level that its kind has, and puts out the
postfix order of the derivation's tree. The levels are the precedences: an operator takes a
phrase of its own level on the left and one of the next level on the right, which is why
equal precedences group to the left, and parentheses lift a sum to the level of a factor.

## Main definitions

* `Arith.Nonterminal.level`: the precedence that a phrase's own operators have at least.

## Main results

* `Arith.Derives.runsAs`: every phrase of the grammar runs as one of its level.
* `Arith.Derives.parse_eq_tree`: parsing a derived sum gives the derivation's tree.
-/

namespace Arith

/-- The least precedence of an operator outside parentheses in a phrase of this kind. No
operator has that of a factor. -/
def Nonterminal.level : Nonterminal → Nat
  | sum => 0
  | term => 1
  | factor => 2

namespace Derives

variable {kind : Nonterminal} {w : List Token} {t : Expr}

/-- Every phrase of the grammar runs as a phrase of its level. -/
theorem runsAs (h : Derives kind w t) : Postfix.RunsAs kind.level w t.toPostfix := by
  induction h with
  | operand a =>
    rw [Expr.toPostfix_leaf]
    exact (Postfix.atomic_operand a).runsAs _
  | group _ ih => exact ih.parentheses.runsAs _
  | ofFactor _ ih => exact ih.loosen (by decide)
  | multiplicative tight _ _ ihl ihr =>
    -- The right operand is a factor, whose level is the one above that of the operator.
    rw [Expr.toPostfix_binary]
    exact ihl.binary tight ihr
  | ofTerm _ ih => exact ih.loosen (by decide)
  | additive loose _ _ ihl ihr =>
    rw [Expr.toPostfix_binary]
    exact ihl.binary loose ihr

/-- Parsing a derived sum gives the derivation's tree, whatever becomes of leftovers: the
postfix order of its tokens is that of the tree, and a text is read as its tokens are. -/
theorem parse_eq_tree (h : Derives .sum w t) :
    toPostfix w = .ok t.toPostfix ∧ (∀ config : Config, ofInfix config w = .ok t) ∧
      ∀ (config : Config) (text : String), tokenize text = w → parse config text = .ok t := by
  have order : toPostfix w = .ok t.toPostfix := h.runsAs.toPostfix_eq
  have parsed (config : Config) : ofInfix config w = .ok t := by
    -- A derived tree has no grouping node that its postfix order could lose.
    refine ofInfix_eq_ok_iff.mpr ⟨t.toPostfix, order, ?_⟩
    rw [Expr.ofPostfix_toPostfix, Expr.erase_eq_self_iff.mpr h.parenless]
  refine ⟨order, parsed, ?_⟩
  intro config text same
  rw [parse, same]
  exact parsed config

/-- In `a-b*(c-1)-2` the product is the right operand of the first subtraction, which is the
left operand of the last one. -/
theorem parse_eq_tree_nested :
    ∃ t : Expr, Derives .sum (tokenize "a-b*(c-1)-2") t ∧
      t = .binary .subtract
        (.binary .subtract (.leaf (.var 'a')) (.binary .multiply (.leaf (.var 'b'))
          (.binary .subtract (.leaf (.var 'c')) (.leaf (.lit '1')))))
        (.leaf (.lit '2')) ∧
      toPostfix (tokenize "a-b*(c-1)-2") = .ok t.toPostfix ∧
      ofInfix .strict (tokenize "a-b*(c-1)-2") = .ok t ∧ parse .lenient "a-b*(c-1)-2" = .ok t := by
  have operand (a : Operand) : Derives .term [.operand a] (.leaf a) := .ofFactor (.operand a)
  have inner := Derives.additive (o := .subtract) rfl (.ofTerm (operand (.var 'c')))
    (operand (.lit '1'))
  have product := Derives.multiplicative (o := .multiply) rfl (operand (.var 'b')) (.group inner)
  have first := Derives.additive (o := .subtract) rfl (.ofTerm (operand (.var 'a'))) product
  have whole := Derives.additive (o := .subtract) rfl first (operand (.lit '2'))
  have read : tokenize "a-b*(c-1)-2" =
      [.operand (.var 'a'), .operator .subtract, .operand (.var 'b'), .operator .multiply, .lparen,
        .operand (.var 'c'), .operator .subtract, .operand (.lit '1'), .rparen,
        .operator .subtract, .operand (.lit '2')] := by decide
  have derived := (congrArg (Derives .sum · _) read).mpr whole
  obtain ⟨order, parsed, from_text⟩ := parse_eq_tree derived
  exact ⟨_, derived, rfl, order, parsed _, from_text _ _ rfl⟩

end Derives

end Arith
