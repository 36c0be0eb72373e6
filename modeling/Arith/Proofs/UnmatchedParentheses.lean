import Arith.Proofs.OutcomeCounts

/-!
# Unmatched closing parentheses

Parentheses are never counted while tokens are put into postfix order. A closing parenthesis
takes operators off the stack until it meets a group, and fails if it meets none. But the groups
on the stack are the parentheses that are open, whatever operators lie between them, so it fails
exactly where the tokens up to it close one group more than they open. No other token has a part
in that, nor has an opening parenthesis that is never closed, and what is read later cannot mend
it.

A parse puts the tokens into postfix order first. So it is refused for an unmatched parenthesis in
the same cases, in either configuration, and whatever else would be wrong with the order is never
looked at.

## Main definitions

* `Arith.Token.parentheses`: the parentheses among the tokens.

## Main results

* `Arith.Token.overcloses_parentheses_iff`: only the parentheses matter.
* `Arith.refused_iff_overcloses`: tokens fail at a parenthesis exactly if they overclose.
-/

namespace Arith

namespace Token

/-- The parentheses among the tokens. -/
def parentheses (tokens : List Token) : List Token :=
  tokens.filter fun t => t = lparen ∨ t = rparen

variable {tokens u v : List Token}

@[simp] theorem opens_parentheses (tokens : List Token) :
    opens (parentheses tokens) = opens tokens :=
  List.count_filter (by simp)

@[simp] theorem closes_parentheses (tokens : List Token) :
    closes (parentheses tokens) = closes tokens :=
  List.count_filter (by simp)

/-- Only the parentheses of a list matter to whether it overcloses. -/
theorem overcloses_parentheses_iff : Overcloses (parentheses tokens) ↔ Overcloses tokens := by
  constructor
  · -- A beginning of the parentheses are the parentheses of a beginning.
    rintro ⟨_, within, excess⟩
    obtain ⟨start, beginning, rfl⟩ := List.prefix_filter_iff.mp within
    refine ⟨start, beginning, ?_⟩
    rwa [← opens_parentheses, ← closes_parentheses]
  · rintro ⟨start, beginning, excess⟩
    refine ⟨parentheses start, beginning.filter _, ?_⟩
    rwa [opens_parentheses, closes_parentheses]

/-- An operand is no parenthesis, whatever its character. -/
theorem parentheses_append_operand (u v : List Token) (a : Operand) :
    parentheses (u ++ operand a :: v) = parentheses (u ++ v) := by
  simp [parentheses]

/-- A parenthesis that nothing behind it closes has no part in whether the list overcloses. -/
theorem overcloses_append_lparen_iff (contained : Contained v) :
    Overcloses (u ++ lparen :: v) ↔ Overcloses (u ++ v) := by
  rw [overcloses_iff_not_contained, overcloses_iff_not_contained, contained.append_iff,
    contained.cons_lparen.append_iff]

end Token

open Token (operand operator lparen rparen Contained Overcloses parentheses)

/-- Tokens have no postfix order exactly if some beginning of them closes more groups than it
opens, and they are refused for that. Nothing else has a part in it: only the parentheses among
the tokens matter, an operand is none of them even if its character is one, and an opening
parenthesis that nothing behind it closes may be left out. Tokens that fail still fail with others
behind them. And a parse fails for an unmatched parenthesis in the same cases, whatever becomes of
leftovers and whatever else is wrong with the tokens. -/
theorem refused_iff_overcloses :
    (∀ (tokens : List Token) (cause : ParseError),
      toPostfix tokens = .error cause ↔ cause = .unbalancedParenthesis ∧ Overcloses tokens) ∧
    (∀ tokens : List Token, toPostfix tokens = .error .unbalancedParenthesis ↔
      toPostfix (parentheses tokens) = .error .unbalancedParenthesis) ∧
    (∀ (u v : List Token) (a : Operand),
      toPostfix (u ++ operand a :: v) = .error .unbalancedParenthesis ↔
        toPostfix (u ++ v) = .error .unbalancedParenthesis) ∧
    (∀ u v : List Token, Contained v →
      (toPostfix (u ++ lparen :: v) = .error .unbalancedParenthesis ↔
        toPostfix (u ++ v) = .error .unbalancedParenthesis)) ∧
    (∀ tokens behind : List Token, Overcloses tokens →
      toPostfix (tokens ++ behind) = .error .unbalancedParenthesis) ∧
    (∀ (config : Config) (tokens : List Token),
      ofInfix config tokens = .error .unbalancedParenthesis ↔ Overcloses tokens) ∧
    ∀ (config : Config) (text : String),
      parse config text = .error .unbalancedParenthesis ↔ Overcloses (tokenize text) := by
  have parsed (config : Config) (tokens : List Token) :
      ofInfix config tokens = .error .unbalancedParenthesis ↔ Overcloses tokens := by
    rw [ofInfix_eq_unbalancedParenthesis_iff, Postfix.toPostfix_eq_unbalancedParenthesis_iff]
  simp only [Postfix.toPostfix_eq_unbalancedParenthesis_iff]
  refine ⟨?_, ?_, ?_, ?_, ?_, parsed, ?_⟩
  · intro tokens cause
    exact Postfix.toPostfix_eq_error_iff_overcloses
  · intro tokens
    exact Token.overcloses_parentheses_iff.symm
  · intro u v a
    rw [← Token.overcloses_parentheses_iff, Token.parentheses_append_operand,
      Token.overcloses_parentheses_iff]
  · intro u v contained
    exact Token.overcloses_append_lparen_iff contained
  · intro tokens behind overcloses
    exact overcloses.append behind
  · intro config text
    exact parsed config (tokenize text)

/-- In `1+)` an operator lacks an operand, but the parenthesis is what is complained of. An opening
parenthesis behind it does not help, closed or not. -/
theorem refused_iff_overcloses_unclosed :
    Overcloses [operand (.lit '1'), operator .add, rparen] ∧
    toPostfix ([operand (.lit '1'), operator .add, rparen] ++
      [lparen, operand (.var 'a'), rparen]) = .error .unbalancedParenthesis ∧
    Contained [operand (.var ')')] ∧
    toPostfix ([operand (.lit '1'), operator .add, rparen] ++
      lparen :: [operand (.var ')')]) = .error .unbalancedParenthesis := by
  have overcloses : Overcloses [operand (.lit '1'), operator .add, rparen] := by decide
  have contained : Contained [operand (.var ')')] := by decide
  obtain ⟨-, -, -, unclosed, behind, -, -⟩ := refused_iff_overcloses
  exact ⟨overcloses, behind _ _ overcloses, contained,
    (unclosed _ _ contained).mpr (behind _ _ overcloses)⟩

end Arith
