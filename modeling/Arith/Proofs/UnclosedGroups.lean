import Arith.Parse
import Arith.Proofs.OperatorStack

/-!
# Groups left open

A group that the input leaves open is discarded when the stack is drained, and the operators
above it are released on the way. A closing parenthesis at the end would have released the same
operators in the same order and left the drain the rest. So the groups that are open at the end
may be closed there, all of them or some, without a change to the outcome. One parenthesis more is
an unmatched one.

For the same reason a group around all tokens changes nothing. Above it they run as they would
alone, and it is discarded in the end. If a closing parenthesis is put behind them it need not
close that group; where the tokens leave groups open themselves, it closes the innermost of those.

## Main results

* `Arith.Postfix.toPostfix_concat_rparen`: the innermost group left open may be closed at the
  end.
* `Arith.Postfix.toPostfix_append_replicate_rparen`: so may any number of them.
* `Arith.Postfix.toPostfix_cons_lparen`: a group may be opened before all tokens.
* `Arith.ofInfix_closeAll`: tokens and the same tokens with all groups closed stand for the same.
* `Arith.redundant_parentheses`: which parentheses at the ends change nothing.
-/

namespace Arith

open Token (lparen rparen opens closes unclosed closeAll Contained)

variable {tokens order : List Token}

namespace Postfix

/-- The innermost group left open may be closed at the end. -/
theorem toPostfix_concat_rparen (h : toPostfix tokens = .ok order)
    (opened : closes tokens < opens tokens) : toPostfix (tokens ++ [rparen]) = .ok order := by
  obtain ⟨moves, stack, ran, rfl⟩ := exists_run_of_toPostfix h
  have counted := groups_of_run_nil ran
  cases closed : close stack with
  | none =>
    have empty := close_eq_none_iff.mp closed
    omega
  | some next =>
    obtain ⟨moves', below⟩ := next
    obtain ⟨os, rfl, rfl⟩ := close_eq_some_iff.mp closed
    have whole : run [] (tokens ++ [rparen]) = (moves ++ os.map .release, some below) :=
      run_append_eq_some_iff.mpr ⟨_, _, _, ran, run_singleton_eq_some_iff.mpr closed, rfl⟩
    -- What the parenthesis releases is what the drain would have released first.
    rw [toPostfix_of_run whole, output_append, output_map_release]
    simp

/-- As many groups as are left open may be closed at the end. -/
theorem toPostfix_append_replicate_rparen {n : Nat} (h : toPostfix tokens = .ok order)
    (enough : closes tokens + n ≤ opens tokens) :
    toPostfix (tokens ++ List.replicate n rparen) = .ok order := by
  induction n with
  | zero => simpa using h
  | succ n ih =>
    rw [List.replicate_succ', ← List.append_assoc]
    apply toPostfix_concat_rparen (ih (by omega))
    rw [Token.closes_append, Token.opens_append, Token.closes_replicate_rparen,
      Token.opens_replicate_rparen]
    omega

/-- More groups than are left open cannot be closed at the end. -/
theorem toPostfix_append_replicate_rparen_of_lt {n : Nat}
    (excess : opens tokens < closes tokens + n) :
    toPostfix (tokens ++ List.replicate n rparen) = .error .unbalancedParenthesis := by
  apply toPostfix_eq_unbalancedParenthesis_iff.mpr
  refine ⟨_, List.prefix_refl _, ?_⟩
  rwa [Token.closes_append, Token.opens_append, Token.closes_replicate_rparen,
    Token.opens_replicate_rparen]

/-- All groups left open may be closed at the end. -/
theorem toPostfix_closeAll (h : toPostfix tokens = .ok order) :
    toPostfix (closeAll tokens) = .ok order :=
  toPostfix_append_replicate_rparen h
    (Nat.le_of_eq (contained_of_toPostfix h).closes_add_unclosed)

/-- A group may be opened before all tokens. -/
theorem toPostfix_cons_lparen (h : toPostfix tokens = .ok order) :
    toPostfix (lparen :: tokens) = .ok order := by
  obtain ⟨moves, stack, ran, rfl⟩ := exists_run_of_toPostfix h
  have above : run [.group] tokens = (moves, some (stack ++ [.group])) := run_append_group ran []
  have whole : run [] (lparen :: tokens) = (moves, some (stack ++ [.group])) :=
    run_cons_eq_some_iff.mpr ⟨[], [.group], moves, rfl, above, rfl⟩
  rw [toPostfix_of_run whole, waiting_append, waiting_group, waiting_nil, List.append_nil]

/-- Parentheses may be put around all tokens, even if the tokens leave groups open. -/
theorem toPostfix_parenthesized (h : toPostfix tokens = .ok order) :
    toPostfix ([lparen] ++ tokens ++ [rparen]) = .ok order := by
  apply toPostfix_concat_rparen (toPostfix_cons_lparen h)
  have bound := (contained_of_toPostfix h).closes_le_opens
  rw [Token.closes_cons_lparen, Token.opens_cons_lparen]
  omega

end Postfix

/-- Tokens that are put into the same postfix order stand for the same, or are refused for the same
cause. -/
theorem ofInfix_eq_of_toPostfix_eq_ok {tokens' : List Token} (config : Config)
    (h : toPostfix tokens = .ok order) (h' : toPostfix tokens' = .ok order) :
    ofInfix config tokens' = ofInfix config tokens := by
  rw [ofInfix_of_ok config h, ofInfix_of_ok config h']

/-- Tokens that close no group too many stand for the same as with all groups closed, or are
refused for the same cause. -/
theorem ofInfix_closeAll (contained : Contained tokens) (config : Config) :
    ofInfix config (closeAll tokens) = ofInfix config tokens := by
  obtain ⟨moves, stack, ran⟩ := Postfix.exists_run_of_contained contained
  have ordered := Postfix.toPostfix_of_run ran
  exact ofInfix_eq_of_toPostfix_eq_ok config ordered (Postfix.toPostfix_closeAll ordered)

/-- Of tokens that have a postfix order, as many groups as are left open may be closed at the end,
and no more than that: one parenthesis more has no group to close. A parenthesis may be opened
before the tokens, and one may be closed behind them too, whatever groups they leave open. None of
this changes the order, nor what the tokens stand for or are refused for. -/
theorem redundant_parentheses (h : toPostfix tokens = .ok order) :
    closes tokens + unclosed tokens = opens tokens ∧
    (∀ n ≤ unclosed tokens,
      toPostfix (tokens ++ List.replicate n rparen) = .ok order ∧
      ∀ config, ofInfix config (tokens ++ List.replicate n rparen) = ofInfix config tokens) ∧
    (∀ n > unclosed tokens,
      toPostfix (tokens ++ List.replicate n rparen) = .error .unbalancedParenthesis ∧
      ∀ config, ofInfix config (tokens ++ List.replicate n rparen) =
        .error .unbalancedParenthesis) ∧
    (toPostfix ([lparen] ++ tokens) = .ok order ∧
      ∀ config, ofInfix config ([lparen] ++ tokens) = ofInfix config tokens) ∧
    toPostfix ([lparen] ++ tokens ++ [rparen]) = .ok order ∧
      ∀ config, ofInfix config ([lparen] ++ tokens ++ [rparen]) = ofInfix config tokens := by
  have counted := (Postfix.contained_of_toPostfix h).closes_add_unclosed
  refine ⟨counted, ?_, ?_, ?_, ?_⟩
  · intro n enough
    have closed : toPostfix (tokens ++ List.replicate n rparen) = .ok order :=
      Postfix.toPostfix_append_replicate_rparen h (by omega)
    exact ⟨closed, fun config => ofInfix_eq_of_toPostfix_eq_ok config h closed⟩
  · intro n excess
    have refused : toPostfix (tokens ++ List.replicate n rparen) = .error .unbalancedParenthesis :=
      Postfix.toPostfix_append_replicate_rparen_of_lt (by omega)
    exact ⟨refused, fun _ => ofInfix_of_error refused⟩
  · have opened := Postfix.toPostfix_cons_lparen h
    exact ⟨opened, fun config => ofInfix_eq_of_toPostfix_eq_ok config h opened⟩
  · have grouped := Postfix.toPostfix_parenthesized h
    exact ⟨grouped, fun config => ofInfix_eq_of_toPostfix_eq_ok config h grouped⟩

/-- In `a*(b+(c` two groups are left open. Closing one of them, or putting parentheses around all,
leaves the order as it is; three closing parentheses are one too many. -/
theorem redundant_parentheses_two_open :
    toPostfix (tokenize "a*(b+(c") = .ok (tokenize "abc+*") ∧
    unclosed (tokenize "a*(b+(c") = 2 ∧
    toPostfix (tokenize "a*(b+(c" ++ List.replicate 1 rparen) = .ok (tokenize "abc+*") ∧
    ofInfix .strict (tokenize "a*(b+(c" ++ List.replicate 3 rparen) =
      .error .unbalancedParenthesis ∧
    toPostfix ([lparen] ++ tokenize "a*(b+(c" ++ [rparen]) = .ok (tokenize "abc+*") := by
  have ordered : toPostfix (tokenize "a*(b+(c") = .ok (tokenize "abc+*") := by decide
  have two_open : unclosed (tokenize "a*(b+(c") = 2 := by decide
  obtain ⟨-, closed, refused, -, grouped, -⟩ := redundant_parentheses ordered
  rw [two_open] at closed refused
  exact ⟨ordered, two_open, (closed 1 (by decide)).1, (refused 3 (by decide)).2 .strict, grouped⟩

end Arith
