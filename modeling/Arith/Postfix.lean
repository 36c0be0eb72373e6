import Arith.Error
import Arith.Token.Basic

/-!
# From infix to postfix order

Infix tokens are put into postfix order with a stack of what still waits: operators
whose right operand is not complete, and groups that are not closed. Operands pass
at once. An incoming operator first flushes the waiting operators that bind at least
as tightly as itself; a closing parenthesis releases the operators of its group; the
end of the input releases everything, and a group still open is discarded.

The run is a list of moves, from which both the output and the account of what
happened are read, and the stack it ends with, which is missing when a closing
parenthesis found no group.

## Main definitions

* `Arith.Postfix.Pending` and `Arith.Postfix.Move`: what waits, and what is done.
* `Arith.Postfix.step` and `Arith.Postfix.run`: the moves for one token and for many.
* `Arith.Postfix.convert`: the whole run, with the stack drained at the end.
* `Arith.toPostfix`: the tokens in postfix order.

## Main results

* `Arith.Postfix.run_append`: a run on two lists is a run on the first and, from the
  stack it leaves, a run on the second.
-/

namespace Arith

namespace Postfix

/-- What waits on the stack: an operator for its right operand, or a group for its
closing parenthesis. -/
inductive Pending
  | operator (o : Operator)
  | group
  deriving DecidableEq, Repr

/-- One thing done while tokens are put into postfix order. -/
inductive Move
  /-- An operand goes straight to the output. -/
  | pass (a : Operand)
  /-- The operator `incoming` sends the waiting operator `stacked` to the output. -/
  | flush (incoming stacked : Operator)
  /-- The end of its group or of the input sends an operator to the output. -/
  | release (o : Operator)
  /-- The end of the input drops a group that was never closed. -/
  | discard
  deriving DecidableEq, Repr

/-- The token that a move puts into the output. -/
def Move.token? : Move → Option Token
  | pass a => some (.operand a)
  | flush _ stacked => some (.operator stacked)
  | release o => some (.operator o)
  | discard => none

/-- The tokens that moves put into the output. -/
def output (moves : List Move) : List Token :=
  moves.filterMap Move.token?

/-- An incoming operator flushes the operators on top of the stack that bind at least
as tightly as itself. -/
def flush (incoming : Operator) : List Pending → List Move × List Pending
  | .operator stacked :: stack =>
    -- Equal precedence flushes too, so operators group to the left.
    if incoming.precedence ≤ stacked.precedence then
      let (moves, rest) := flush incoming stack
      (.flush incoming stacked :: moves, rest)
    else ([], .operator stacked :: stack)
  | stack => ([], stack)

/-- A closing parenthesis releases the operators down to the group it closes. There is
no answer if no group is open. -/
def close : List Pending → Option (List Move × List Pending)
  | [] => none
  | .group :: stack => some ([], stack)
  | .operator o :: stack => (close stack).map fun (moves, rest) => (.release o :: moves, rest)

/-- The end of the input releases every operator and discards every group. -/
def drain : List Pending → List Move
  | [] => []
  | .operator o :: stack => .release o :: drain stack
  | .group :: stack => .discard :: drain stack

/-- The moves for one token, and the stack after it. There is no answer for a closing
parenthesis without a group. -/
def step : Token → List Pending → Option (List Move × List Pending)
  | .operand a, stack => some ([.pass a], stack)
  | .operator o, stack =>
    let (moves, rest) := flush o stack
    some (moves, .operator o :: rest)
  | .lparen, stack => some ([], .group :: stack)
  | .rparen, stack => close stack

/-- The moves for a list of tokens, and the stack after it if every token had an
answer. The moves before a token without one are kept. -/
def run (stack : List Pending) : List Token → List Move × Option (List Pending)
  | [] => ([], some stack)
  | t :: tokens =>
    match step t stack with
    | none => ([], none)
    | some (moves, rest) =>
      let (moves', final) := run rest tokens
      (moves ++ moves', final)

/-- All moves for a list of tokens from an empty stack, and whether the list ended in
good order; if it did, what still waits is drained. -/
def convert (tokens : List Token) : List Move × Bool :=
  match run [] tokens with
  | (moves, none) => (moves, false)
  | (moves, some stack) => (moves ++ drain stack, true)

end Postfix

/-- The tokens in postfix order, without their parentheses. The only error is a closing
parenthesis without an opening one. -/
def toPostfix (tokens : List Token) : Except ParseError (List Token) :=
  match Postfix.convert tokens with
  | (_, false) => .error .unbalancedParenthesis
  | (moves, true) => .ok (Postfix.output moves)

namespace Postfix

variable {stack : List Pending}

@[simp] theorem output_nil : output [] = [] := rfl

@[simp] theorem output_append (moves moves' : List Move) :
    output (moves ++ moves') = output moves ++ output moves' := by
  simp [output]

/-- A run on two lists is a run on the first and, from the stack it leaves, a run on the
second. -/
theorem run_append (tokens tokens' : List Token) :
    run stack (tokens ++ tokens') =
      match run stack tokens with
      | (moves, none) => (moves, none)
      | (moves, some rest) => (moves ++ (run rest tokens').1, (run rest tokens').2) := by
  induction tokens generalizing stack with
  | nil => simp [run]
  | cons t tokens ih =>
    simp only [List.cons_append, run]
    cases step t stack with
    | none => rfl
    | some next =>
      obtain ⟨moves, rest⟩ := next
      simp only [ih]
      rcases run rest tokens with ⟨moves', _ | final⟩ <;> simp

/-- Tokens are put into postfix order by a run from the empty stack, if it ends in good
order, and by draining the stack it leaves. -/
theorem toPostfix_eq_ok_iff {tokens result : List Token} :
    toPostfix tokens = .ok result ↔
      ∃ stack, (run [] tokens).2 = some stack ∧
        result = output ((run [] tokens).1 ++ drain stack) := by
  unfold toPostfix convert
  rcases run [] tokens with ⟨moves, _ | stack⟩ <;> simp [eq_comm]

/-- Putting tokens into postfix order fails exactly when the run breaks off. -/
theorem toPostfix_eq_error_iff {tokens : List Token} {e : ParseError} :
    toPostfix tokens = .error e ↔ (run [] tokens).2 = none ∧ e = .unbalancedParenthesis := by
  unfold toPostfix convert
  rcases run [] tokens with ⟨moves, _ | stack⟩ <;> simp [eq_comm]

end Postfix

end Arith
