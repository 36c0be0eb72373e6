import Arith.Proofs.OperatorStack

/-!
# The stack stays orderly

The loops that take operators off the stack have no bound of their own. A flush goes on as long as
the operator on top binds tightly enough, and the end of a group as long as there is an operator on
top. But no run comes to a stack on which they could go on for long. An operator comes to lie on
what its flush has left, so within a group the operators bind tighter the higher they lie, and with
two levels of precedence there are two of them at most. A group that is closed uncovers the
operators below it as they were when it was opened. So the stack is bounded by the groups that are
open, and the groups on it are the parentheses read that are not closed.

## Main definitions

* `Arith.Postfix.Orderly`: what holds of the stack and of the output after some tokens.

## Main results

* `Arith.Postfix.orderly_of_run`: a run comes to orderly stacks only.
* `Arith.Postfix.stack_orderly`: at every token of a conversion the stack is orderly.
-/

namespace Arith

namespace Postfix

variable {stack : List Pending} {moves : List Move} {read : List Token}

/-- What holds after the tokens `read`, with `moves` done and `stack` waiting. On the stack there are
groups and operators that were read, and nothing else; as many groups as are open; and operators
with no group between them bind tighter the higher they lie, so that they are two at most. Every
operator that was read was put out or waits, and it was read as often as it was put out and
waits. -/
structure Orderly (read : List Token) (moves : List Move) (stack : List Pending) : Prop where
  entries : ∀ p ∈ stack, p = .group ∨ ∃ o, p = .operator o ∧ .operator o ∈ read
  groups_add_closes : groups stack + Token.closes read = Token.opens read
  segments : ∀ (above : List Pending) (os : List Operator) (below : List Pending),
    stack = above ++ os.map .operator ++ below → Loosening os ∧ os.length ≤ 2
  length_le : stack.length ≤ 3 * groups stack + 2
  operators : (Token.operators (output moves) ++ waiting stack).Perm (Token.operators read)

/-- After a run the stack is orderly. -/
theorem orderly_of_run (h : run [] read = (moves, some stack)) : Orderly read moves stack where
  entries p mem := by
    cases p with
    | group => exact .inl rfl
    | operator o =>
      have waits := List.mem_append_right (Token.operators (output moves)) (mem_waiting_iff.mpr mem)
      exact .inr ⟨o, rfl, Token.mem_operators_iff.mp ((operators_of_run_nil h).subset waits)⟩
  groups_add_closes := groups_of_run_nil h
  segments above os below split := by
    have ascending := ascending_of_run h trivial
    rw [split, List.append_assoc] at ascending
    have loosening := ascending.of_append_right.loosening
    exact ⟨loosening, loosening.length_le_two⟩
  length_le := (ascending_of_run h trivial).length_le
  operators := operators_of_run_nil h

/-- However the tokens go on, a run that has gone through some of them goes on from the stack that
they leave, and that stack is orderly: it holds nothing but operators and the groups that are open;
within a group the operators bind tighter the higher they lie, so there are two of them at most, and
three entries at most for every open group and two more; and every operator that was read was put
out or is on it, once. -/
theorem stack_orderly (h : run [] read = (moves, some stack)) (ahead : List Token) :
    run [] (read ++ ahead) = (moves ++ (run stack ahead).1, (run stack ahead).2) ∧
      Orderly read moves stack := by
  constructor
  · rw [run_append, h]
  · exact orderly_of_run h

/-- After `1+2*(3+4*5` the stack is as high as it can be with one open group. A closing parenthesis
then releases the operators of the group. -/
theorem stack_orderly_high :
    run [] [.operand (.lit '1'), .operator .add, .operand (.lit '2'), .operator .multiply, .lparen,
        .operand (.lit '3'), .operator .add, .operand (.lit '4'), .operator .multiply,
        .operand (.lit '5')] =
      ([.pass (.lit '1'), .pass (.lit '2'), .pass (.lit '3'), .pass (.lit '4'), .pass (.lit '5')],
        some [.operator .multiply, .operator .add, .group, .operator .multiply, .operator .add]) ∧
    (run [] ([.operand (.lit '1'), .operator .add, .operand (.lit '2'), .operator .multiply, .lparen,
        .operand (.lit '3'), .operator .add, .operand (.lit '4'), .operator .multiply,
        .operand (.lit '5')] ++ [.rparen])).2 = some [.operator .multiply, .operator .add] ∧
    [Pending.operator .multiply, .operator .add, .group, .operator .multiply,
        .operator .add].length ≤
      3 * groups [.operator .multiply, .operator .add, .group, .operator .multiply,
        .operator .add] + 2 := by
  have ran : run [] [.operand (.lit '1'), .operator .add, .operand (.lit '2'),
      .operator .multiply, .lparen, .operand (.lit '3'), .operator .add, .operand (.lit '4'),
      .operator .multiply, .operand (.lit '5')] =
      ([.pass (.lit '1'), .pass (.lit '2'), .pass (.lit '3'), .pass (.lit '4'), .pass (.lit '5')],
        some [.operator .multiply, .operator .add, .group, .operator .multiply,
          .operator .add]) := rfl
  obtain ⟨goes_on, orderly⟩ := stack_orderly ran [.rparen]
  refine ⟨ran, ?_, orderly.length_le⟩
  rw [goes_on]
  rfl

end Postfix

end Arith
