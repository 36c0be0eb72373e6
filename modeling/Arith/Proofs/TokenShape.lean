import Arith.Parse
import Arith.Proofs.OperatorStack
import Arith.Proofs.PostfixInverse

/-!
# Only the shape of the tokens matters

Nothing looks at which operand a token holds, and of an operator only the precedence is looked
at. So if every operand is exchanged for some operand and every operator for one of the same
precedence, the run of the operator stack makes the same moves with the exchanged operands and
operators in them, breaks off at the same token, and leaves the same stack up to the exchange.
The stack of operands then has the same height throughout. What is parsed is the expression
with the exchange made at every node, and what is refused is refused for the same cause.

## Main definitions

* `Arith.Postfix.Pending.map` and `Arith.Postfix.Move.map`: the exchange on the stack and in
  the account of a run.

## Main results

* `Arith.Postfix.run_map`: an exchange may be made before or after a run.
* `Arith.Expr.translates_map`: an exchange of tokens goes along with one at the nodes.
* `Arith.parse_depends_on_shape`: an exchange may be made before or after parsing.
-/

namespace Arith

variable {f : Operand → Operand} {g : Operator → Operator}

/-- The operator that undoes this one. -/
def Operator.inverse : Operator → Operator
  | add => subtract
  | subtract => add
  | multiply => divide
  | divide => multiply

theorem Operator.precedence_inverse (o : Operator) : o.inverse.precedence = o.precedence := by
  cases o <;> rfl

namespace Postfix

/-- What waits, with `g` applied to its operator. -/
def Pending.map (g : Operator → Operator) : Pending → Pending
  | operator o => operator (g o)
  | group => group

/-- The move with `f` applied to its operand or `g` to its operators. -/
def Move.map (f : Operand → Operand) (g : Operator → Operator) : Move → Move
  | pass a => pass (f a)
  | flush incoming stacked => flush (g incoming) (g stacked)
  | release o => release (g o)
  | discard => discard

/-- A move puts out the exchanged token. -/
theorem token?_map (move : Move) : (move.map f g).token? = move.token?.map (Token.map f g) := by
  cases move <;> rfl

theorem output_map_move (moves : List Move) :
    output (moves.map (Move.map f g)) = (output moves).map (Token.map f g) := by
  rw [output, output, List.filterMap_map, List.map_filterMap]
  congr
  funext move
  exact token?_map move

theorem drain_map (stack : List Pending) :
    drain (stack.map (Pending.map g)) = (drain stack).map (Move.map f g) := by
  induction stack with
  | nil => rfl
  | cons p stack ih => cases p <;> simpa [drain, Pending.map, Move.map] using ih

/-- Precedences decide what a flush takes off. -/
theorem flush_map (keeps : ∀ o, (g o).precedence = o.precedence) (o : Operator)
    (stack : List Pending) :
    flush (g o) (stack.map (Pending.map g)) =
      Prod.map (List.map (Move.map f g)) (List.map (Pending.map g)) (flush o stack) := by
  fun_induction flush o stack with
  | case1 s stack binds moves rest flushing ih =>
    rw [flushing] at ih
    have binds' : (g o).precedence ≤ (g s).precedence := by rwa [keeps, keeps]
    simp only [List.map_cons, Pending.map, flush, if_pos binds', ih]
    rfl
  | case2 s stack loose =>
    have loose' : ¬ (g o).precedence ≤ (g s).precedence := by rwa [keeps, keeps]
    simp only [List.map_cons, Pending.map, flush, if_neg loose']
    rfl
  | case3 stack blocked =>
    cases stack with
    | nil => rfl
    | cons p stack =>
      cases p with
      | operator s => exact (blocked s stack rfl).elim
      | group => rfl

theorem close_map (stack : List Pending) :
    close (stack.map (Pending.map g)) =
      (close stack).map (Prod.map (List.map (Move.map f g)) (List.map (Pending.map g))) := by
  induction stack with
  | nil => rfl
  | cons p stack ih =>
    cases p with
    | group => rfl
    | operator o =>
      rw [List.map_cons, Pending.map, close, close, ih]
      cases close stack <;> rfl

/-- An exchange may be made before or after a step. -/
theorem step_map (keeps : ∀ o, (g o).precedence = o.precedence) (t : Token)
    (stack : List Pending) :
    step (t.map f g) (stack.map (Pending.map g)) =
      (step t stack).map (Prod.map (List.map (Move.map f g)) (List.map (Pending.map g))) := by
  cases t with
  | operand a => rfl
  | operator o =>
    rw [Token.map, step, flush_map keeps]
    rfl
  | lparen => rfl
  | rparen => exact close_map stack

/-- An exchange may be made before or after a run, which breaks off at the same token. -/
theorem run_map (keeps : ∀ o, (g o).precedence = o.precedence) (stack : List Pending)
    (tokens : List Token) :
    run (stack.map (Pending.map g)) (tokens.map (Token.map f g)) =
      Prod.map (List.map (Move.map f g)) (Option.map (List.map (Pending.map g)))
        (run stack tokens) := by
  induction tokens generalizing stack with
  | nil => rfl
  | cons t tokens ih =>
    rw [List.map_cons, run, run, step_map keeps]
    cases step t stack with
    | none => rfl
    | some next =>
      obtain ⟨moves, rest⟩ := next
      simp [ih]

/-- An exchange may be made before or after the tokens are put into postfix order. -/
theorem toPostfix_map (keeps : ∀ o, (g o).precedence = o.precedence) (tokens : List Token) :
    toPostfix (tokens.map (Token.map f g)) =
      (toPostfix tokens).map (List.map (Token.map f g)) := by
  have ran := run_map (f := f) keeps [] tokens
  unfold toPostfix convert
  rw [List.map_nil] at ran
  rw [ran]
  rcases run [] tokens with ⟨moves, _ | stack⟩
  · rfl
  · simp [Except.map, drain_map (f := f), output_map_move, ← List.map_append]

end Postfix

/-- An exchange of tokens goes along with the exchange at the nodes of an expression. -/
theorem Expr.translates_map : Translates (Expr.map f g) fun t => [t.map f g] where
  operand _ _ _ := rfl
  operator o := ⟨g o, rfl, fun _ _ => rfl⟩
  lparen := rfl
  rparen := rfl

/-- An exchange may be made before tokens in postfix order are read, or at the nodes of their
expression afterwards. -/
theorem Expr.ofPostfix_map (leftovers : Leftovers) (order : List Token) :
    ofPostfix leftovers (order.map (Token.map f g)) =
      (ofPostfix leftovers order).map (Expr.map f g) := by
  rw [← Expr.translates_map.ofPostfix_flatMap, List.map_eq_flatMap]

/-- Parsing depends only on the shape of the tokens. If every operand is exchanged for some
operand and every operator for one of the same precedence, the postfix order and the
expression are those of the original tokens with the same exchange made in them, and where
the original tokens are refused the exchanged ones are refused for the very same cause. -/
theorem parse_depends_on_shape (f : Operand → Operand) (g : Operator → Operator)
    (keeps : ∀ o, (g o).precedence = o.precedence) :
    (∀ tokens : List Token,
      toPostfix (tokens.map (Token.map f g)) =
        (toPostfix tokens).map (List.map (Token.map f g))) ∧
    (∀ (leftovers : Leftovers) (order : List Token),
      Expr.ofPostfix leftovers (order.map (Token.map f g)) =
        (Expr.ofPostfix leftovers order).map (Expr.map f g)) ∧
    ∀ (config : Config) (tokens : List Token),
      ofInfix config (tokens.map (Token.map f g)) =
        (ofInfix config tokens).map (Expr.map f g) := by
  refine ⟨Postfix.toPostfix_map keeps, Expr.ofPostfix_map, ?_⟩
  intro config tokens
  rw [ofInfix, ofInfix, Postfix.toPostfix_map keeps]
  cases toPostfix tokens with
  | error cause => rfl
  | ok order => exact Expr.ofPostfix_map config.leftovers order

/-- In `a-(b*c` and in `a-+b` every operand is exchanged for a literal that holds a parenthesis
and every operator for its inverse. The first is read as before, with the exchange made, and
the second is refused for the operator that it lacks an operand for. -/
theorem parse_depends_on_shape_inverse :
    (∀ o : Operator, o.inverse.precedence = o.precedence) ∧
    ofInfix .strict (([.operand (.var 'a'), .operator .subtract, .lparen, .operand (.var 'b'),
        .operator .multiply, .operand (.var 'c')] : List Token).map
          (Token.map (fun _ => .lit '(') Operator.inverse)) =
      .ok (.binary .add (.leaf (.lit '('))
        (.binary .divide (.leaf (.lit '(')) (.leaf (.lit '(')))) ∧
    ofInfix .lenient (([.operand (.var 'a'), .operator .subtract, .operator .add,
        .operand (.var 'b')] : List Token).map (Token.map (fun _ => .lit '(') Operator.inverse)) =
      .error (.incompleteExpression 2 1) := by
  obtain ⟨-, -, parsed⟩ :=
    parse_depends_on_shape (fun _ => .lit '(') Operator.inverse Operator.precedence_inverse
  exact ⟨Operator.precedence_inverse, (parsed .strict _).trans rfl, (parsed .lenient _).trans rfl⟩

end Arith
