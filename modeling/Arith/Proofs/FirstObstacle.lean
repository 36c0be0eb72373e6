import Mathlib.Order.Bounds.Basic
import Arith.Proofs.OutcomeCounts

/-!
# The first obstacle decides

Tokens in postfix order are read one by one, and whether the next one can be read depends on the
height of the stack alone. That height is told by the tokens before it: every operand adds an
expression and every operator takes one away. So the tokens themselves show where reading stops,
at the first parenthesis or at the first operator before which there are not two operands more
than operators, whichever comes first; and where nothing is in the way they show how many
expressions are left in the end. Something is always left then, since an operator that can be
read leaves an expression behind.

## Main definitions

* `Arith.Expr.surplus`: how many more operands than operators there are.
* `Arith.Expr.obstacles`: the positions of the tokens that cannot be read where they stand.
* `Arith.Expr.DecidedByObstacles`: what the obstacles and the surplus say about the readings.

## Main results

* `Arith.Expr.surplus_of_reduce`: the surplus is the height of the stack.
* `Arith.Expr.exists_reduce_take`: what stands before the first obstacle is read.
* `Arith.Expr.exists_reduce_of_isLeast`: the first obstacle is met on a stack.
* `Arith.Expr.outcome_by_first_obstacle`: the outcome of reading any tokens in postfix order.
-/

namespace Arith

open Token (operands)

namespace Expr

/-- How many more operands than operators there are among the tokens. -/
def surplus (tokens : List Token) : Int :=
  (operands tokens).length - (Token.operators tokens).length

/-- The token cannot be read behind the tokens `before`: it is a parenthesis, or an operator and
they leave fewer than two operands for it. -/
def Obstructs (before : List Token) : Token → Prop
  | .operand _ => False
  | .operator _ => surplus before < 2
  | .lparen | .rparen => True

/-- The positions of the tokens that cannot be read behind those before them. -/
def obstacles (tokens : List Token) : Set Nat :=
  {i | ∃ t ∈ tokens[i]?, Obstructs (tokens.take i) t}

/-- What the obstacles among the tokens, and the surplus of operands, say about the readings.
The first obstacle is what is complained of. If there is none, as many expressions are left as
there are more operands than operators, and that is one at least. -/
structure DecidedByObstacles (tokens : List Token)
    (read : Leftovers → Except ParseError Expr) : Prop where
  empty : tokens = [] → ∀ leftovers, read leftovers = .error .emptyInput
  parenthesis : ∀ i, IsLeast (obstacles tokens) i →
    tokens[i]? = some .lparen ∨ tokens[i]? = some .rparen →
      ∀ leftovers, read leftovers = .error .parenthesisInPostfix
  operator : ∀ i o, IsLeast (obstacles tokens) i → tokens[i]? = some (.operator o) →
    ∃ found : Nat, surplus (tokens.take i) = found ∧ (found = 0 ∨ found = 1) ∧
      ∀ leftovers, read leftovers = .error (.incompleteExpression 2 found)
  clear : tokens ≠ [] → obstacles tokens = ∅ →
    ∃ found : Nat, surplus tokens = found ∧ 1 ≤ found ∧
      (found = 1 → ∃ e, ∀ leftovers, read leftovers = .ok e) ∧
      (1 < found → read .reject = .error (.incompleteExpression 1 found) ∧
        ∃ e, read .keepTopmost = .ok e)
  never_none_left : ∀ leftovers, read leftovers ≠ .error (.incompleteExpression 1 0)

variable {tokens before : List Token} {stack : List Expr} {t : Token} {i : Nat}

/-! ### One token -/

/-- The surplus is the height of the stack. -/
theorem surplus_of_reduce (h : reduce [] before = .ok stack) :
    surplus before = stack.length := by
  have counted := length_of_reduce h
  rw [List.length_nil] at counted
  rw [surplus]
  omega

/-- A token that is not in the way can be read. -/
theorem exists_reduce_singleton (h : reduce [] before = .ok stack)
    (free : ¬ Obstructs before t) : ∃ rest, reduce stack [t] = .ok rest := by
  cases t with
  | operand a => exact ⟨leaf a :: stack, rfl⟩
  | operator o =>
    rw [Obstructs, surplus_of_reduce h] at free
    match stack with
    | [] => simp at free
    | [only] => simp at free
    | right :: left :: below => exact ⟨binary o left right :: below, rfl⟩
  | lparen => exact (free trivial).elim
  | rparen => exact (free trivial).elim

/-- An operator that is in the way finds one operand or none. -/
theorem reduce_operator_of_obstructs {o : Operator} (h : reduce [] before = .ok stack)
    (obstructs : Obstructs before (.operator o)) (behind : List Token) :
    (stack.length = 0 ∨ stack.length = 1) ∧
      reduce stack (.operator o :: behind) = .error (.incompleteExpression 2 stack.length) := by
  rw [Obstructs, surplus_of_reduce h] at obstructs
  match stack with
  | [] => exact ⟨.inl rfl, rfl⟩
  | [only] => exact ⟨.inr rfl, rfl⟩
  | right :: left :: below =>
    simp only [List.length_cons] at obstructs
    omega

/-! ### Up to the first obstacle -/

/-- What stands before the first obstacle is read onto a stack. -/
theorem exists_reduce_take (clear : ∀ j < i, j ∉ obstacles tokens) :
    ∃ stack, reduce [] (tokens.take i) = .ok stack := by
  induction i with
  | zero => exact ⟨[], rfl⟩
  | succ i ih =>
    obtain ⟨stack, read⟩ := ih fun j earlier => clear j (Nat.lt_succ_of_lt earlier)
    rw [List.take_add_one, reduce_append, read]
    cases here : tokens[i]? with
    | none => exact ⟨stack, rfl⟩
    | some t =>
      apply exists_reduce_singleton read
      exact fun obstructs => clear i (Nat.lt_succ_self i) ⟨t, here, obstructs⟩

/-- Tokens without an obstacle are all read onto a stack. -/
theorem exists_reduce_of_obstacles_eq_empty (clear : obstacles tokens = ∅) :
    ∃ stack, reduce [] tokens = .ok stack := by
  have nowhere : ∀ j < tokens.length, j ∉ obstacles tokens := by simp [clear]
  obtain ⟨stack, read⟩ := exists_reduce_take nowhere
  rw [List.take_length] at read
  exact ⟨stack, read⟩

/-- The first obstacle is met on the stack that the tokens before it leave. -/
theorem exists_reduce_of_isLeast (first : IsLeast (obstacles tokens) i)
    (here : tokens[i]? = some t) :
    Obstructs (tokens.take i) t ∧ ∃ stack behind, reduce [] (tokens.take i) = .ok stack ∧
      tokens = tokens.take i ++ t :: behind := by
  obtain ⟨⟨t', here', obstructs⟩, least⟩ := first
  obtain rfl := Option.some.inj (here.symm.trans here')
  obtain ⟨stack, read⟩ := exists_reduce_take fun j earlier mem =>
    Nat.not_le_of_lt earlier (least mem)
  obtain ⟨inside, at_position⟩ := List.getElem?_eq_some_iff.mp here
  refine ⟨obstructs, stack, tokens.drop (i + 1), read, ?_⟩
  rw [← at_position, ← List.drop_eq_getElem_cons inside, List.take_append_drop]

/-! ### The outcome of a reading -/

/-- Tokens are refused for what the first of them that cannot be read is refused for. -/
theorem ofPostfix_of_obstacle {behind : List Token} {cause : ParseError}
    (read : reduce [] before = .ok stack) (refused : reduce stack (t :: behind) = .error cause)
    (leftovers : Leftovers) : ofPostfix leftovers (before ++ t :: behind) = .error cause := by
  apply ofPostfix_of_reduce_error
  rw [reduce_append, read]
  exact refused

/-- Reading never ends with nothing on the stack. -/
theorem ofPostfix_ne_none_left (leftovers : Leftovers) (tokens : List Token) :
    ofPostfix leftovers tokens ≠ .error (.incompleteExpression 1 0) := by
  intro refused
  rcases refused_or_exists_stack tokens with ⟨cause, other, same⟩ | ⟨e, below, read⟩
  · exact other 0 (Except.error.inj ((same leftovers).symm.trans refused))
  · rw [ofPostfix_of_reduce leftovers read] at refused
    -- A stack with something on it is complained of only with its height.
    cases below with
    | nil => cases refused
    | cons next below => cases leftovers <;> cases refused

/-- Whatever tokens are read in postfix order, the first obstacle among them decides. Nothing at
all is refused for being nothing. The first parenthesis or operator short of operands, whichever
comes first, is complained of, an operator with the number of operands that it finds, none or
one. If all tokens can be read, there are more operands than operators; one more is an
expression, and if there are still more, the strict reading counts what is left and the lenient
one takes the topmost. That nothing is left is never what a reading fails for. -/
theorem outcome_by_first_obstacle (tokens : List Token) :
    DecidedByObstacles tokens (ofPostfix · tokens) where
  empty none leftovers := by
    rw [none]
    rfl
  parenthesis i first paren leftovers := by
    rcases paren with here | here
    · obtain ⟨-, stack, behind, read, split⟩ := exists_reduce_of_isLeast first here
      rw [split]
      exact ofPostfix_of_obstacle read rfl leftovers
    · obtain ⟨-, stack, behind, read, split⟩ := exists_reduce_of_isLeast first here
      rw [split]
      exact ofPostfix_of_obstacle read rfl leftovers
  operator i o first here := by
    obtain ⟨obstructs, stack, behind, read, split⟩ := exists_reduce_of_isLeast first here
    obtain ⟨few, refused⟩ := reduce_operator_of_obstructs read obstructs behind
    refine ⟨stack.length, surplus_of_reduce read, few, fun leftovers => ?_⟩
    rw [split]
    exact ofPostfix_of_obstacle read refused leftovers
  clear some_token clear := by
    obtain ⟨stack, read⟩ := exists_reduce_of_obstacles_eq_empty clear
    match stack with
    | [] =>
      -- Nothing but the empty list leaves nothing.
      obtain ⟨none, -⟩ := reduce_nil_eq_ok_iff.mp read
      exact absurd none some_token
    | e :: below =>
      refine ⟨below.length + 1, surplus_of_reduce read, Nat.succ_pos _, ?_, ?_⟩
      · intro one
        obtain rfl := List.eq_nil_of_length_eq_zero (Nat.succ.inj one)
        exact ⟨e, fun leftovers => ofPostfix_of_reduce leftovers read⟩
      · intro several
        have leftover : below ≠ [] := List.ne_nil_of_length_pos (Nat.lt_of_succ_lt_succ several)
        refine ⟨ofPostfix_reject_leftover_iff.mpr ⟨e, below, read, leftover, rfl⟩, e, ?_⟩
        exact (ofPostfix_of_reduce .keepTopmost read).trans (settle_keepTopmost e below)
  never_none_left leftovers := ofPostfix_ne_none_left leftovers tokens

/-- The operator stands before the parenthesis and finds one operand. -/
example : ofPostfix .keepTopmost [.operand (.var 'a'), .operator .add, .lparen] =
    .error (.incompleteExpression 2 1) := rfl

end Expr

end Arith
