import Arith.Proofs.Conservation
import Arith.Proofs.LenientReading

/-!
# Operators are only delayed

Tokens that are put into postfix order lose their parentheses, and the operators among them
move to the back; an operand never passes another one. Whether tokens can be read onto a stack
of operands depends on its height alone, and an operator that comes later finds the stack no
lower than it would have found it earlier. So whatever can be read in the order in which it
stands can be read in the order it is put into, and leaves a stack of the same height.

In particular tokens that are in postfix order already may be taken for infix tokens. What they
then stand for is another expression in general, as `ab+c*` is read as `a+b*c`, but it has the
same leaves and the same operators.

## Main definitions

* `Arith.Token.ungrouped`: the tokens without their parentheses.
* `Arith.Delays`: one list of tokens arises from another by moving operators to the back.
* `Arith.Expr.height`: how high a stack is after tokens in postfix order are read onto it.

## Main results

* `Arith.Postfix.delays_of_run` and `Arith.Postfix.delays_of_toPostfix`: postfix order delays
  operators and does nothing else but leave out parentheses.
* `Arith.Delays.length_operators_take_le`: no beginning has more operators than before.
* `Arith.Delays.height_eq`: what could be read can still be read.
* `Arith.ofInfix_accepts_postorder`: tokens in postfix order may be read as infix tokens.
-/

namespace Arith

open Token (operands operators)

/-- The tokens without their parentheses. -/
def Token.ungrouped (tokens : List Token) : List Token :=
  tokens.filter fun t => t ≠ .lparen ∧ t ≠ .rparen

/-- The first list arises from the second by moving operators to the back, past one token at a
time. -/
inductive Delays : List Token → List Token → Prop
  | nil : Delays [] []
  | cons (t : Token) {order tokens : List Token} (later : Delays order tokens) :
    Delays (t :: order) (t :: tokens)
  | swap (o : Operator) (t : Token) (tokens : List Token) :
    Delays (t :: .operator o :: tokens) (.operator o :: t :: tokens)
  | trans {order between tokens : List Token} (last : Delays order between)
    (first : Delays between tokens) : Delays order tokens

/-- The height of a stack of height `n` after tokens in postfix order are read onto it, if none
of them stops the reading. -/
def Expr.height : Nat → List Token → Option Nat
  | n, [] => some n
  | n, .operand _ :: tokens => height (n + 1) tokens
  | n + 2, .operator _ :: tokens => height (n + 1) tokens
  | _, _ => none

variable {t : Token} {tokens tokens' order : List Token}

namespace Token

@[simp] theorem ungrouped_nil : ungrouped [] = [] := rfl

@[simp] theorem ungrouped_lparen : ungrouped [lparen] = [] := rfl

@[simp] theorem ungrouped_rparen : ungrouped [rparen] = [] := rfl

@[simp] theorem ungrouped_append :
    ungrouped (tokens ++ tokens') = ungrouped tokens ++ ungrouped tokens' :=
  List.filter_append ..

theorem ungrouped_eq_self (no_open : lparen ∉ tokens) (no_close : rparen ∉ tokens) :
    ungrouped tokens = tokens := by
  refine List.filter_eq_self.mpr fun t mem => decide_eq_true ⟨?_, ?_⟩
  · rintro rfl
    exact no_open mem
  · rintro rfl
    exact no_close mem

/-- Without closing parentheses there is none too many. -/
theorem contained_of_not_mem (no_close : rparen ∉ tokens) : Contained tokens := by
  intro start beginning
  have none : closes start = 0 :=
    List.count_eq_zero.mpr fun mem => no_close (beginning.subset mem)
  omega

end Token

/-! ### Moving operators to the back -/

namespace Delays

theorem refl (tokens : List Token) : Delays tokens tokens := by
  induction tokens with
  | nil => exact nil
  | cons t tokens ih => exact cons t ih

theorem of_eq (same : order = tokens) : Delays order tokens := by
  rw [same]
  exact refl tokens

theorem append_left (start : List Token) (h : Delays order tokens) :
    Delays (start ++ order) (start ++ tokens) := by
  induction start with
  | nil => exact h
  | cons t start ih => exact cons t ih

theorem append_right (h : Delays order tokens) (behind : List Token) :
    Delays (order ++ behind) (tokens ++ behind) := by
  induction h with
  | nil => exact refl behind
  | cons t _ ih => exact cons t ih
  | swap o t tokens => exact swap o t (tokens ++ behind)
  | trans _ _ last first => exact trans last first

/-- A token may be brought before operators that stand in front of it. -/
theorem past (t : Token) (os : List Operator) :
    Delays (t :: os.map .operator) (os.map .operator ++ [t]) := by
  induction os with
  | nil => exact refl [t]
  | cons o os ih => exact trans (swap o t (os.map .operator)) (cons (.operator o) ih)

/-- No beginning has more operators than it had before. -/
theorem length_operators_take_le (h : Delays order tokens) (n : Nat) :
    (operators (order.take n)).length ≤ (operators (tokens.take n)).length := by
  induction h generalizing n with
  | nil => exact Nat.le_refl _
  | cons t _ ih =>
    cases n with
    | zero => exact Nat.le_refl _
    | succ n => cases t <;> simpa using ih n
  | swap o t tokens =>
    match n with
    | 0 => exact Nat.le_refl _
    | 1 => cases t <;> simp
    | n + 2 => cases t <;> simp
  | trans _ _ last first => exact Nat.le_trans (last n) (first n)

/-- What can be read onto a stack can be read after operators were delayed, and leaves the stack
as high as before. -/
theorem height_eq (h : Delays order tokens) {n k : Nat} (read : Expr.height n tokens = some k) :
    Expr.height n order = some k := by
  induction h generalizing n with
  | nil => exact read
  | cons t _ ih =>
    cases t with
    | operand a => exact ih read
    | operator o =>
      match n with
      | 0 | 1 => cases read
      | n + 2 => exact ih read
    | lparen => cases read
    | rparen => cases read
  | swap o t tokens =>
    -- The operator that came first finds two operands, whatever comes before it now.
    match n with
    | 0 | 1 => cases read
    | n + 2 =>
      cases t with
      | operand a => exact read
      | operator o' =>
        cases n with
        | zero => cases read
        | succ n => exact read
      | lparen => cases read
      | rparen => cases read
  | trans _ _ last first => exact last (first read)

end Delays

namespace Expr

variable {stack : List Expr}

/-- Only the height of a stack decides whether tokens can be read onto it, and how high it is
afterwards. -/
theorem exists_reduce_iff {k : Nat} :
    (∃ rest, reduce stack tokens = .ok rest ∧ rest.length = k) ↔
      height stack.length tokens = some k := by
  fun_induction reduce stack tokens with
  | case1 stack => simp [height]
  | case2 stack a tokens ih => exact ih
  | case3 right left stack o tokens ih => exact ih
  | case4 stack o tokens short =>
    rcases stack with _ | ⟨right, _ | ⟨left, below⟩⟩
    · simp [height]
    · simp [height]
    · exact (short right left below rfl).elim
  | case5 => simp [height]
  | case6 => simp [height]

/-- Tokens change the height one behind the other. -/
theorem height_append (n : Nat) (tokens tokens' : List Token) :
    height n (tokens ++ tokens') = (height n tokens).bind (height · tokens') := by
  induction tokens generalizing n with
  | nil => rfl
  | cons t tokens ih =>
    cases t with
    | operand a => exact ih (n + 1)
    | operator o =>
      match n with
      | 0 | 1 => rfl
      | n + 2 => exact ih (n + 1)
    | lparen => rfl
    | rparen => rfl

theorem not_mem_toPostfix (e : Expr) : .lparen ∉ e.toPostfix ∧ .rparen ∉ e.toPostfix := by
  induction e with
  | leaf a => simp
  | binary o l r ihl ihr => simp [ihl, ihr]
  | paren e ih => simpa using ih

end Expr

/-! ### Postfix order delays operators -/

namespace Postfix

variable {stack rest : List Pending} {moves : List Move}

/-- What waited before a step and its token come out of the step and wait after it, with
operators moved to the back. -/
theorem delays_of_step (h : step t stack = some (moves, rest)) :
    Delays (output moves ++ (waiting rest).map .operator)
      ((waiting stack).map .operator ++ Token.ungrouped [t]) := by
  cases t with
  | operand a =>
    cases h
    exact .past (.operand a) (waiting stack)
  | operator o =>
    cases h
    obtain ⟨flushed, moved, waited⟩ := exists_waiting_eq_append o stack
    rw [moved, output_map_flush, waited, List.map_append, List.append_assoc]
    -- The incoming operator comes to wait above those that are not flushed.
    exact (Delays.past (.operator o) (waiting (flush o stack).2)).append_left _
  | lparen =>
    cases h
    exact .of_eq (by simp)
  | rparen =>
    obtain ⟨os, rfl, rfl⟩ := close_eq_some_iff.mp h
    exact .of_eq (by simp [output_map_release])

/-- What waited before a run and its tokens come out of the run and wait after it, with
operators moved to the back. -/
theorem delays_of_run (h : run stack tokens = (moves, some rest)) :
    Delays (output moves ++ (waiting rest).map .operator)
      ((waiting stack).map .operator ++ Token.ungrouped tokens) := by
  induction tokens generalizing stack moves with
  | nil =>
    cases h
    exact .of_eq (by simp)
  | cons t tokens ih =>
    obtain ⟨first, next, later, stepped, ran, rfl⟩ := run_cons_eq_some_iff.mp h
    have behind := (ih ran).append_left (output first)
    have before := (delays_of_step stepped).append_right (Token.ungrouped tokens)
    rw [List.append_assoc, List.append_assoc, ← Token.ungrouped_append,
      List.singleton_append] at before
    rw [output_append, List.append_assoc]
    exact behind.trans before

/-- Postfix order is that of the tokens without their parentheses, with operators moved to the
back. -/
theorem delays_of_toPostfix (h : toPostfix tokens = .ok order) :
    Delays order (Token.ungrouped tokens) := by
  obtain ⟨moves, rest, ran, rfl⟩ := exists_run_of_toPostfix h
  exact delays_of_run ran

end Postfix

/-! ### Reading postfix order as infix -/

/-- Tokens without parentheses have a postfix order, and nothing but delayed operators tells it
from them. -/
theorem exists_toPostfix_delays (no_open : .lparen ∉ tokens) (no_close : .rparen ∉ tokens) :
    ∃ order, toPostfix tokens = .ok order ∧ Delays order tokens := by
  obtain ⟨moves, rest, ran⟩ := Postfix.exists_run_of_contained (Token.contained_of_not_mem no_close)
  have ordered := Postfix.toPostfix_of_run ran
  have delays := Postfix.delays_of_toPostfix ordered
  rw [Token.ungrouped_eq_self no_open no_close] at delays
  exact ⟨_, ordered, delays⟩

/-- Tokens that can be read onto a stack as they stand can be read after they were put into
postfix order, and as many expressions are left. -/
theorem exists_ofInfix_of_reduce {e : Expr} {below : List Expr} (no_open : .lparen ∉ tokens)
    (no_close : .rparen ∉ tokens) (read : Expr.reduce [] tokens = .ok (e :: below)) :
    ∃ e' below', below'.length = below.length ∧
      ∀ config, ofInfix config tokens = Expr.settle config.leftovers (e' :: below') := by
  obtain ⟨order, ordered, delays⟩ := exists_toPostfix_delays no_open no_close
  have height := delays.height_eq (Expr.exists_reduce_iff.mp ⟨_, read, rfl⟩)
  obtain ⟨stack, read', same⟩ := Expr.exists_reduce_iff.mpr height
  match stack with
  | e' :: below' =>
    refine ⟨e', below', Nat.succ.inj same, fun config => ?_⟩
    rw [ofInfix_of_ok config ordered, Expr.ofPostfix_of_reduce _ read']

/-- The postfix order of an expression, read as if it were infix, stands for an expression with
the same leaves in the same order and the same operators. -/
theorem exists_ofInfix_toPostfix (e : Expr) :
    ∃ e' : Expr, (∀ config, ofInfix config e.toPostfix = .ok e') ∧ e'.leaves = e.leaves ∧
      e'.operators.Perm e.operators := by
  obtain ⟨no_open, no_close⟩ := e.not_mem_toPostfix
  have read : Expr.reduce [] e.toPostfix = .ok [e.erase] := by
    simpa using Expr.reduce_flatMap_toPostfix [e] []
  obtain ⟨e', below, height, settled⟩ := exists_ofInfix_of_reduce no_open no_close read
  obtain rfl := List.eq_nil_of_length_eq_zero height
  obtain ⟨ordered, -⟩ := Postfix.toPostfix_of_ofInfix_strict (settled .strict)
  refine ⟨e', settled, ?_, ?_⟩
  · have kept := Postfix.operands_of_toPostfix ordered
    rwa [Expr.operands_toPostfix, Expr.operands_toPostfix] at kept
  · have kept := Postfix.operators_of_toPostfix ordered
    exact e'.operators_toPostfix.symm.trans (kept.trans e.operators_toPostfix)

/-- Tokens in postfix order may be read as infix tokens. Where there are no parentheses, putting
tokens into postfix order only delays operators: no beginning of the order has more of them
than the same beginning of the tokens, and the operands keep their order. So if the tokens as
they stand stand for an expression, they do so as infix tokens, and if operands are left over,
as many are left over. The postfix order of an expression is read as one with the same leaves in
the same order and with the same operators. -/
theorem ofInfix_accepts_postorder :
    (∀ tokens : List Token, .lparen ∉ tokens → .rparen ∉ tokens →
      (∃ order, toPostfix tokens = .ok order ∧ operands order = operands tokens ∧
        ∀ n, (operators (order.take n)).length ≤ (operators (tokens.take n)).length) ∧
      (∀ (config : Config) (e : Expr), Expr.ofPostfix config.leftovers tokens = .ok e →
        ∃ e', ofInfix config tokens = .ok e') ∧
      ∀ found, Expr.ofPostfix .reject tokens = .error (.incompleteExpression 1 found) →
        ofInfix .strict tokens = .error (.incompleteExpression 1 found)) ∧
    ∀ (e : Expr) (config : Config), ∃ e', ofInfix config e.toPostfix = .ok e' ∧
      e'.leaves = e.leaves ∧ e'.operators.Perm e.operators := by
  constructor
  · intro tokens no_open no_close
    refine ⟨?_, ?_, ?_⟩
    · obtain ⟨order, ordered, delays⟩ := exists_toPostfix_delays no_open no_close
      exact ⟨order, ordered, Postfix.operands_of_toPostfix ordered,
        delays.length_operators_take_le⟩
    · intro config e accepted
      obtain ⟨-, stack, read, settled⟩ := Expr.ofPostfix_eq_ok_iff.mp accepted
      obtain ⟨below, rfl, alone⟩ := Expr.settle_eq_ok_iff.mp settled
      obtain ⟨e', below', height, same⟩ := exists_ofInfix_of_reduce no_open no_close read
      refine ⟨e', (same config).trans (Expr.settle_eq_ok_iff.mpr ⟨below', rfl, ?_⟩)⟩
      intro refused
      rw [alone refused] at height
      exact List.eq_nil_of_length_eq_zero height
    · intro found refused
      obtain ⟨e, below, read, leftover, rfl⟩ := Expr.ofPostfix_reject_leftover_iff.mp refused
      obtain ⟨e', below', height, same⟩ := exists_ofInfix_of_reduce no_open no_close read
      have leftover' : below' ≠ [] :=
        List.ne_nil_of_length_pos (height ▸ List.length_pos_iff.mpr leftover)
      rw [← height]
      exact (same .strict).trans (Expr.settle_reject_of_ne_nil e' leftover')
  · intro e config
    obtain ⟨e', read, leaves, operators⟩ := exists_ofInfix_toPostfix e
    exact ⟨e', read config, leaves, operators⟩

/-- As they stand `ab+c*` stand for `(a+b)*c`; read as infix tokens they stand for `a+(b*c)`. In
`1ab+` one operand is left over in either reading. -/
theorem ofInfix_accepts_postorder_regrouped :
    Expr.ofPostfix .reject [.operand (.var 'a'), .operand (.var 'b'), .operator .add,
        .operand (.var 'c'), .operator .multiply] =
      .ok (.binary .multiply (.binary .add (.leaf (.var 'a')) (.leaf (.var 'b')))
        (.leaf (.var 'c'))) ∧
    (∃ e', ofInfix .strict [.operand (.var 'a'), .operand (.var 'b'), .operator .add,
        .operand (.var 'c'), .operator .multiply] = .ok e' ∧
      e' = .binary .add (.leaf (.var 'a'))
        (.binary .multiply (.leaf (.var 'b')) (.leaf (.var 'c')))) ∧
    Expr.ofPostfix .reject [.operand (.lit '1'), .operand (.var 'a'), .operand (.var 'b'),
        .operator .add] = .error (.incompleteExpression 1 2) ∧
    ofInfix .strict [.operand (.lit '1'), .operand (.var 'a'), .operand (.var 'b'),
        .operator .add] = .error (.incompleteExpression 1 2) := by
  have accepted : Expr.ofPostfix .reject [.operand (.var 'a'), .operand (.var 'b'),
      .operator .add, .operand (.var 'c'), .operator .multiply] =
      .ok (.binary .multiply (.binary .add (.leaf (.var 'a')) (.leaf (.var 'b')))
        (.leaf (.var 'c'))) := rfl
  have refused : Expr.ofPostfix .reject [.operand (.lit '1'), .operand (.var 'a'),
      .operand (.var 'b'), .operator .add] = .error (.incompleteExpression 1 2) := rfl
  obtain ⟨e', read⟩ :=
    (ofInfix_accepts_postorder.1 _ (by decide) (by decide)).2.1 .strict _ accepted
  have refused' := (ofInfix_accepts_postorder.1 _ (by decide) (by decide)).2.2 2 refused
  exact ⟨accepted, ⟨e', read, Except.ok.inj (read.symm.trans rfl)⟩, refused, refused'⟩

end Arith
