import Arith.Postfix
import Arith.Token.Balance

/-!
# The stack of waiting operators

What the three ways of taking operators off the stack do is said once here, and with it
what a step and a run do to the stack as a whole. The stack holds one group for every
parenthesis still open, so a run breaks off exactly where a closing parenthesis has none
left. Within a group the operators bind tighter the higher they lie, since an incoming
operator flushes whatever binds as tightly as itself. Nothing below an open group is
looked at before the group is closed.

## Main definitions

* `Arith.Postfix.waiting` and `Arith.Postfix.groups`: the operators on the stack and the
  number of groups on it.
* `Arith.Postfix.Innermost`: a property of the operators in the innermost open group.
* `Arith.Postfix.Ascending`: within every group the higher operators bind tighter.
* `Arith.Postfix.Loosening`: each operator of a list binds less tightly than those before it.

## Main results

* `Arith.Postfix.flush_eq` and `Arith.Postfix.close_eq_some_iff`: what is taken off.
* `Arith.Postfix.forall_mem_run`: what holds of every move of a step holds of those of a run.
* `Arith.Postfix.operands_of_run`: operands pass in their order.
* `Arith.Postfix.operators_of_run`: operators are put out or wait, each of them once.
* `Arith.Postfix.run_append_group`: a run above an open group leaves what lies below alone.
* `Arith.Postfix.groups_of_run` and `Arith.Postfix.exists_run_iff`: the groups on the stack
  count the open parentheses, and they decide whether a run goes through.
* `Arith.Postfix.ascending_of_run`: every stack that a run reaches is ascending.
* `Arith.Postfix.Loosening.length_le` and `Arith.Postfix.Ascending.length_le`: two levels of
  precedence leave room for two operators in a group, so an ascending stack is low.
-/

namespace Arith

namespace Postfix

open Token (opens closes)

variable {stack rest base : List Pending} {moves : List Move} {t : Token} {tokens : List Token}

/-- The operator that waits, if it is one. -/
def Pending.operator? : Pending → Option Operator
  | .operator o => some o
  | .group => none

/-- The operators on the stack, the topmost first. -/
def waiting (stack : List Pending) : List Operator :=
  stack.filterMap Pending.operator?

/-- The number of groups on the stack. -/
def groups (stack : List Pending) : Nat :=
  stack.count .group

/-- Every operator above the topmost group has the property. -/
def Innermost (P : Operator → Prop) : List Pending → Prop
  | .operator o :: stack => P o ∧ Innermost P stack
  | .group :: _ => True
  | [] => True

/-- Every operator binds tighter than those below it in its group. -/
def Ascending : List Pending → Prop
  | .operator o :: stack =>
    Innermost (fun below => below.precedence < o.precedence) stack ∧ Ascending stack
  | .group :: stack => Ascending stack
  | [] => True

/-- Each operator binds less tightly than those before it. -/
def Loosening (os : List Operator) : Prop :=
  os.Pairwise fun before behind => behind.precedence < before.precedence

@[simp] theorem waiting_nil : waiting [] = [] := rfl

@[simp] theorem waiting_operator (o : Operator) :
    waiting (.operator o :: stack) = o :: waiting stack := rfl

@[simp] theorem waiting_group : waiting (.group :: stack) = waiting stack := rfl

@[simp] theorem waiting_append : waiting (stack ++ rest) = waiting stack ++ waiting rest :=
  List.filterMap_append

@[simp] theorem waiting_map_operator (os : List Operator) : waiting (os.map .operator) = os := by
  induction os with
  | nil => rfl
  | cons o os ih => rw [List.map_cons, waiting_operator, ih]

theorem mem_waiting_iff {o : Operator} : o ∈ waiting stack ↔ .operator o ∈ stack := by
  induction stack with
  | nil => simp
  | cons p stack ih => cases p <;> simp [ih]

@[simp] theorem groups_nil : groups [] = 0 := rfl

@[simp] theorem groups_operator (o : Operator) : groups (.operator o :: stack) = groups stack := by
  simp [groups]

@[simp] theorem groups_group : groups (.group :: stack) = groups stack + 1 := by
  simp [groups]

@[simp] theorem groups_append : groups (stack ++ rest) = groups stack + groups rest :=
  List.count_append

@[simp] theorem groups_map_operator (os : List Operator) : groups (os.map .operator) = 0 := by
  induction os with
  | nil => rfl
  | cons o os ih => rw [List.map_cons, groups_operator, ih]

/-- Without a group there are only operators. -/
theorem eq_map_operator_of_groups_eq_zero (h : groups stack = 0) :
    stack = (waiting stack).map .operator := by
  induction stack with
  | nil => rfl
  | cons p stack ih =>
    cases p with
    | operator o =>
      rw [groups_operator] at h
      rw [waiting_operator, List.map_cons, ← ih h]
    | group => simp at h

/-- A property of the operators in the innermost group may be weakened. -/
theorem Innermost.mono {P Q : Operator → Prop} (h : Innermost P stack) (weaker : ∀ o, P o → Q o) :
    Innermost Q stack := by
  induction stack with
  | nil => trivial
  | cons p stack ih =>
    cases p with
    | operator o => exact ⟨weaker o h.1, ih h.2⟩
    | group => trivial

theorem Innermost.of_forall {P : Operator → Prop} (h : ∀ o, P o) : Innermost P stack := by
  induction stack with
  | nil => trivial
  | cons p stack ih =>
    cases p with
    | operator o => exact ⟨h o, ih⟩
    | group => trivial

/-! ### What a flush takes off -/

/-- A flush takes operators off the top that bind at least as tightly as the incoming one
and stops at an operator that does not, at a group or at the bottom. -/
theorem flush_eq (o : Operator) (stack : List Pending) :
    ∃ flushed : List Operator, stack = flushed.map .operator ++ (flush o stack).2 ∧
      (flush o stack).1 = flushed.map (.flush o) ∧ (∀ s ∈ flushed, o.precedence ≤ s.precedence) ∧
      ∀ s below, (flush o stack).2 = .operator s :: below → s.precedence < o.precedence := by
  fun_induction flush o stack with
  | case1 s stack binds moves rest flushing ih =>
    -- The topmost operator goes before those that the flush takes from below it.
    obtain ⟨flushed, split, moved, tight, stop⟩ := ih
    rw [flushing] at split moved stop
    refine ⟨s :: flushed, ?_, ?_, ?_, stop⟩
    · rw [List.map_cons, List.cons_append, ← split]
    · rw [List.map_cons, ← moved]
    · exact List.forall_mem_cons.mpr ⟨binds, tight⟩
  | case2 s stack loose =>
    refine ⟨[], rfl, rfl, by simp, ?_⟩
    intro s' below top
    cases top
    exact Nat.lt_of_not_le loose
  | case3 stack blocked =>
    -- Here the stack is empty or has a group on top.
    refine ⟨[], rfl, rfl, by simp, ?_⟩
    intro s below top
    exact (blocked s below top).elim

/-- What waited is what a flush sends out and, below it, what it leaves waiting. -/
theorem exists_waiting_eq_append (o : Operator) (stack : List Pending) :
    ∃ flushed : List Operator, (flush o stack).1 = flushed.map (.flush o) ∧
      waiting stack = flushed ++ waiting (flush o stack).2 := by
  obtain ⟨flushed, split, moved, -⟩ := flush_eq o stack
  have waited := congrArg waiting split
  rw [waiting_append, waiting_map_operator] at waited
  exact ⟨flushed, moved, waited⟩

/-- Operators that bind less tightly than the incoming one stay. -/
theorem flush_of_innermost {o : Operator}
    (loose : Innermost (fun s => s.precedence < o.precedence) stack) :
    flush o stack = ([], stack) := by
  match stack with
  | [] => rfl
  | .group :: stack => rfl
  | .operator s :: stack => rw [flush, if_neg (Nat.not_le_of_lt loose.1)]

/-- Operators on top that bind at least as tightly as the incoming one are flushed, down to
a stack whose innermost group binds less tightly. -/
theorem flush_map_operator_append {o : Operator} {os : List Operator}
    (tight : ∀ s ∈ os, o.precedence ≤ s.precedence)
    (loose : Innermost (fun s => s.precedence < o.precedence) stack) :
    flush o (os.map .operator ++ stack) = (os.map (.flush o), stack) := by
  induction os with
  | nil => exact flush_of_innermost loose
  | cons s os ih =>
    obtain ⟨binds, tight⟩ := List.forall_mem_cons.mp tight
    rw [List.map_cons, List.cons_append, flush, if_pos binds, ih tight]
    rfl

/-- A flush does not reach below an open group. -/
theorem flush_append_group (o : Operator) (stack base : List Pending) :
    flush o (stack ++ .group :: base) =
      ((flush o stack).1, (flush o stack).2 ++ .group :: base) := by
  induction stack with
  | nil => rfl
  | cons p stack ih =>
    cases p with
    | group => rfl
    | operator s =>
      rw [List.cons_append, flush, flush]
      by_cases binds : o.precedence ≤ s.precedence
      · rw [if_pos binds, if_pos binds, ih]
      · rw [if_neg binds, if_neg binds]
        rfl

/-! ### What a closing parenthesis takes off -/

/-- A closing parenthesis takes off the operators above the topmost group, and the group. -/
theorem close_eq_some_iff :
    close stack = some (moves, rest) ↔
      ∃ os : List Operator,
        stack = os.map .operator ++ .group :: rest ∧ moves = os.map .release := by
  constructor
  · intro h
    fun_induction close stack generalizing moves with
    | case1 => cases h
    | case2 stack =>
      cases h
      exact ⟨[], rfl, rfl⟩
    | case3 o stack ih =>
      obtain ⟨⟨moves', rest'⟩, closed, same⟩ := Option.map_eq_some_iff.mp h
      cases same
      obtain ⟨os, rfl, rfl⟩ := ih closed
      exact ⟨o :: os, rfl, rfl⟩
  · rintro ⟨os, rfl, rfl⟩
    induction os with
    | nil => rfl
    | cons o os ih =>
      rw [List.map_cons, List.cons_append, close, ih]
      rfl

/-- A closing parenthesis has an answer exactly when a group is open. -/
theorem close_eq_none_iff : close stack = none ↔ groups stack = 0 := by
  induction stack with
  | nil => simp [close]
  | cons p stack ih =>
    cases p with
    | group => simp [close]
    | operator o => rw [close, Option.map_eq_none_iff, ih, groups_operator]

/-! ### What moves put into the output -/

/-- Moves that put out one operator each put out the operators in their order. -/
theorem output_map {f : Operator → Move} (puts : ∀ o, (f o).token? = some (.operator o))
    (os : List Operator) : output (os.map f) = os.map .operator := by
  induction os with
  | nil => rfl
  | cons o os ih =>
    rw [output, List.map_cons, List.filterMap_cons_some (puts o), ← output, ih]
    rfl

theorem output_map_flush (o : Operator) (os : List Operator) :
    output (os.map (.flush o)) = os.map .operator :=
  output_map (fun _ => rfl) os

theorem output_map_release (os : List Operator) :
    output (os.map .release) = os.map .operator :=
  output_map (fun _ => rfl) os

/-- Draining the stack puts out the waiting operators from the top down. -/
theorem output_drain (stack : List Pending) :
    output (drain stack) = (waiting stack).map .operator := by
  induction stack with
  | nil => rfl
  | cons p stack ih =>
    cases p with
    | operator o =>
      rw [waiting_operator, List.map_cons, ← ih]
      rfl
    | group => exact ih

/-! ### Runs taken apart -/

/-- A run on two lists that goes through is two such runs. -/
theorem run_append_eq_some_iff {tokens' : List Token} {final : List Pending} :
    run stack (tokens ++ tokens') = (moves, some final) ↔
      ∃ first rest later, run stack tokens = (first, some rest) ∧
        run rest tokens' = (later, some final) ∧ moves = first ++ later := by
  rw [run_append]
  rcases run stack tokens with ⟨first, _ | rest⟩
  · simp
  · constructor
    · intro h
      obtain ⟨moved, ended⟩ := Prod.mk.inj h
      exact ⟨first, rest, (run rest tokens').1, rfl, Prod.ext rfl ended, moved.symm⟩
    · rintro ⟨first', rest', later, same, ran, rfl⟩
      cases same
      simp only [ran]

theorem run_singleton_eq_some_iff :
    run stack [t] = (moves, some rest) ↔ step t stack = some (moves, rest) := by
  rw [run]
  cases step t stack with
  | none => simp
  | some next => simp [run, Prod.ext_iff]

/-- A run on a token and more is a step and a run. -/
theorem run_cons_eq_some_iff {final : List Pending} :
    run stack (t :: tokens) = (moves, some final) ↔
      ∃ first rest later, step t stack = some (first, rest) ∧
        run rest tokens = (later, some final) ∧ moves = first ++ later := by
  rw [← List.singleton_append, run_append_eq_some_iff]
  simp only [run_singleton_eq_some_iff]

/-- What holds of every move of a step holds of every move of a run, even if the run breaks off. -/
theorem forall_mem_run {P : Move → Prop}
    (steps : ∀ t stack moves rest, step t stack = some (moves, rest) → ∀ move ∈ moves, P move)
    (stack : List Pending) (tokens : List Token) : ∀ move ∈ (run stack tokens).1, P move := by
  induction tokens generalizing stack with
  | nil => simp [run]
  | cons t tokens ih =>
    rw [run]
    cases stepped : step t stack with
    | none => simp
    | some next =>
      obtain ⟨moves, rest⟩ := next
      exact List.forall_mem_append.mpr ⟨steps t stack moves rest stepped, ih rest⟩

/-- The postfix order is what a run puts out, followed by what it leaves waiting. -/
theorem toPostfix_of_run (h : run [] tokens = (moves, some stack)) :
    toPostfix tokens = .ok (output moves ++ (waiting stack).map .operator) := by
  refine toPostfix_eq_ok_iff.mpr ⟨stack, by rw [h], ?_⟩
  rw [h, output_append, output_drain]

/-- Tokens that have a postfix order are put into it by a run that goes through. -/
theorem exists_run_of_toPostfix {order : List Token} (h : toPostfix tokens = .ok order) :
    ∃ moves rest, run [] tokens = (moves, some rest) ∧
      order = output moves ++ (waiting rest).map .operator := by
  obtain ⟨rest, ran, rfl⟩ := toPostfix_eq_ok_iff.mp h
  refine ⟨(run [] tokens).1, rest, Prod.ext rfl ran, ?_⟩
  rw [output_append, output_drain]

/-! ### Operands pass in their order -/

@[simp] theorem operands_map_operator (os : List Operator) :
    Token.operands (os.map .operator) = [] := by
  induction os with
  | nil => rfl
  | cons o os ih => rw [List.map_cons, Token.operands_cons_operator, ih]

/-- A step puts out the operand of its token, if it has one, and no other. -/
theorem operands_of_step (h : step t stack = some (moves, rest)) :
    Token.operands (output moves) = Token.operands [t] := by
  cases t with
  | operand a =>
    cases h
    rfl
  | operator o =>
    cases h
    obtain ⟨flushed, -, moved, -⟩ := flush_eq o stack
    rw [moved, output_map_flush, operands_map_operator]
    rfl
  | lparen =>
    cases h
    rfl
  | rparen =>
    obtain ⟨os, -, rfl⟩ := close_eq_some_iff.mp h
    rw [output_map_release, operands_map_operator]
    rfl

/-- A run puts out the operands of its tokens in their order. -/
theorem operands_of_run (h : run stack tokens = (moves, some rest)) :
    Token.operands (output moves) = Token.operands tokens := by
  induction tokens generalizing stack moves with
  | nil =>
    cases h
    rfl
  | cons t tokens ih =>
    obtain ⟨first, next, later, stepped, ran, rfl⟩ := run_cons_eq_some_iff.mp h
    rw [output_append, Token.operands_append, operands_of_step stepped, ih ran,
      ← Token.operands_append, List.singleton_append]

/-! ### Operators are put out or wait -/

@[simp] theorem operators_map_operator (os : List Operator) :
    Token.operators (os.map .operator) = os := by
  induction os with
  | nil => rfl
  | cons o os ih => rw [List.map_cons, Token.operators_cons_operator, ih]

/-- What a step puts out and what waits after it are the operator of its token, if it has
one, and what waited before it. -/
theorem operators_of_step (h : step t stack = some (moves, rest)) :
    (Token.operators (output moves) ++ waiting rest).Perm
      (Token.operators [t] ++ waiting stack) := by
  cases t with
  | operand a =>
    cases h
    exact .refl _
  | operator o =>
    cases h
    obtain ⟨flushed, moved, waited⟩ := exists_waiting_eq_append o stack
    rw [moved, output_map_flush, operators_map_operator, waited]
    -- The incoming operator comes to wait below those that it sends out.
    exact List.perm_middle
  | lparen =>
    cases h
    exact .refl _
  | rparen =>
    obtain ⟨os, rfl, rfl⟩ := close_eq_some_iff.mp h
    rw [output_map_release, operators_map_operator, waiting_append, waiting_map_operator]
    exact .refl _

/-- What a run puts out and what waits after it are the operators of its tokens and what
waited before it. -/
theorem operators_of_run (h : run stack tokens = (moves, some rest)) :
    (Token.operators (output moves) ++ waiting rest).Perm
      (Token.operators tokens ++ waiting stack) := by
  induction tokens generalizing stack moves with
  | nil =>
    cases h
    exact .refl _
  | cons t tokens ih =>
    obtain ⟨first, next, later, stepped, ran, rfl⟩ := run_cons_eq_some_iff.mp h
    rw [output_append, Token.operators_append, List.append_assoc]
    calc
      List.Perm _ (Token.operators (output first) ++ (Token.operators tokens ++ waiting next)) :=
        (ih ran).append_left _
      List.Perm _ (Token.operators tokens ++ (Token.operators (output first) ++ waiting next)) :=
        List.perm_append_comm_assoc _ _ _
      List.Perm _ (Token.operators tokens ++ (Token.operators [t] ++ waiting stack)) :=
        (operators_of_step stepped).append_left _
      List.Perm _ (Token.operators [t] ++ (Token.operators tokens ++ waiting stack)) :=
        List.perm_append_comm_assoc _ _ _
      _ = Token.operators (t :: tokens) ++ waiting stack := by
        rw [← List.append_assoc, ← Token.operators_append, List.singleton_append]

/-- What a run from the empty stack puts out and what waits after it are the operators of its
tokens. -/
theorem operators_of_run_nil (h : run [] tokens = (moves, some rest)) :
    (Token.operators (output moves) ++ waiting rest).Perm (Token.operators tokens) := by
  simpa using operators_of_run h

/-! ### Below an open group -/

theorem close_append (h : close stack = some (moves, rest)) (base : List Pending) :
    close (stack ++ base) = some (moves, rest ++ base) := by
  obtain ⟨os, rfl, rfl⟩ := close_eq_some_iff.mp h
  refine close_eq_some_iff.mpr ⟨os, ?_, rfl⟩
  rw [List.append_assoc, List.cons_append]

/-- A step above an open group leaves what lies below alone. -/
theorem step_append_group (h : step t stack = some (moves, rest)) (base : List Pending) :
    step t (stack ++ .group :: base) = some (moves, rest ++ .group :: base) := by
  cases t with
  | operand a =>
    cases h
    rfl
  | operator o =>
    cases h
    rw [step, flush_append_group]
    rfl
  | lparen =>
    cases h
    rfl
  | rparen => exact close_append h (.group :: base)

/-- A run above an open group leaves what lies below alone. -/
theorem run_append_group (h : run stack tokens = (moves, some rest)) (base : List Pending) :
    run (stack ++ .group :: base) tokens = (moves, some (rest ++ .group :: base)) := by
  induction tokens generalizing stack moves with
  | nil =>
    cases h
    rfl
  | cons t tokens ih =>
    obtain ⟨first, next, later, stepped, ran, rfl⟩ := run_cons_eq_some_iff.mp h
    exact run_cons_eq_some_iff.mpr
      ⟨first, next ++ .group :: base, later, step_append_group stepped base, ih ran, rfl⟩

/-! ### Groups on the stack count open parentheses -/

/-- A step opens or closes the group that its token opens or closes. -/
theorem groups_of_step (h : step t stack = some (moves, rest)) :
    groups rest + closes [t] = groups stack + opens [t] := by
  cases t with
  | operand a =>
    cases h
    rfl
  | operator o =>
    cases h
    obtain ⟨flushed, split, -⟩ := flush_eq o stack
    -- What is flushed holds no group.
    have kept := congrArg groups split
    rw [groups_append, groups_map_operator, Nat.zero_add] at kept
    rw [groups_operator, ← kept]
    rfl
  | lparen =>
    cases h
    exact groups_group
  | rparen =>
    obtain ⟨os, rfl, -⟩ := close_eq_some_iff.mp h
    rw [groups_append, groups_map_operator, groups_group, Nat.zero_add]
    rfl

/-- After a run the groups on the stack are those opened and not closed. -/
theorem groups_of_run (h : run stack tokens = (moves, some rest)) :
    groups rest + closes tokens = groups stack + opens tokens := by
  induction tokens generalizing stack moves with
  | nil =>
    cases h
    rfl
  | cons t tokens ih =>
    obtain ⟨first, next, later, stepped, ran, -⟩ := run_cons_eq_some_iff.mp h
    -- What the step adds to the balance and what the run adds make up the whole.
    have step_groups := groups_of_step stepped
    have run_groups := ih ran
    rw [← List.singleton_append, Token.opens_append, Token.closes_append]
    omega

/-- After a run from the empty stack the groups on the stack are those left open. -/
theorem groups_of_run_nil (h : run [] tokens = (moves, some rest)) :
    groups rest + closes tokens = opens tokens := by
  have counted := groups_of_run h
  rwa [groups_nil, Nat.zero_add] at counted

/-- A step has an answer exactly when its token closes no more groups than are open. -/
theorem exists_step_iff :
    (∃ moves rest, step t stack = some (moves, rest)) ↔ closes [t] ≤ groups stack + opens [t] := by
  cases t with
  | operand a => exact ⟨fun _ => Nat.zero_le _, fun _ => ⟨_, _, rfl⟩⟩
  | operator o => exact ⟨fun _ => Nat.zero_le _, fun _ => ⟨_, _, rfl⟩⟩
  | lparen => exact ⟨fun _ => Nat.zero_le _, fun _ => ⟨_, _, rfl⟩⟩
  | rparen =>
    change (∃ moves rest, close stack = some (moves, rest)) ↔ 1 ≤ groups stack + 0
    cases closed : close stack with
    | none =>
      have empty := close_eq_none_iff.mp closed
      simp [empty]
    | some next =>
      have nonempty : groups stack ≠ 0 := by
        intro empty
        rw [close_eq_none_iff.mpr empty] at closed
        cases closed
      exact ⟨fun _ => Nat.pos_of_ne_zero nonempty, fun _ => ⟨next.1, next.2, rfl⟩⟩

/-- A run goes through exactly when no beginning of the tokens closes more groups than are
open. -/
theorem exists_run_iff :
    (∃ moves rest, run stack tokens = (moves, some rest)) ↔
      ∀ start, start <+: tokens → closes start ≤ groups stack + opens start := by
  constructor
  · -- The beginning was run too, and left as many groups as it opened and did not close.
    rintro ⟨moves, final, ran⟩ start ⟨others, rfl⟩
    obtain ⟨first, rest, later, ran, -⟩ := run_append_eq_some_iff.mp ran
    have counted := groups_of_run ran
    omega
  · intro bounded
    induction tokens generalizing stack with
    | nil => exact ⟨[], stack, rfl⟩
    | cons t tokens ih =>
      -- The bound on the one-token beginning gives the step, those on the longer ones the rest.
      obtain ⟨first, next, stepped⟩ := exists_step_iff.mpr
        (bounded [t] (List.prefix_append [t] tokens))
      have counted := groups_of_step stepped
      have left : ∀ start, start <+: tokens → closes start ≤ groups next + opens start := by
        intro start beginning
        have whole := bounded (t :: start) ((List.prefix_cons_inj t).mpr beginning)
        rw [← List.singleton_append, Token.opens_append, Token.closes_append] at whole
        omega
      obtain ⟨later, final, ran⟩ := ih left
      exact ⟨first ++ later, final,
        run_cons_eq_some_iff.mpr ⟨first, next, later, stepped, ran, rfl⟩⟩

/-- Contained tokens are put into postfix order by a run that goes through. -/
theorem exists_run_of_contained (h : Token.Contained tokens) :
    ∃ moves rest, run [] tokens = (moves, some rest) :=
  exists_run_iff.mpr fun start beginning => by simpa using h start beginning

/-- Only on contained tokens a run goes through from the empty stack. -/
theorem contained_of_run (h : run [] tokens = (moves, some rest)) : Token.Contained tokens := by
  intro start beginning
  have bounded := exists_run_iff.mp ⟨moves, rest, h⟩ start beginning
  rwa [groups_nil, Nat.zero_add] at bounded

/-- Tokens have no postfix order exactly if they close a group too many, and they are refused for
that. -/
theorem toPostfix_eq_error_iff_overcloses {cause : ParseError} :
    toPostfix tokens = .error cause ↔ cause = .unbalancedParenthesis ∧ Token.Overcloses tokens := by
  rw [toPostfix_eq_error_iff, Token.overcloses_iff_not_contained, and_comm]
  refine and_congr_right fun _ => ⟨?_, ?_⟩
  · intro broken contained
    obtain ⟨moves, rest, ran⟩ := exists_run_of_contained contained
    rw [ran] at broken
    cases broken
  · intro overclosed
    rcases ran : run [] tokens with ⟨moves, _ | rest⟩
    · rfl
    · exact absurd (contained_of_run ran) overclosed

theorem toPostfix_eq_unbalancedParenthesis_iff :
    toPostfix tokens = .error .unbalancedParenthesis ↔ Token.Overcloses tokens := by
  rw [toPostfix_eq_error_iff_overcloses, and_iff_right rfl]

/-- Only contained tokens have a postfix order. -/
theorem contained_of_toPostfix {order : List Token} (h : toPostfix tokens = .ok order) :
    Token.Contained tokens := by
  obtain ⟨moves, rest, ran, -⟩ := exists_run_of_toPostfix h
  exact contained_of_run ran

/-! ### Stacks are ascending -/

theorem Ascending.of_append_right (h : Ascending (stack ++ rest)) : Ascending rest := by
  induction stack with
  | nil => exact h
  | cons p stack ih =>
    cases p with
    | operator o => exact ih h.2
    | group => exact ih h

/-- Of an ascending stack a flush leaves nothing in the innermost group that binds as
tightly as the incoming operator. -/
theorem innermost_flush (o : Operator) (h : Ascending stack) :
    Innermost (fun s => s.precedence < o.precedence) (flush o stack).2 := by
  obtain ⟨flushed, split, -, -, stop⟩ := flush_eq o stack
  rw [split] at h
  have ascending := h.of_append_right
  match kept : (flush o stack).2 with
  | [] => trivial
  | .group :: below => trivial
  | .operator s :: below =>
    -- The flush stopped at `s`, and what lies below `s` binds even less tightly.
    rw [kept] at ascending
    have loose := stop s below kept
    exact ⟨loose, ascending.1.mono fun _ looser => Nat.lt_trans looser loose⟩

/-- A step keeps the stack ascending. -/
theorem ascending_of_step (h : step t stack = some (moves, rest)) (ascending : Ascending stack) :
    Ascending rest := by
  cases t with
  | operand a =>
    cases h
    exact ascending
  | operator o =>
    cases h
    -- The incoming operator comes to lie on what the flush has left, all of it looser.
    obtain ⟨flushed, split, -⟩ := flush_eq o stack
    have loose := innermost_flush o ascending
    rw [split] at ascending
    exact ⟨loose, ascending.of_append_right⟩
  | lparen =>
    cases h
    exact ascending
  | rparen =>
    obtain ⟨os, rfl, -⟩ := close_eq_some_iff.mp h
    exact ascending.of_append_right

/-- A run keeps the stack ascending. -/
theorem ascending_of_run (h : run stack tokens = (moves, some rest)) (ascending : Ascending stack) :
    Ascending rest := by
  induction tokens generalizing stack moves with
  | nil =>
    cases h
    exact ascending
  | cons t tokens ih =>
    obtain ⟨first, next, later, stepped, ran, -⟩ := run_cons_eq_some_iff.mp h
    exact ih ran (ascending_of_step stepped ascending)

/-! ### Ascending stacks are low -/

/-- Operators on top of the stack are in its innermost group. -/
theorem Innermost.of_map_operator_append {P : Operator → Prop} {os : List Operator}
    (h : Innermost P (os.map .operator ++ rest)) : ∀ o ∈ os, P o := by
  induction os with
  | nil => simp
  | cons o os ih => exact List.forall_mem_cons.mpr ⟨h.1, ih h.2⟩

/-- From the top of an ascending stack down its operators bind less and less tightly, as far as
there is no group between them. -/
theorem Ascending.loosening {os : List Operator} (h : Ascending (os.map .operator ++ rest)) :
    Loosening os := by
  induction os with
  | nil => exact .nil
  | cons o os ih => exact .cons h.1.of_map_operator_append (ih h.2)

/-- There are no more operators that loosen than there are levels of precedence for them. -/
theorem Loosening.length_le {os : List Operator} {low high : Nat} (h : Loosening os)
    (from_low : ∀ o ∈ os, low ≤ o.precedence) (below_high : ∀ o ∈ os, o.precedence < high) :
    os.length ≤ high - low := by
  induction os generalizing high with
  | nil => exact Nat.zero_le _
  | cons o os ih =>
    obtain ⟨looser, behind⟩ := List.pairwise_cons.mp h
    obtain ⟨first_from_low, from_low⟩ := List.forall_mem_cons.mp from_low
    have first_below_high := below_high o List.mem_cons_self
    -- Those behind the first have only the levels below its own.
    have fewer := ih behind from_low looser
    rw [List.length_cons]
    omega

theorem Loosening.length_le_of_le_precedence {os : List Operator} {o : Operator}
    (h : Loosening os) (tight : ∀ s ∈ os, o.precedence ≤ s.precedence) :
    os.length ≤ 2 - o.precedence :=
  h.length_le tight fun s _ => Nat.lt_succ_of_le s.precedence_le_one

theorem Loosening.length_le_two {os : List Operator} (h : Loosening os) : os.length ≤ 2 :=
  h.length_le (fun _ _ => Nat.zero_le _) fun s _ => Nat.lt_succ_of_le s.precedence_le_one

/-- An ascending stack has three entries at most for every group, and above them as many as there
are levels of precedence left to the innermost one. -/
theorem Ascending.length_le_of_innermost {high : Nat} (h : Ascending stack)
    (below_high : Innermost (fun o => o.precedence < high) stack) :
    stack.length ≤ 3 * groups stack + high := by
  induction stack generalizing high with
  | nil => exact Nat.zero_le _
  | cons p stack ih =>
    cases p with
    | operator o =>
      have lower := ih h.2 h.1
      have level := below_high.1
      rw [List.length_cons, groups_operator]
      omega
    | group =>
      -- Below the group both levels of precedence are free again.
      have lower := ih h (.of_forall fun o => Nat.lt_succ_of_le o.precedence_le_one)
      rw [List.length_cons, groups_group]
      omega

/-- An ascending stack has three entries at most for every group, and two more. -/
theorem Ascending.length_le (h : Ascending stack) : stack.length ≤ 3 * groups stack + 2 :=
  h.length_le_of_innermost (.of_forall fun o => Nat.lt_succ_of_le o.precedence_le_one)

end Postfix

end Arith
