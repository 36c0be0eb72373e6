import Arith.Proofs.OperatorStack

/-!
# How phrases run

The run on a phrase can be described without the stack it starts from. Atomic tokens leave
every stack as they found it. Tokens that run as a phrase of some level may leave operators
behind that bind as tightly as the level at least, provided that the innermost group they
start in binds less tightly. An operator that comes next then flushes exactly those if it
has the phrase on its left, and the stack below is the one that was there before.

Parentheses make a phrase atomic. Whatever waits at the closing one lies above the group
that the opening one put on the stack, and is released with it.

## Main definitions

* `Arith.Postfix.Atomic`: tokens that leave every stack as they found it.
* `Arith.Postfix.RunsAs`: tokens that are read as a phrase of a level, wherever they stand.

## Main results

* `Arith.Postfix.RunsAs.binary`: an operator joins a phrase of its own level on the left
  and one of the next level on the right.
* `Arith.Postfix.atomic_group`: a balanced list in parentheses is atomic.
* `Arith.Postfix.exists_context`: a context puts out the same around all atomic tokens.
-/

namespace Arith

namespace Postfix

open Token (Balanced operands)

variable {tokens order : List Token}

/-- From every stack the tokens put out `order` and leave the stack as it was. -/
def Atomic (tokens order : List Token) : Prop :=
  ∀ stack, ∃ moves, run stack tokens = (moves, some stack) ∧ output moves = order

/-- From every stack whose innermost group binds less tightly than `level`, the tokens put
out `order` up to operators that are left on top of the stack and bind at least that
tightly. -/
def RunsAs (level : Nat) (tokens order : List Token) : Prop :=
  ∀ stack, Innermost (fun s => s.precedence < level) stack →
    ∃ (moves : List Move) (os : List Operator),
      run stack tokens = (moves, some (os.map .operator ++ stack)) ∧
      output moves ++ os.map .operator = order ∧ ∀ s ∈ os, level ≤ s.precedence

/-! ### Atomic phrases -/

theorem atomic_operand (a : Operand) : Atomic [.operand a] [.operand a] :=
  fun _ => ⟨[.pass a], rfl, rfl⟩

theorem atomic_nil : Atomic [] [] :=
  fun _ => ⟨[], rfl, rfl⟩

/-- Atomic tokens one behind the other are atomic. -/
theorem Atomic.append {tokens' order' : List Token} (h : Atomic tokens order)
    (h' : Atomic tokens' order') : Atomic (tokens ++ tokens') (order ++ order') := by
  intro stack
  obtain ⟨moves, ran, written⟩ := h stack
  obtain ⟨moves', ran', written'⟩ := h' stack
  refine ⟨moves ++ moves', run_append_eq_some_iff.mpr ⟨_, _, _, ran, ran', rfl⟩, ?_⟩
  rw [output_append, written, written']

/-- Before other tokens atomic ones put out their order first. -/
theorem Atomic.toPostfix_append {tokens' order' : List Token} (h : Atomic tokens order)
    (h' : toPostfix tokens' = .ok order') : toPostfix (tokens ++ tokens') = .ok (order ++ order') := by
  obtain ⟨moves, ran, written⟩ := h []
  obtain ⟨moves', rest, ran', rfl⟩ := exists_run_of_toPostfix h'
  have whole := run_append_eq_some_iff.mpr ⟨moves, [], moves', ran, ran', rfl⟩
  rw [toPostfix_of_run whole, output_append, written, List.append_assoc]

/-- Parentheses make tokens atomic if above their group they leave nothing but operators. -/
theorem atomic_parentheses
    (inside : ∀ base, ∃ (moves : List Move) (os : List Operator),
      run (.group :: base) tokens = (moves, some (os.map .operator ++ .group :: base)) ∧
      output moves ++ os.map .operator = order) :
    Atomic ([.lparen] ++ tokens ++ [.rparen]) order := by
  intro base
  obtain ⟨moves, os, ran, written⟩ := inside base
  have opened : run base ([.lparen] ++ tokens) =
      (moves, some (os.map .operator ++ .group :: base)) :=
    run_append_eq_some_iff.mpr ⟨[], .group :: base, moves, rfl, ran, rfl⟩
  have closed : run (os.map .operator ++ .group :: base) [.rparen] =
      (os.map .release, some base) :=
    run_singleton_eq_some_iff.mpr (close_eq_some_iff.mpr ⟨os, rfl, rfl⟩)
  refine ⟨moves ++ os.map .release, ?_, ?_⟩
  · exact run_append_eq_some_iff.mpr ⟨moves, _, _, opened, closed, rfl⟩
  · rw [output_append, output_map_release, written]

/-- A balanced list has a postfix order, and in parentheses it is atomic with that order. -/
theorem atomic_group (balanced : Balanced tokens) :
    ∃ order, toPostfix tokens = .ok order ∧
      Atomic ([.lparen] ++ tokens ++ [.rparen]) order := by
  obtain ⟨moves, rest, ran⟩ := exists_run_of_contained balanced.1
  have empty : groups rest = 0 := by
    have counted := groups_of_run_nil ran
    have closed := balanced.2
    omega
  refine ⟨_, toPostfix_of_run ran, ?_⟩
  apply atomic_parentheses
  intro base
  -- Above the group the list runs as it does from the empty stack.
  have inside : run (.group :: base) tokens = (moves, some (rest ++ .group :: base)) :=
    run_append_group ran base
  refine ⟨moves, waiting rest, ?_, rfl⟩
  rw [inside, ← eq_map_operator_of_groups_eq_zero empty]

/-! ### Phrases of a level -/

/-- Atomic tokens are a phrase of every level. -/
theorem Atomic.runsAs (h : Atomic tokens order) (level : Nat) : RunsAs level tokens order := by
  intro stack _
  obtain ⟨moves, ran, written⟩ := h stack
  refine ⟨moves, [], ran, ?_, by simp⟩
  rw [List.map_nil, List.append_nil, written]

namespace RunsAs

variable {level level' : Nat} {left right leftOrder rightOrder : List Token}

/-- A phrase may be used where a looser one is asked for. -/
theorem loosen (looser : level ≤ level') (h : RunsAs level' tokens order) :
    RunsAs level tokens order := by
  intro stack loose
  obtain ⟨moves, os, ran, written, tight⟩ :=
    h stack (loose.mono fun _ below => Nat.lt_of_lt_of_le below looser)
  exact ⟨moves, os, ran, written, fun s mem => Nat.le_trans looser (tight s mem)⟩

/-- Parentheses make the loosest phrase atomic: a stack with a group on top has nothing in
its innermost group. -/
theorem parentheses (h : RunsAs 0 tokens order) :
    Atomic ([.lparen] ++ tokens ++ [.rparen]) order := by
  apply atomic_parentheses
  intro base
  obtain ⟨moves, os, ran, written, -⟩ := h (.group :: base) trivial
  exact ⟨moves, os, ran, written⟩

/-- An operator joins a phrase of its own level on its left with one of the next level on
its right. -/
theorem binary {o : Operator} (own : o.precedence = level) (hl : RunsAs level left leftOrder)
    (hr : RunsAs (level + 1) right rightOrder) :
    RunsAs level (left ++ .operator o :: right) (leftOrder ++ rightOrder ++ [.operator o]) := by
  subst own
  intro stack loose
  obtain ⟨moves, os, ran, written, tight⟩ := hl stack loose
  -- All that the left phrase leaves binds as tightly as the operator, nothing below does.
  have flushed : step (.operator o) (os.map .operator ++ stack) =
      some (os.map (.flush o), .operator o :: stack) := by
    rw [step, flush_map_operator_append tight loose]
  -- The right phrase starts above the operator, which binds less tightly than it.
  have lower : Innermost (fun s => s.precedence < o.precedence + 1) (.operator o :: stack) :=
    ⟨Nat.lt_succ_self _, loose.mono fun _ below => Nat.lt_succ_of_lt below⟩
  obtain ⟨moves', os', ran', written', tight'⟩ := hr (.operator o :: stack) lower
  have behind := run_cons_eq_some_iff.mpr ⟨_, _, _, flushed, ran', rfl⟩
  refine ⟨moves ++ (os.map (.flush o) ++ moves'), os' ++ [o], ?_, ?_, ?_⟩
  · rw [run_append_eq_some_iff.mpr ⟨_, _, _, ran, behind, rfl⟩]
    simp
  · rw [output_append, output_append, output_map_flush, ← written, ← written']
    simp
  · intro s mem
    rcases List.mem_append.mp mem with mem | mem
    · exact Nat.le_of_succ_le (tight' s mem)
    · obtain rfl := List.mem_singleton.mp mem
      exact Nat.le_refl _

/-- A phrase closes every group that it opens. -/
theorem balanced (h : RunsAs level tokens order) : Balanced tokens := by
  obtain ⟨moves, os, ran, -⟩ := h [] trivial
  rw [List.append_nil] at ran
  refine ⟨contained_of_run ran, ?_⟩
  have counted := groups_of_run_nil ran
  rwa [groups_map_operator, Nat.zero_add] at counted

/-- A phrase that is the whole input is put into its postfix order. -/
theorem toPostfix_eq (h : RunsAs level tokens order) : toPostfix tokens = .ok order := by
  obtain ⟨moves, os, ran, written, -⟩ := h [] trivial
  rw [toPostfix_of_run ran, List.append_nil, waiting_map_operator, written]

end RunsAs

/-! ### Contexts -/

/-- Around all atomic tokens a context puts out the same, with its own operands in their
order, or it fails for the same cause. -/
theorem exists_context (u v : List Token) :
    ∃ context : Except ParseError (List Token × List Token),
      (∀ w order, Atomic w order →
        toPostfix (u ++ w ++ v) =
          context.map fun (before, after) => before ++ order ++ after) ∧
      ∀ before after, context = .ok (before, after) →
        operands before = operands u ∧ operands after = operands v := by
  rcases ran_left : run [] u with ⟨moves, _ | stack⟩
  · -- The run breaks off before it comes to the atomic tokens.
    refine ⟨.error .unbalancedParenthesis, ?_, ?_⟩
    · intro w order _
      refine toPostfix_eq_error_iff.mpr ⟨?_, rfl⟩
      rw [List.append_assoc, run_append, ran_left]
    · intro before after impossible
      cases impossible
  · -- The atomic tokens hand the stack they got on to what comes behind them.
    have reached {w order : List Token} (atomic : Atomic w order) :
        ∃ within, run [] (u ++ w) = (moves ++ within, some stack) ∧ output within = order := by
      obtain ⟨within, ran, written⟩ := atomic stack
      refine ⟨within, ?_, written⟩
      exact run_append_eq_some_iff.mpr ⟨moves, stack, within, ran_left, ran, rfl⟩
    rcases ran_right : run stack v with ⟨moves', _ | final⟩
    · refine ⟨.error .unbalancedParenthesis, ?_, ?_⟩
      · intro w order atomic
        obtain ⟨within, ran, -⟩ := reached atomic
        refine toPostfix_eq_error_iff.mpr ⟨?_, rfl⟩
        rw [run_append, ran]
        simp only [ran_right]
      · intro before after impossible
        cases impossible
    · refine ⟨.ok (output moves, output moves' ++ (waiting final).map .operator), ?_, ?_⟩
      · intro w order atomic
        obtain ⟨within, ran, written⟩ := reached atomic
        have whole := run_append_eq_some_iff.mpr ⟨_, _, _, ran, ran_right, rfl⟩
        rw [toPostfix_of_run whole, output_append, output_append, written]
        simp [Except.map]
      · intro before after same
        cases same
        refine ⟨operands_of_run ran_left, ?_⟩
        rw [Token.operands_append, operands_of_run ran_right, operands_map_operator,
          List.append_nil]

end Postfix

end Arith
