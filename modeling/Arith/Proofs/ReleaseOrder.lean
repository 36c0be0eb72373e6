import Arith.Postfix.Release
import Arith.Proofs.OperatorStack

/-!
# The order in which tokens enter the output

The run of the operator stack is followed with the positions of the tokens in hand. After
`n` tokens each operator on the stack has a position, no later position before `n` ends its
wait, and the tokens read since then leave open exactly the groups that lie above it on the
stack. So position `n` ends the wait of an operator exactly when no group lies above it and
the token there is a closing parenthesis or binds no tighter. These are the operators that
the step takes off the stack, whichever of the two tokens it is, and what is left at the
end of the input has the length of the input as its release point.

## Main definitions

* `Arith.Postfix.Waits`: an operator read at a position waits with some groups above it.
* `Arith.Postfix.Placed`: the operators on the stack wait at given positions.
* `Arith.Postfix.Progress`: what has been put out and what waits after `n` tokens.

## Main results

* `Arith.Postfix.Waits.releases_iff`: when the next position ends a wait.
* `Arith.Postfix.Progress.step`: a step keeps the account of positions.
* `Arith.Postfix.toPostfix_eq_emission_order`: contained tokens are put out in the order of
  the positions at which they are emitted.
-/

namespace Arith

namespace Postfix

open Token (opens closes Contained Balanced)

variable {tokens : List Token} {n depth depth' i : Nat} {o : Operator} {t : Token}

/-! ### One waiting operator -/

/-- The operator `o` was read at position `i` before the first `n` tokens were over, no
position before `n` has ended its wait, and of the groups opened since then `depth` are
open. -/
structure Waits (tokens : List Token) (n depth i : Nat) (o : Operator) : Prop where
  read : i < n
  token : tokens[i]? = some (.operator o)
  contained : Contained ((tokens.take n).drop (i + 1))
  opened : opens ((tokens.take n).drop (i + 1)) = closes ((tokens.take n).drop (i + 1)) + depth
  unreleased : ∀ j, j < n → ¬ Releases tokens o i j

/-- What lies between a position and `n` grows by the token at position `n`. -/
theorem drop_take_succ (read : i < n) (token : tokens[n]? = some t) :
    (tokens.take (n + 1)).drop (i + 1) = (tokens.take n).drop (i + 1) ++ [t] := by
  obtain ⟨bound, same⟩ := List.getElem?_eq_some_iff.mp token
  rw [List.take_succ_eq_append_getElem bound, same, List.drop_append_of_le_length]
  rw [List.length_take]
  omega

namespace Waits

/-- An operator just read waits with nothing above it. -/
theorem of_read (token : tokens[n]? = some (.operator o)) : Waits tokens (n + 1) 0 n o where
  read := Nat.lt_succ_self n
  token := token
  contained := by
    rw [List.drop_eq_nil_of_le (List.length_take_le _ _)]
    intro start beginning
    rw [List.prefix_nil.mp beginning]
    exact Nat.le_refl _
  opened := by
    rw [List.drop_eq_nil_of_le (List.length_take_le _ _)]
    rfl
  unreleased j before releases := by
    have after := releases.1
    omega

/-- The next position ends a wait exactly when no group lies above the operator and the
token there ends waits. -/
theorem releases_iff (h : Waits tokens n depth i o) (token : tokens[n]? = some t) :
    Releases tokens o i n ↔ depth = 0 ∧ EndsWait o t := by
  have opened := h.opened
  constructor
  · rintro ⟨-, ⟨-, closed⟩, t', found, ends⟩
    rw [token] at found
    cases found
    exact ⟨by omega, ends⟩
  · rintro ⟨rfl, ends⟩
    exact ⟨h.read, ⟨h.contained, opened.symm⟩, t, token, ends⟩

/-- An operator goes on waiting past a token that does not end its wait, and the groups
above it change as the token opens or closes one. -/
theorem advance (h : Waits tokens n depth i o) (token : tokens[n]? = some t)
    (shift : depth + opens [t] = depth' + closes [t]) (stays : depth = 0 → ¬ EndsWait o t) :
    Waits tokens (n + 1) depth' i o := by
  have grown := drop_take_succ h.read token
  have opened : opens ((tokens.take n).drop (i + 1) ++ [t]) =
      closes ((tokens.take n).drop (i + 1) ++ [t]) + depth' := by
    have before := h.opened
    rw [Token.opens_append, Token.closes_append]
    omega
  refine ⟨Nat.lt_succ_of_lt h.read, h.token, ?_, ?_, ?_⟩
  · rw [grown]
    exact h.contained.concat (by omega)
  · rw [grown]
    exact opened
  · intro j before releases
    rcases Nat.lt_succ_iff_lt_or_eq.mp before with before | rfl
    · exact h.unreleased j before releases
    · obtain ⟨rfl, ends⟩ := (h.releases_iff token).mp releases
      exact stays rfl ends

/-- The first position that ends a wait is the release point. -/
theorem releasePoint_eq (h : Waits tokens n depth i o) (releases : Releases tokens o i n) :
    releasePoint tokens o i = n := by
  have ⟨_, _, t, found, _⟩ := releases
  obtain ⟨bound, -⟩ := List.getElem?_eq_some_iff.mp found
  have first : (List.range tokens.length).find? (fun j => Releases tokens o i j) = some n := by
    refine List.find?_range_eq_some.mpr ⟨decide_eq_true releases, List.mem_range.mpr bound, ?_⟩
    intro j before
    simpa using h.unreleased j before
  rw [releasePoint, first]
  rfl

/-- An operator that waits to the end has the length of the input as its release point. -/
theorem releasePoint_eq_length (h : Waits tokens tokens.length depth i o) :
    releasePoint tokens o i = tokens.length := by
  have never : (List.range tokens.length).find? (fun j => Releases tokens o i j) = none := by
    apply List.find?_range_eq_none.mpr
    intro j before
    simpa using h.unreleased j before
  rw [releasePoint, never]
  rfl

theorem emission_eq (h : Waits tokens n depth i o) :
    emission tokens i = some (releasePoint tokens o i) := by
  rw [emission, h.token]

end Waits

/-! ### All waiting operators -/

/-- The operators on the stack wait at the given positions, the topmost one at the latest,
where `depth` groups are open above the whole stack. -/
inductive Placed (tokens : List Token) (n : Nat) : Nat → List Pending → List Nat → Prop
  | nil {depth : Nat} : Placed tokens n depth [] []
  | group {depth : Nat} {stack : List Pending} {places : List Nat}
    (below : Placed tokens n (depth + 1) stack places) :
    Placed tokens n depth (.group :: stack) places
  | operator {depth i : Nat} {o : Operator} {stack : List Pending} {places : List Nat}
    (waits : Waits tokens n depth i o) (later : ∀ p ∈ places, p < i)
    (below : Placed tokens n depth stack places) :
    Placed tokens n depth (.operator o :: stack) (i :: places)

namespace Placed

variable {stack rest : List Pending} {places : List Nat}

theorem lt_of_mem (h : Placed tokens n depth stack places) : ∀ p ∈ places, p < n := by
  induction h with
  | nil => simp
  | group _ ih => exact ih
  | operator waits _ _ ih => exact List.forall_mem_cons.mpr ⟨waits.read, ih⟩

/-- The positions decrease from the top of the stack down. -/
theorem decreasing (h : Placed tokens n depth stack places) : places.Pairwise (· > ·) := by
  induction h with
  | nil => exact .nil
  | group _ ih => exact ih
  | operator _ later _ ih => exact .cons later ih

/-- The tokens at the positions are the waiting operators. -/
theorem map_getElem? (h : Placed tokens n depth stack places) :
    ((waiting stack).map Token.operator).map some = places.map (tokens[·]?) := by
  induction h with
  | nil => rfl
  | group _ ih => exact ih
  | operator waits _ _ ih =>
    rw [waiting_operator, List.map_cons, List.map_cons, List.map_cons, ih, waits.token]

/-- All operators go on waiting past a token that ends the wait of none in the innermost
group. Those outside it have a group above them and are not concerned. -/
theorem advance (h : Placed tokens n depth stack places) (token : tokens[n]? = some t)
    (shift : depth + opens [t] = depth' + closes [t])
    (stays : depth = 0 → Innermost (fun o => ¬ EndsWait o t) stack) :
    Placed tokens (n + 1) depth' stack places := by
  induction h generalizing depth' with
  | nil => exact .nil
  | group _ ih => exact .group (ih (by omega) fun outside => absurd outside (Nat.succ_ne_zero _))
  | operator waits later _ ih =>
    exact .operator (waits.advance token shift fun top => (stays top).1) later
      (ih shift fun top => (stays top).2)

/-- If position `n` ends the wait of the topmost operators, it is their release point, and
the others keep their positions. -/
theorem release {os : List Operator} (h : Placed tokens n 0 (os.map .operator ++ rest) places)
    (token : tokens[n]? = some t) (ends : ∀ o ∈ os, EndsWait o t) :
    ∃ released kept, places = released ++ kept ∧
      (os.map Token.operator).map some = released.map (tokens[·]?) ∧
      (∀ i ∈ released, emission tokens i = some n) ∧ Placed tokens n 0 rest kept := by
  induction os generalizing places with
  | nil => exact ⟨[], places, rfl, rfl, by simp, h⟩
  | cons o os ih =>
    obtain ⟨end_now, ends⟩ := List.forall_mem_cons.mp ends
    cases h with
    | operator waits _ below =>
      obtain ⟨released, kept, rfl, same, emitted, left⟩ := ih below ends
      refine ⟨_ :: released, kept, rfl, ?_, ?_, left⟩
      · rw [List.map_cons, List.map_cons, List.map_cons, same, waits.token]
      · have releases := (waits.releases_iff token).mpr ⟨rfl, end_now⟩
        refine List.forall_mem_cons.mpr ⟨?_, emitted⟩
        rw [waits.emission_eq, waits.releasePoint_eq releases]

/-- Whatever waits to the end of the input is emitted there. -/
theorem emission_eq_length (h : Placed tokens tokens.length depth stack places) :
    ∀ i ∈ places, emission tokens i = some tokens.length := by
  generalize length : tokens.length = n at h
  induction h with
  | nil => simp
  | group _ ih => exact ih
  | operator waits _ _ ih =>
    refine List.forall_mem_cons.mpr ⟨?_, ih⟩
    subst length
    rw [waits.emission_eq, waits.releasePoint_eq_length]

end Placed

/-! ### The account of a run -/

/-- After `n` tokens the positions in `order` have been put out, in the order of their
emission, and the operators at `places` wait. Between them they are all the positions that
are ever emitted. -/
structure Progress (tokens : List Token) (n : Nat) (moves : List Move) (stack : List Pending)
    (order places : List Nat) : Prop where
  written : (output moves).map some = order.map (tokens[·]?)
  sorted : order.Pairwise (Precedes tokens)
  emitted : ∀ i ∈ order, ∃ k ∈ emission tokens i, k < n
  placed : Placed tokens n 0 stack places
  complete : ∀ i, i < n → ∀ k ∈ emission tokens i, i ∈ order ∨ i ∈ places

/-- No position is emitted before itself. -/
theorem precedes_irrefl : ¬ Precedes tokens i i := by
  rintro ⟨k, key, k', key', order⟩
  have same : k = k' := Option.mem_unique key key'
  omega

/-- Positions that are emitted together, from the last one to the first, come behind those
emitted before. -/
theorem pairwise_precedes_append {order released : List Nat}
    (sorted : order.Pairwise (Precedes tokens))
    (emitted : ∀ i ∈ order, ∃ k ∈ emission tokens i, k < n)
    (together : ∀ i ∈ released, emission tokens i = some n)
    (decreasing : released.Pairwise (· > ·)) : (order ++ released).Pairwise (Precedes tokens) := by
  refine List.pairwise_append.mpr ⟨sorted, ?_, ?_⟩
  · apply decreasing.imp_of_mem
    intro i j mem mem' later
    exact ⟨n, together _ mem, n, together _ mem', .inr ⟨rfl, later⟩⟩
  · intro i before j now
    obtain ⟨k, key, earlier⟩ := emitted i before
    exact ⟨k, key, n, together j now, .inl earlier⟩

namespace Progress

variable {moves moves' : List Move} {stack rest : List Pending} {order places : List Nat}

/-- A step that puts out the positions emitted at `n` keeps the account if the others go on
waiting. -/
theorem extend {released places' : List Nat} (h : Progress tokens n moves stack order places)
    (written : (output moves').map some = released.map (tokens[·]?))
    (together : ∀ i ∈ released, emission tokens i = some n)
    (decreasing : released.Pairwise (· > ·)) (placed : Placed tokens (n + 1) 0 rest places')
    (kept : ∀ i ∈ places, i ∈ released ∨ i ∈ places')
    (taken : ∀ k ∈ emission tokens n, n ∈ released ∨ n ∈ places') :
    Progress tokens (n + 1) (moves ++ moves') rest (order ++ released) places' where
  written := by
    rw [output_append, List.map_append, List.map_append, h.written, written]
  sorted := pairwise_precedes_append h.sorted h.emitted together decreasing
  emitted i mem := by
    rcases List.mem_append.mp mem with before | now
    · obtain ⟨k, key, earlier⟩ := h.emitted i before
      exact ⟨k, key, Nat.lt_succ_of_lt earlier⟩
    · exact ⟨n, together i now, Nat.lt_succ_self n⟩
  placed := placed
  complete i before k key := by
    have sorted_in : i ∈ order ∨ i ∈ released ∨ i ∈ places' := by
      rcases Nat.lt_succ_iff_lt_or_eq.mp before with before | rfl
      · exact (h.complete i before k key).imp_right (kept i)
      · exact .inr (taken k key)
    rw [List.mem_append, or_assoc]
    exact sorted_in

/-- A step keeps the account: it puts out the positions that are emitted at its token. -/
theorem step (h : Progress tokens n moves stack order places) (ascending : Ascending stack)
    (token : tokens[n]? = some t) (stepped : step t stack = some (moves', rest)) :
    ∃ order' places', Progress tokens (n + 1) (moves ++ moves') rest order' places' := by
  cases t with
  | operand a =>
    cases stepped
    -- An operand is emitted at its own position, and every operator waits past it.
    have now : emission tokens n = some n := by rw [emission, token]
    have together : ∀ i ∈ [n], emission tokens i = some n := by
      intro i mem
      rw [List.mem_singleton.mp mem, now]
    have placed := h.placed.advance token rfl fun _ => Innermost.of_forall fun _ ends => ends
    refine ⟨_, _, h.extend ?_ together (List.pairwise_singleton _ n) placed
      (fun i mem => .inr mem) fun k _ => .inl (List.mem_singleton_self n)⟩
    rw [List.map_singleton, token]
    rfl
  | operator o =>
    cases stepped
    -- The flush takes exactly the operators of the innermost group whose wait ends here.
    obtain ⟨flushed, split, moved, tight, -⟩ := flush_eq o stack
    have loose := innermost_flush o ascending
    have before := h.placed
    rw [split] at before
    obtain ⟨released, kept, rfl, same, together, left⟩ := before.release token tight
    have waiting := left.advance token rfl fun _ =>
      loose.mono fun _ below => Nat.not_le_of_lt below
    have placed := waiting.operator (.of_read token) left.lt_of_mem
    refine ⟨_, _, h.extend ?_ together (List.pairwise_append.mp h.placed.decreasing).1 placed
      ?_ ?_⟩
    · rw [moved, output_map_flush, same]
    · intro i mem
      exact (List.mem_append.mp mem).imp_right (List.mem_cons_of_mem n)
    · intro k _
      exact .inr List.mem_cons_self
  | lparen =>
    cases stepped
    have skipped : emission tokens n = none := by rw [emission, token]
    have together : ∀ i ∈ ([] : List Nat), emission tokens i = some n := by simp
    have waiting := h.placed.advance token rfl fun _ => Innermost.of_forall fun _ ends => ends
    have placed := waiting.group
    refine ⟨_, _, h.extend rfl together .nil placed (fun i mem => .inr mem) ?_⟩
    intro k key
    rw [skipped] at key
    cases key
  | rparen =>
    have skipped : emission tokens n = none := by rw [emission, token]
    obtain ⟨os, rfl, rfl⟩ := close_eq_some_iff.mp stepped
    obtain ⟨released, kept, rfl, same, together, left⟩ :=
      h.placed.release token fun _ _ => trivial
    cases left with
    | group below =>
      -- The operators below the closed group had it above them, so they wait on.
      refine ⟨_, _, h.extend ?_ together (List.pairwise_append.mp h.placed.decreasing).1
        (below.advance token rfl fun outside => absurd outside (Nat.succ_ne_zero 0)) ?_ ?_⟩
      · rw [output_map_release, same]
      · intro i mem
        exact List.mem_append.mp mem
      · intro k key
        rw [skipped] at key
        cases key

end Progress

/-- Every run that goes through has an account of its positions. -/
theorem exists_progress {moves : List Move} {stack : List Pending} (bound : n ≤ tokens.length)
    (ran : run [] (tokens.take n) = (moves, some stack)) :
    ∃ order places, Progress tokens n moves stack order places := by
  induction n generalizing moves stack with
  | zero =>
    cases ran
    exact ⟨[], [], rfl, .nil, by simp, .nil, fun i before => absurd before (Nat.not_lt_zero i)⟩
  | succ n ih =>
    rw [List.take_succ_eq_append_getElem bound] at ran
    obtain ⟨first, between, later, reached, stepped, rfl⟩ := run_append_eq_some_iff.mp ran
    obtain ⟨order, places, progress⟩ := ih (Nat.le_of_succ_le bound) reached
    exact progress.step (ascending_of_run reached trivial) (List.getElem?_eq_getElem bound)
      (run_singleton_eq_some_iff.mp stepped)

/-- Exactly the positions of operands and operators are ever emitted. -/
theorem exists_emission_iff :
    (∃ k, k ∈ emission tokens i) ↔
      ∃ t, tokens[i]? = some t ∧ t ≠ .lparen ∧ t ≠ .rparen := by
  rw [emission]
  rcases tokens[i]? with _ | t
  · simp
  · cases t <;> simp

/-- Contained tokens are put out without their parentheses, each position once, in the
order of emission: an operand at its own position, an operator at its release point, and
operators that are released together from the last one to the first. -/
theorem toPostfix_eq_emission_order (contained : Contained tokens) :
    ∃ (order : List Nat) (result : List Token),
      (∀ i, i ∈ order ↔ ∃ t, tokens[i]? = some t ∧ t ≠ .lparen ∧ t ≠ .rparen) ∧
      order.Nodup ∧ order.Pairwise (Precedes tokens) ∧
      toPostfix tokens = .ok result ∧ result.map some = order.map (tokens[·]?) := by
  obtain ⟨moves, stack, ran⟩ := exists_run_of_contained contained
  obtain ⟨order, places, progress⟩ := exists_progress (Nat.le_refl _)
    (show run [] (tokens.take tokens.length) = (moves, some stack) by rw [List.take_length, ran])
  -- The end of the input emits all that still waits, as one more position would.
  have together := progress.placed.emission_eq_length
  have sorted := pairwise_precedes_append progress.sorted progress.emitted together
    progress.placed.decreasing
  refine ⟨order ++ places, _, ?_, ?_, sorted, toPostfix_of_run ran, ?_⟩
  · intro i
    rw [← exists_emission_iff, List.mem_append]
    constructor
    · intro mem
      rcases mem with mem | mem
      · obtain ⟨k, key, -⟩ := progress.emitted i mem
        exact ⟨k, key⟩
      · exact ⟨_, together i mem⟩
    · intro ever
      obtain ⟨k, key⟩ := ever
      obtain ⟨t, token, -⟩ := exists_emission_iff.mp ⟨k, key⟩
      exact progress.complete i (List.getElem?_eq_some_iff.mp token).1 k key
  · -- An order that no position precedes itself in lists no position twice.
    apply sorted.imp
    intro i j precedes same
    subst same
    exact precedes_irrefl precedes
  · rw [List.map_append, List.map_append, progress.written, progress.placed.map_getElem?]

/-- In `+ab*(c-d)/(e` the operand `b` stands beside `a`, the sum has no left operand and the
last group is never closed. The product is released by the division, at position 9. -/
theorem emission_order_ill_formed :
    ∃ tokens : List Token, tokens =
        [.operator .add, .operand (.var 'a'), .operand (.var 'b'), .operator .multiply, .lparen,
          .operand (.var 'c'), .operator .subtract, .operand (.var 'd'), .rparen,
          .operator .divide, .lparen, .operand (.var 'e')] ∧
      Contained tokens ∧ releasePoint tokens .multiply 3 = 9 ∧
      ∃ order : List Nat, order.Pairwise (Precedes tokens) ∧
        [Token.operand (.var 'a'), .operand (.var 'b'), .operand (.var 'c'), .operand (.var 'd'),
          .operator .subtract, .operator .multiply, .operand (.var 'e'), .operator .divide,
          .operator .add].map some = order.map (tokens[·]?) := by
  have contained : Contained
      [.operator .add, .operand (.var 'a'), .operand (.var 'b'), .operator .multiply, .lparen,
        .operand (.var 'c'), .operator .subtract, .operand (.var 'd'), .rparen,
        .operator .divide, .lparen, .operand (.var 'e')] := by decide
  obtain ⟨order, result, -, -, sorted, ordered, same⟩ := toPostfix_eq_emission_order contained
  obtain rfl := Except.ok.inj ordered
  exact ⟨_, rfl, contained, by decide, order, sorted, same⟩

end Postfix

end Arith
