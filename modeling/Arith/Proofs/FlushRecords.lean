import Arith.Proofs.FaithfulLog

/-!
# Flush records follow precedence

The log of a conversion tells every flush with the operator that comes in and the one that it sends
out. The loop that flushes looks at one waiting operator at a time, so that each of its records is
in order is plain from the loop. That there are few of them is not: it holds because the operators
of a group bind tighter the higher they lie. What one operator flushes is taken from the top of such
a stack, so its records name operators that bind less and less tightly, and there are no more of
them than there are levels of precedence from its own upwards.

Over the whole conversion an operator is flushed once at most, and the last one that flushes is not
flushed itself. So there are fewer flushes than operators. The groups that are discarded are those
on the stack at the end, and there is such a stack only if the conversion goes through.

## Main definitions

* `Arith.Postfix.flushes` and `Arith.Logged.flushRecords`: who flushes whom, in moves and in a log.
* `Arith.Postfix.Flushable`: what one operator may flush.
* `Arith.Logged.ObeysPrecedence`: what the log of a conversion says about precedence.

## Main results

* `Arith.Postfix.exists_flushes_concat_operator`: what an operator flushes that comes after others.
* `Arith.Postfix.length_flushes_run_le`: the number of flushes in a run.
* `Arith.Logged.log_toPostfix_eq`: the log of a conversion, record by record.
* `Arith.Logged.map_message_log_toPostfix`: the same as it is read.
* `Arith.Logged.log_obeys_precedence`: the log of a conversion obeys precedence.
-/

namespace Arith

namespace Postfix

open Token (operators)

variable {stack rest : List Pending} {moves : List Move} {t : Token} {tokens : List Token}

/-- The incoming operator and the waiting one, if the move is a flush. -/
def Move.flush? : Move → Option (Operator × Operator)
  | .flush incoming stacked => some (incoming, stacked)
  | .pass _ | .release _ | .discard => none

/-- Who flushes whom among the moves, in their order. -/
def flushes (moves : List Move) : List (Operator × Operator) :=
  moves.filterMap Move.flush?

/-- What the operator `o` may flush: operators that bind at least as tightly as itself, each less
tightly than the one before. If `o` is additive these are two at most, a multiplicative operator and
then an additive one, and if it is multiplicative there is one at most. -/
structure Flushable (o : Operator) (stacked : List Operator) : Prop where
  tight : ∀ s ∈ stacked, o.precedence ≤ s.precedence
  loosening : Loosening stacked
  additive : o.precedence = 0 → stacked.length ≤ 2 ∧
    ∀ first second, stacked = [first, second] → first.precedence = 1 ∧ second.precedence = 0
  multiplicative : o.precedence = 1 → stacked.length ≤ 1

@[simp] theorem flushes_nil : flushes [] = [] := rfl

@[simp] theorem flushes_append (moves moves' : List Move) :
    flushes (moves ++ moves') = flushes moves ++ flushes moves' :=
  List.filterMap_append

@[simp] theorem flushes_map_flush (o : Operator) (os : List Operator) :
    flushes (os.map (.flush o)) = os.map (o, ·) := by
  induction os with
  | nil => rfl
  | cons s os ih =>
    rw [List.map_cons, List.map_cons, ← ih]
    rfl

@[simp] theorem flushes_map_release (os : List Operator) : flushes (os.map .release) = [] := by
  simp [flushes, Move.flush?]

theorem mem_flushes_iff {incoming stacked : Operator} :
    (incoming, stacked) ∈ flushes moves ↔ .flush incoming stacked ∈ moves := by
  induction moves with
  | nil => simp
  | cons move moves ih =>
    rw [← List.singleton_append, flushes_append, List.mem_append, List.mem_append, ih]
    cases move <;> simp [flushes, Move.flush?]

/-! ### What one operator flushes -/

/-- Operators that loosen and bind at least as tightly as another one may be flushed by it. -/
theorem flushable_of_loosening {o : Operator} {stacked : List Operator}
    (tight : ∀ s ∈ stacked, o.precedence ≤ s.precedence) (loosening : Loosening stacked) :
    Flushable o stacked where
  tight := tight
  loosening := loosening
  additive _ := by
    refine ⟨loosening.length_le_two, ?_⟩
    rintro first second rfl
    -- The two differ in precedence, and there are two levels.
    have looser := List.rel_of_pairwise_cons loosening List.mem_cons_self
    have level := first.precedence_le_one
    omega
  multiplicative level := by
    have few := loosening.length_le_of_le_precedence tight
    rwa [level] at few

theorem flushable_nil (o : Operator) : Flushable o [] :=
  flushable_of_loosening (by simp) .nil

/-- Of an ascending stack an operator flushes what may be flushed. -/
theorem exists_flush_eq_of_ascending (o : Operator) (ascending : Ascending stack) :
    ∃ stacked, (flush o stack).1 = stacked.map (.flush o) ∧ Flushable o stacked := by
  obtain ⟨stacked, split, moved, tight, -⟩ := flush_eq o stack
  rw [split] at ascending
  exact ⟨stacked, moved, flushable_of_loosening tight ascending.loosening⟩

/-- A token that is no operator flushes nothing. -/
theorem flushes_of_step (h : step t stack = some (moves, rest)) (other : ∀ o, t ≠ .operator o) :
    flushes moves = [] := by
  cases t with
  | operand a =>
    cases h
    rfl
  | operator o => exact absurd rfl (other o)
  | lparen =>
    cases h
    rfl
  | rparen =>
    obtain ⟨os, -, rfl⟩ := close_eq_some_iff.mp h
    exact flushes_map_release os

/-- The flushes up to a token come first among those of all tokens. -/
theorem flushes_run_prefix (read ahead : List Token) :
    flushes (run [] read).1 <+: flushes (run [] (read ++ ahead)).1 := by
  rw [run_append]
  rcases run [] read with ⟨moves, _ | stack⟩
  · exact List.prefix_refl _
  · rw [flushes_append]
    exact List.prefix_append _ _

/-- An operator adds its flushes to those before it, and they are flushes that it may do. -/
theorem exists_flushes_concat_operator (read : List Token) (o : Operator) :
    ∃ stacked, flushes (run [] (read ++ [.operator o])).1 =
      flushes (run [] read).1 ++ stacked.map (o, ·) ∧ Flushable o stacked := by
  rw [run_append]
  rcases ran : run [] read with ⟨moves, _ | stack⟩
  · -- Nothing is done after the run has broken off.
    exact ⟨[], (List.append_nil _).symm, flushable_nil o⟩
  · obtain ⟨stacked, moved, flushable⟩ :=
      exists_flush_eq_of_ascending o (ascending_of_run ran trivial)
    refine ⟨stacked, ?_, flushable⟩
    simp [run, step, moved]

/-- A token that is no operator adds no flush to those before it. -/
theorem flushes_concat_of_not_operator (read : List Token) (other : ∀ o, t ≠ .operator o) :
    flushes (run [] (read ++ [t])).1 = flushes (run [] read).1 := by
  rw [run_append]
  rcases run [] read with ⟨moves, _ | stack⟩
  · rfl
  · rcases stepped : step t stack with _ | ⟨moves', rest⟩
    · simp [run, stepped]
    · simp [run, stepped, flushes_of_step stepped other]

/-! ### All flushes of a run -/

/-- What a step flushes binds at least as tightly as the operator that comes in. -/
theorem precedence_le_of_flush_mem_step {incoming stacked : Operator}
    (h : step t stack = some (moves, rest)) (mem : .flush incoming stacked ∈ moves) :
    incoming.precedence ≤ stacked.precedence := by
  cases t with
  | operator o =>
    cases h
    obtain ⟨flushed, -, moved, tight, -⟩ := flush_eq o stack
    rw [moved] at mem
    obtain ⟨s, among, same⟩ := List.mem_map.mp mem
    cases same
    exact tight stacked among
  | operand a | lparen | rparen =>
    have none := flushes_of_step h (by simp)
    rw [← mem_flushes_iff, none] at mem
    cases mem

/-- What a run flushes binds at least as tightly as the operator that comes in, even if the run
breaks off. -/
theorem precedence_le_of_flush_mem_run {incoming stacked : Operator}
    (mem : .flush incoming stacked ∈ (run stack tokens).1) :
    incoming.precedence ≤ stacked.precedence := by
  refine forall_mem_run (P := fun move => ∀ incoming stacked, move = .flush incoming stacked →
    incoming.precedence ≤ stacked.precedence) ?_ stack tokens _ mem incoming stacked rfl
  rintro t stack moves rest stepped _ among incoming stacked rfl
  exact precedence_le_of_flush_mem_step stepped among

/-- What a step flushes no longer waits, and something waits after a step that flushes. -/
theorem length_flushes_step_le (h : step t stack = some (moves, rest)) :
    (flushes moves).length + (waiting rest).length ≤
        (operators [t]).length + (waiting stack).length ∧
      (flushes moves = [] ∨ 0 < (waiting rest).length) := by
  cases t with
  | operand a =>
    cases h
    exact ⟨Nat.le_refl _, .inl rfl⟩
  | operator o =>
    cases h
    obtain ⟨flushed, moved, waited⟩ := exists_waiting_eq_append o stack
    constructor
    · simp only [moved, waited, flushes_map_flush, List.length_map, List.length_append,
        waiting_operator, List.length_cons, Token.operators_cons_operator, Token.operators_nil,
        List.length_nil]
      omega
    · -- The incoming operator waits now.
      exact .inr (Nat.succ_pos _)
  | lparen =>
    cases h
    exact ⟨Nat.le_refl _, .inl rfl⟩
  | rparen =>
    obtain ⟨os, rfl, rfl⟩ := close_eq_some_iff.mp h
    simp

/-- A run flushes fewer operators than there are, waiting before it or among its tokens, if there
are any. -/
theorem length_flushes_run_le (stack : List Pending) (tokens : List Token) :
    (flushes (run stack tokens).1).length ≤
      (operators tokens).length + (waiting stack).length - 1 := by
  induction tokens generalizing stack with
  | nil => exact Nat.zero_le _
  | cons t tokens ih =>
    rw [run]
    cases stepped : step t stack with
    | none => exact Nat.zero_le _
    | some next =>
      obtain ⟨moves, rest⟩ := next
      obtain ⟨taken, some_wait⟩ := length_flushes_step_le stepped
      have later := ih rest
      rw [← List.singleton_append, Token.operators_append, List.length_append, flushes_append,
        List.length_append]
      -- Either the step flushes nothing, or an operator is left for the bound on what follows.
      rcases some_wait with none | some_wait
      · rw [none, List.length_nil]
        omega
      · omega

end Postfix

/-- The incoming operator and the waiting one, if the event is a flush. -/
def Event.flush? : Event → Option (Operator × Operator)
  | .flushed incoming stacked => some (incoming, stacked)
  | _ => none

namespace Logged

open Postfix (Flushable convert drain flushes groups run)
open Token (closes operators opens)

variable {tokens : List Token}

/-- Who flushes whom according to a log, in its order. -/
def flushRecords (log : List Event) : List (Operator × Operator) :=
  log.filterMap Event.flush?

/-- The number of groups on the stack that is left at the end, if there is one. -/
def discards (tokens : List Token) : Nat :=
  (run [] tokens).2.elim 0 groups

/-! ### The log record by record -/

/-- Of moves that discard nothing the flushes are shown. -/
theorem filterMap_ofMove?_eq_flushed {moves : List Postfix.Move} (kept : .discard ∉ moves) :
    moves.filterMap Event.ofMove? = (flushes moves).map fun r => .flushed r.1 r.2 := by
  induction moves with
  | nil => rfl
  | cons move moves ih =>
    obtain ⟨first, later⟩ := List.ne_and_not_mem_of_not_mem_cons kept
    cases move with
    | pass a => exact ih later
    | flush incoming stacked => exact congrArg _ (ih later)
    | release o => exact ih later
    | discard => exact absurd rfl first

/-- Of draining the stack the groups are shown. -/
theorem filterMap_ofMove?_drain (stack : List Postfix.Pending) :
    (drain stack).filterMap Event.ofMove? = List.replicate (groups stack) .discarded := by
  induction stack with
  | nil => rfl
  | cons p stack ih =>
    cases p with
    | operator o =>
      rw [Postfix.groups_operator]
      exact ih
    | group =>
      rw [Postfix.groups_group, List.replicate_succ, ← ih]
      rfl

/-- The log of a conversion: its flushes, the groups that it discards, and its result. -/
theorem log_toPostfix_eq (tokens : List Token) :
    (toPostfix tokens).log = (flushes (run [] tokens).1).map (fun r => .flushed r.1 r.2) ++
      List.replicate (discards tokens) .discarded ++
      ((Arith.toPostfix tokens).toOption.map .ordered).toList := by
  have shown := filterMap_ofMove?_eq_flushed (Postfix.discard_not_mem_run [] tokens)
  rw [log_toPostfix, convert, discards]
  rcases ran : run [] tokens with ⟨moves, _ | stack⟩
  · rw [ran] at shown
    rw [shown]
    simp
  · rw [ran] at shown
    rw [List.filterMap_append, shown, filterMap_ofMove?_drain]
    rfl

theorem flushRecords_append (log log' : List Event) :
    flushRecords (log ++ log') = flushRecords log ++ flushRecords log' :=
  List.filterMap_append

theorem flushRecords_map_flushed (records : List (Operator × Operator)) :
    flushRecords (records.map fun r => .flushed r.1 r.2) = records := by
  rw [flushRecords, List.filterMap_map]
  exact List.filterMap_some

/-- The flush records are the flushes of the run. -/
theorem flushRecords_log_toPostfix (tokens : List Token) :
    flushRecords (toPostfix tokens).log = flushes (run [] tokens).1 := by
  have discarded : flushRecords (List.replicate (discards tokens) .discarded) = [] := by
    simp [flushRecords, Event.flush?, List.filterMap_replicate]
  have ordered : flushRecords ((Arith.toPostfix tokens).toOption.map .ordered).toList = [] := by
    cases Arith.toPostfix tokens <;> rfl
  rw [log_toPostfix_eq, flushRecords_append, flushRecords_append, discarded, ordered,
    List.append_nil, List.append_nil]
  exact flushRecords_map_flushed _

/-- The log tells the flushes that are done. -/
theorem flushed_mem_log_toPostfix_iff {incoming stacked : Operator} :
    .flushed incoming stacked ∈ (toPostfix tokens).log ↔
      .flush incoming stacked ∈ (run [] tokens).1 := by
  rw [log_toPostfix_eq, ← Postfix.mem_flushes_iff]
  simp

theorem count_discarded_log_toPostfix (tokens : List Token) :
    (toPostfix tokens).log.count .discarded = discards tokens := by
  rw [log_toPostfix_eq]
  cases Arith.toPostfix tokens <;> simp [Except.toOption, List.count_eq_zero]

/-- If the conversion goes through, it discards the groups that are not closed. -/
theorem discards_add_closes {order : List Token} (h : Arith.toPostfix tokens = .ok order) :
    discards tokens + closes tokens = opens tokens := by
  obtain ⟨moves, rest, ran, -⟩ := Postfix.exists_run_of_toPostfix h
  rw [discards, ran]
  exact Postfix.groups_of_run_nil ran

/-- If the conversion fails, it discards nothing. -/
theorem discards_of_error {cause : ParseError} (h : Arith.toPostfix tokens = .error cause) :
    discards tokens = 0 := by
  rw [discards, (Postfix.toPostfix_eq_error_iff.mp h).1]
  rfl

/-- What is read in the log of a conversion: the flushes, each with its two symbols, a line for
every group discarded, and the postfix order if there is one. -/
theorem map_message_log_toPostfix (tokens : List Token) :
    (toPostfix tokens).log.map Event.message =
      (flushes (run [] tokens).1).map (fun r =>
        r.1.symbol.toString ++ " flushes " ++ r.2.symbol.toString) ++
      List.replicate (discards tokens) "discarding unmatched '('" ++
      ((Arith.toPostfix tokens).toOption.map fun order =>
        "postfix: " ++ Token.inspectAll order).toList := by
  rw [log_toPostfix_eq]
  simp only [List.map_append, List.map_map, List.map_replicate, ← Option.toList_map,
    Option.map_map]
  rfl

/-! ### What the log says about precedence -/

/-- What the log of a conversion says about precedence, with `log` for the conversion of any tokens.
The flushes are told first, then the groups discarded and then the result. Whatever is flushed binds
at least as tightly as the operator that comes in. The records of an operator stand together, behind
those of the tokens before it, and they name operators that it may flush; no other token has any.
There are fewer of them than there are operators, if there are any. As many groups are discarded as
are left open if the conversion goes through, and none if it fails. And every record reads as what
it is. -/
structure ObeysPrecedence (tokens : List Token) (log : List Token → List Event) : Prop where
  shape : ∃ count, log tokens =
    (flushRecords (log tokens)).map (fun r => .flushed r.1 r.2) ++
      List.replicate count .discarded ++ ((Arith.toPostfix tokens).toOption.map .ordered).toList
  binds : ∀ incoming stacked, .flushed incoming stacked ∈ log tokens →
    incoming.precedence ≤ stacked.precedence
  records : ∀ (read : List Token) (o : Operator) (ahead : List Token),
    tokens = read ++ .operator o :: ahead → ∃ stacked : List Operator,
      flushRecords (log (read ++ [.operator o])) =
        flushRecords (log read) ++ stacked.map (o, ·) ∧
      flushRecords (log (read ++ [.operator o])) <+: flushRecords (log tokens) ∧
      Flushable o stacked
  no_records : ∀ (read : List Token) (t : Token) (ahead : List Token),
    tokens = read ++ t :: ahead → (∀ o, t ≠ .operator o) →
      flushRecords (log (read ++ [t])) = flushRecords (log read)
  fewer : operators tokens ≠ [] →
    (flushRecords (log tokens)).length < (operators tokens).length
  discarded_of_ok : ∀ order, Arith.toPostfix tokens = .ok order →
    (log tokens).count .discarded + closes tokens = opens tokens
  discarded_of_error : ∀ cause, Arith.toPostfix tokens = .error cause →
    (log tokens).count .discarded = 0
  reads : (log tokens).map Event.message =
    (flushRecords (log tokens)).map (fun r =>
      r.1.symbol.toString ++ " flushes " ++ r.2.symbol.toString) ++
    List.replicate ((log tokens).count .discarded) "discarding unmatched '('" ++
    ((Arith.toPostfix tokens).toOption.map fun order =>
      "postfix: " ++ Token.inspectAll order).toList

/-- Whatever tokens are put into postfix order, the log of it obeys precedence, also if it breaks
off. -/
theorem log_obeys_precedence (tokens : List Token) :
    ObeysPrecedence tokens fun read => (toPostfix read).log where
  shape := by
    refine ⟨discards tokens, ?_⟩
    rw [flushRecords_log_toPostfix]
    exact log_toPostfix_eq tokens
  binds incoming stacked mem :=
    Postfix.precedence_le_of_flush_mem_run (flushed_mem_log_toPostfix_iff.mp mem)
  records read o ahead split := by
    obtain ⟨stacked, added, flushable⟩ := Postfix.exists_flushes_concat_operator read o
    have first := Postfix.flushes_run_prefix (read ++ [.operator o]) ahead
    rw [List.append_assoc, List.singleton_append, ← split] at first
    simp only [flushRecords_log_toPostfix]
    exact ⟨stacked, added, first, flushable⟩
  no_records read t ahead _ other := by
    simp only [flushRecords_log_toPostfix]
    exact Postfix.flushes_concat_of_not_operator read other
  fewer some_operator := by
    have bound := Postfix.length_flushes_run_le [] tokens
    have positive := List.length_pos_iff.mpr some_operator
    rw [Postfix.waiting_nil, List.length_nil] at bound
    rw [flushRecords_log_toPostfix]
    omega
  discarded_of_ok order ordered := by
    rw [count_discarded_log_toPostfix]
    exact discards_add_closes ordered
  discarded_of_error cause refused := by
    rw [count_discarded_log_toPostfix]
    exact discards_of_error refused
  reads := by
    rw [flushRecords_log_toPostfix, count_discarded_log_toPostfix]
    exact map_message_log_toPostfix tokens

/-- In `1+2*3-4` the subtraction flushes what binds tighter and then its equal. -/
example : flushRecords (toPostfix [.operand (.lit '1'), .operator .add, .operand (.lit '2'),
    .operator .multiply, .operand (.lit '3'), .operator .subtract, .operand (.lit '4')]).log =
    [(.subtract, .multiply), (.subtract, .add)] := by decide

end Logged

end Arith
