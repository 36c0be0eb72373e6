import Arith.Parse
import Arith.Proofs.PostfixInverse

/-!
# The lenient reading extends the strict one

Both readings put the same stack together, and only an operator without its operands or a
parenthesis keeps them from doing so. They part where the stack is settled, and only if it
holds more than one expression: the strict reading then refuses it and the lenient one takes
the topmost expression.

What the lenient reading takes is therefore spelled by the end of the order. It is the only
end that stands for an expression, since the expressions below it on the stack are left by
what comes before, and an end that stands for an expression puts that one on top.

## Main definitions

* `Arith.Expr.LeavesOver`: an order ends in an expression and leaves others over before it.
* `Arith.Expr.Extends`: how the outcomes of the two readings are related.

## Main results

* `Arith.Expr.cause_of_reduce_error`: why an order cannot be read onto a stack.
* `Arith.Expr.leavesOver_of_reduce`: what the stack says about the ends of the order.
* `Arith.Expr.lenient_extends_strict`: the lenient reading extends the strict one.
-/

namespace Arith

namespace Expr

variable {stack below : List Expr} {order : List Token} {e : Expr} {cause : ParseError}

/-- The order ends in that of `e`, no other end of it stands for an expression, and what
comes before leaves `count` expressions over. -/
structure LeavesOver (order : List Token) (e : Expr) (count : Nat) : Prop where
  suffix : e.toPostfix <:+ order
  unique : ∀ part, part <:+ order → part ≠ [] →
    ((∃ e', ofPostfix .reject part = .ok e') ↔ part = e.toPostfix)
  before : ∀ rest, rest ++ e.toPostfix = order →
    (∃ below, reduce [] rest = .ok below ∧ below.length = count) ∧
    (count = 1 → ∃ e', ofPostfix .reject rest = .ok e') ∧
    (1 < count → ofPostfix .reject rest = .error (.incompleteExpression 1 count))

/-- The outcome of a strict reading and that of a lenient one of the same order: the lenient
one agrees unless expressions are left over, and then it keeps the last of them. -/
structure Extends (order : List Token) (strict lenient : Except ParseError Expr) : Prop where
  accepted : ∀ e, strict = .ok e → lenient = .ok e
  refused : ∀ cause, strict = .error cause → (∀ found, cause ≠ .incompleteExpression 1 found) →
    lenient = .error cause
  leftover : ∀ found, strict = .error (.incompleteExpression 1 found) →
    2 ≤ found ∧ ∃ e, lenient = .ok e ∧ LeavesOver order e (found - 1)

/-! ### Why an order cannot be read -/

/-- Reading fails at an operator with fewer than two operands or at a parenthesis. -/
theorem cause_of_reduce_error (h : reduce stack order = .error cause) :
    (∃ found, found < 2 ∧ cause = .incompleteExpression 2 found) ∨
      cause = .parenthesisInPostfix := by
  fun_induction reduce stack order with
  | case1 stack => cases h
  | case2 stack a order ih => exact ih h
  | case3 right left stack o order ih => exact ih h
  | case4 stack o order short =>
    obtain rfl := Except.error.inj h
    refine .inl ⟨stack.length, ?_, rfl⟩
    rcases stack with - | ⟨right, - | ⟨left, below⟩⟩
    · exact Nat.zero_lt_two
    · exact Nat.one_lt_two
    · exact (short right left below rfl).elim
  | case5 => exact .inr (Except.error.inj h).symm
  | case6 => exact .inr (Except.error.inj h).symm

/-! ### What the stack says about the ends of an order -/

/-- The stack says which end of the order stands for an expression and how many expressions
are left over before it. -/
theorem leavesOver_of_reduce (h : reduce [] order = .ok (e :: below)) :
    LeavesOver order e below.length where
  suffix := by
    obtain ⟨rest, rfl, -⟩ := exists_append_of_reduce h
    exact List.suffix_append rest e.toPostfix
  unique part ending nonempty := by
    have parenless := parenless_of_reduce h (by simp) e List.mem_cons_self
    constructor
    · -- An end that stands for an expression puts it on top, where `e` lies.
      rintro ⟨e', accepted⟩
      obtain ⟨parenless', rfl⟩ := ofPostfix_eq_ok_iff_toPostfix.mp accepted
      obtain ⟨rest, rfl⟩ := ending
      obtain ⟨below', -, same⟩ := reduce_of_append_toPostfix h
      rw [erase_eq_self_iff.mpr parenless'] at same
      rw [(List.cons.inj same).1]
    · rintro rfl
      exact ⟨e, ofPostfix_eq_ok_iff_toPostfix.mpr ⟨parenless, rfl⟩⟩
  before rest whole := by
    subst whole
    obtain ⟨below', read, same⟩ := reduce_of_append_toPostfix h
    obtain rfl := (List.cons.inj same).2
    refine ⟨⟨below, read, rfl⟩, ?_, ?_⟩
    · intro one
      obtain ⟨only, rfl⟩ := List.length_eq_one_iff.mp one
      exact ⟨only, ofPostfix_of_reduce .reject read⟩
    · intro several
      match below with
      | last :: next :: others =>
        rw [ofPostfix_of_reduce .reject read]
        exact settle_reject_of_ne_nil last (List.cons_ne_nil next others)

/-! ### The two readings side by side -/

/-- Either an order cannot be read at all, for a cause that does not speak of leftovers, or it
leaves a stack with something on it. -/
theorem refused_or_exists_stack (order : List Token) :
    (∃ cause, (∀ found, cause ≠ .incompleteExpression 1 found) ∧
      ∀ leftovers, ofPostfix leftovers order = .error cause) ∨
    ∃ e below, reduce [] order = .ok (e :: below) := by
  cases read : reduce [] order with
  | error cause =>
    refine .inl ⟨cause, ?_, fun leftovers => ofPostfix_of_reduce_error leftovers read⟩
    rcases cause_of_reduce_error read with ⟨few, -, rfl⟩ | rfl
    · simp
    · simp [ParseError.parenthesisInPostfix]
  | ok stack =>
    cases stack with
    | nil =>
      -- Nothing but the empty order leaves nothing.
      obtain ⟨rfl, -⟩ := reduce_nil_eq_ok_iff.mp read
      exact .inl ⟨.emptyInput, by simp [ParseError.emptyInput], fun _ => rfl⟩
    | cons e below => exact .inr ⟨e, below, rfl⟩

/-- Expressions are left over in a strict reading exactly when the stack holds more than one,
and as many are found as it holds. -/
theorem ofPostfix_reject_leftover_iff {found : Nat} :
    ofPostfix .reject order = .error (.incompleteExpression 1 found) ↔
      ∃ e below, reduce [] order = .ok (e :: below) ∧ below ≠ [] ∧ found = below.length + 1 := by
  constructor
  · intro h
    rcases refused_or_exists_stack order with ⟨cause, other, refused⟩ | ⟨e, below, read⟩
    · exact absurd (Except.error.inj ((refused .reject).symm.trans h)) (other found)
    · rw [ofPostfix_of_reduce .reject read] at h
      cases below with
      | nil => cases h
      | cons next below =>
        cases h
        exact ⟨e, next :: below, read, List.cons_ne_nil next below, rfl⟩
  · rintro ⟨e, below, read, leftover, rfl⟩
    rw [ofPostfix_of_reduce .reject read, settle_reject_of_ne_nil e leftover]

/-- Of every order the lenient reading extends the strict one. -/
theorem extends_ofPostfix (order : List Token) :
    Extends order (ofPostfix .reject order) (ofPostfix .keepTopmost order) := by
  rcases refused_or_exists_stack order with ⟨cause, other, refused⟩ | ⟨e, below, read⟩
  · rw [refused .reject, refused .keepTopmost]
    refine ⟨?_, fun _ same _ => same, ?_⟩
    · intro e impossible
      cases impossible
    · intro found same
      exact absurd (Except.error.inj same) (other found)
  · rw [ofPostfix_of_reduce .keepTopmost read, settle_keepTopmost,
      ofPostfix_of_reduce .reject read]
    cases below with
    | nil =>
      refine ⟨fun _ same => same, ?_, ?_⟩
      · intro cause impossible
        cases impossible
      · intro found impossible
        cases impossible
    | cons next below =>
      rw [settle_reject_of_ne_nil e (List.cons_ne_nil next below)]
      refine ⟨?_, ?_, ?_⟩
      · intro e impossible
        cases impossible
      · intro cause same other
        exact absurd (Except.error.inj same).symm (other _)
      · intro found same
        cases same
        exact ⟨by simp, e, rfl, leavesOver_of_reduce read⟩

/-- The lenient reading extends the strict one. What the strict reading accepts, the lenient
one reads alike; what it refuses for any cause but leftovers, the lenient one refuses for
that cause; and where `found` expressions are left, at least two of them, the lenient one
keeps the expression that the only acceptable end of the order stands for, before which
`found - 1` others are left over. So it is for the postfix order of every text, and a text
without one is refused by both alike. -/
theorem lenient_extends_strict :
    (∀ order : List Token,
      Extends order (ofPostfix .reject order) (ofPostfix .keepTopmost order)) ∧
    (∀ (text : String) (order : List Token), postfixOf text = .ok order →
      Extends order (parse .strict text) (parse .lenient text)) ∧
    ∀ (text : String) (cause : ParseError), postfixOf text = .error cause →
      parse .strict text = .error cause ∧ parse .lenient text = .error cause := by
  refine ⟨extends_ofPostfix, ?_, ?_⟩
  · intro text order ordered
    have read (config : Config) : parse config text = ofPostfix config.leftovers order := by
      rw [parse, ofInfix, ← postfixOf, ordered]
      rfl
    rw [read .strict, read .lenient]
    exact extends_ofPostfix order
  · intro text cause refused
    exact ⟨ofInfix_of_error refused, ofInfix_of_error refused⟩

/-- In `12(a-b)` two operands stand before the group. The lenient reading keeps the
difference, and no other end of the postfix order stands for an expression. -/
theorem lenient_extends_strict_two_left :
    ∃ order, postfixOf "12(a-b)" = .ok order ∧
      parse .strict "12(a-b)" = .error (.incompleteExpression 1 3) ∧
      ∃ e, parse .lenient "12(a-b)" = .ok e ∧
        e = .binary .subtract (.leaf (.var 'a')) (.leaf (.var 'b')) ∧ LeavesOver order e 2 := by
  have tokens : tokenize "12(a-b)" =
      [.operand (.lit '1'), .operand (.lit '2'), .lparen, .operand (.var 'a'),
        .operator .subtract, .operand (.var 'b'), .rparen] := by decide
  have ordered : postfixOf "12(a-b)" =
      .ok [.operand (.lit '1'), .operand (.lit '2'), .operand (.var 'a'), .operand (.var 'b'),
        .operator .subtract] := by
    rw [postfixOf, tokens]
    rfl
  have refused : parse .strict "12(a-b)" = .error (.incompleteExpression 1 3) := by
    rw [parse, tokens]
    rfl
  have same : parse .lenient "12(a-b)" =
      .ok (.binary .subtract (.leaf (.var 'a')) (.leaf (.var 'b'))) := by
    rw [parse, tokens]
    rfl
  obtain ⟨-, e, kept, before⟩ := (lenient_extends_strict.2.1 _ _ ordered).leftover 3 refused
  obtain rfl := Except.ok.inj (kept.symm.trans same)
  exact ⟨_, ordered, refused, _, kept, rfl, before⟩

end Expr

end Arith
