import Arith.Expr.Postfix

/-!
# Postfix order determines the expression

Reading the postfix order of an expression leaves exactly that expression, without its
grouping nodes, on the stack, whatever lies below it and whatever comes behind. In the
other direction a stack of operands never forgets what it has read: written in postfix
order from the bottom up, it gives back the tokens that built it. The two facts together
make postfix order uniquely readable.

Reading looks only at what a token does to the stack, so tokens may be translated before they
are read or the expression afterwards, provided that the two translations go along.

## Main definitions

* `Arith.Expr.Translates`: a translation of tokens goes along with one of expressions.

## Main results

* `Arith.Expr.reduce_toPostfix_append`: the postfix order of an expression puts the
  expression on the stack.
* `Arith.Expr.flatMap_toPostfix_of_reduce`: the stack, written in postfix order, is what
  has been read.
* `Arith.Expr.reduce_nil_eq_ok_iff`: which tokens leave a given stack.
* `Arith.Expr.Translates.ofPostfix_flatMap`: translated tokens stand for the translated
  expression.
* `Arith.Expr.ofPostfix_eq_ok_iff_toPostfix`: tokens stand for an expression exactly when
  they are its postfix order.
* `Arith.Expr.postfix_inverse`: writing and reading postfix order undo each other.
-/

namespace Arith

namespace Expr

variable {stack rest : List Expr} {tokens : List Token}

/-! ### Reading what was written -/

/-- The postfix order of an expression puts the expression, without its grouping nodes, on
the stack. -/
theorem reduce_toPostfix_append (e : Expr) (stack : List Expr) (tokens : List Token) :
    reduce stack (e.toPostfix ++ tokens) = reduce (e.erase :: stack) tokens := by
  induction e generalizing stack tokens with
  | leaf a =>
    rw [toPostfix_leaf]
    rfl
  | binary o l r ihl ihr =>
    -- The right operand is read last and lies on top, where the operator looks for it.
    rw [toPostfix_binary, List.append_assoc, List.append_assoc, ihl, ihr]
    rfl
  | paren e ih =>
    rw [toPostfix_paren]
    exact ih stack tokens

/-- Expressions written one after the other pile up, the last one on top. -/
theorem reduce_flatMap_toPostfix (es stack : List Expr) :
    reduce stack (es.flatMap toPostfix) = .ok ((es.map erase).reverse ++ stack) := by
  induction es generalizing stack with
  | nil => rfl
  | cons e es ih =>
    rw [List.flatMap_cons, reduce_toPostfix_append, ih]
    simp

theorem toPostfix_ne_nil (e : Expr) : e.toPostfix ≠ [] := by
  induction e with
  | leaf a => simp
  | binary o l r _ _ => simp
  | paren e ih => simpa using ih

/-- Several expressions written one after the other are settled like the stack they pile
up to, on which the last one lies on top. -/
theorem ofPostfix_flatMap_append (leftovers : Leftovers) (below : List Expr) (last : Expr) :
    ofPostfix leftovers ((below ++ [last]).flatMap toPostfix) =
      settle leftovers (last.erase :: (below.map erase).reverse) := by
  have nonempty : (below ++ [last]).flatMap toPostfix ≠ [] := by
    simp [toPostfix_ne_nil]
  unfold ofPostfix
  rw [if_neg (by simpa using nonempty), reduce_flatMap_toPostfix, List.append_nil]
  simp

/-- An expression is read back without its grouping nodes. -/
theorem ofPostfix_toPostfix (leftovers : Leftovers) (e : Expr) :
    ofPostfix leftovers e.toPostfix = .ok e.erase := by
  have read := ofPostfix_flatMap_append leftovers [] e
  rw [List.nil_append, List.flatMap_singleton] at read
  rw [read]
  rfl

/-! ### The stack remembers what was read -/

/-- The stack, written in postfix order from the bottom up, is what it held at first,
followed by what has been read. -/
theorem flatMap_toPostfix_of_reduce (h : reduce stack tokens = .ok rest) :
    rest.reverse.flatMap toPostfix = stack.reverse.flatMap toPostfix ++ tokens := by
  fun_induction reduce stack tokens with
  | case1 stack =>
    obtain rfl := Except.ok.inj h
    rw [List.append_nil]
  | case2 stack a tokens ih =>
    rw [ih h]
    simp
  | case3 right left stack o tokens ih =>
    -- The operator stands behind its two operands in the stack's order too.
    rw [ih h]
    simp
  | case4 stack o tokens short => cases h
  | case5 => cases h
  | case6 => cases h

/-- Reading puts no grouping node on the stack. -/
theorem parenless_of_reduce (h : reduce stack tokens = .ok rest)
    (parenless : ∀ e ∈ stack, e.Parenless) : ∀ e ∈ rest, e.Parenless := by
  fun_induction reduce stack tokens with
  | case1 stack =>
    obtain rfl := Except.ok.inj h
    exact parenless
  | case2 stack a tokens ih => exact ih h (List.forall_mem_cons.mpr ⟨trivial, parenless⟩)
  | case3 right left stack o tokens ih =>
    obtain ⟨right_parenless, parenless⟩ := List.forall_mem_cons.mp parenless
    obtain ⟨left_parenless, parenless⟩ := List.forall_mem_cons.mp parenless
    exact ih h (List.forall_mem_cons.mpr ⟨⟨left_parenless, right_parenless⟩, parenless⟩)
  | case4 stack o tokens short => cases h
  | case5 => cases h
  | case6 => cases h

/-- The stack holds what its expressions spell in postfix order from the bottom up, and no
other tokens leave it. -/
theorem reduce_nil_eq_ok_iff :
    reduce [] tokens = .ok stack ↔
      tokens = stack.reverse.flatMap toPostfix ∧ ∀ e ∈ stack, e.Parenless := by
  constructor
  · intro h
    exact ⟨(flatMap_toPostfix_of_reduce h).symm, parenless_of_reduce h (by simp)⟩
  · rintro ⟨rfl, parenless⟩
    have same : stack.map erase = stack.map id :=
      List.map_congr_left fun e mem => erase_eq_self_iff.mpr (parenless e mem)
    rw [reduce_flatMap_toPostfix, List.append_nil, List.map_reverse, List.reverse_reverse, same,
      List.map_id]

/-- The topmost expression is spelled by the end of the tokens, and what comes before leaves
the expressions below it. -/
theorem exists_append_of_reduce {e : Expr} (h : reduce [] tokens = .ok (e :: rest)) :
    ∃ before, tokens = before ++ e.toPostfix ∧ reduce [] before = .ok rest := by
  obtain ⟨spelled, parenless⟩ := reduce_nil_eq_ok_iff.mp h
  refine ⟨rest.reverse.flatMap toPostfix, ?_, ?_⟩
  · rw [spelled]
    simp
  · exact reduce_nil_eq_ok_iff.mpr ⟨rfl, (List.forall_mem_cons.mp parenless).2⟩

/-- An expression spelled by the end of the tokens is the topmost one, and what comes before
leaves the stack below it. -/
theorem reduce_of_append_toPostfix {e : Expr}
    (h : reduce [] (tokens ++ e.toPostfix) = .ok stack) :
    ∃ below, reduce [] tokens = .ok below ∧ stack = e.erase :: below := by
  rw [reduce_append] at h
  cases read : reduce [] tokens with
  | error cause => simp [read] at h
  | ok below =>
    have top := reduce_toPostfix_append e below []
    rw [List.append_nil] at top
    simp only [read, top] at h
    exact ⟨below, rfl, (Except.ok.inj h).symm⟩

/-! ### Settling a stack -/

/-- A stack is settled to its topmost expression, which must be the only one if leftovers are
refused. -/
theorem settle_eq_ok_iff {leftovers : Leftovers} {e : Expr} :
    settle leftovers stack = .ok e ↔
      ∃ below, stack = e :: below ∧ (leftovers = .reject → below = []) := by
  match stack with
  | [] => simp [settle]
  | [root] => simp [settle, and_assoc]
  | root :: next :: rest => cases leftovers <;> simp [settle]

/-- Anything below the topmost expression is refused, with the height of the stack. -/
theorem settle_reject_of_ne_nil (root : Expr) (leftover : rest ≠ []) :
    settle .reject (root :: rest) = .error (.incompleteExpression 1 (rest.length + 1)) := by
  match rest with
  | [] => exact absurd rfl leftover
  | next :: rest => rfl

/-- Under the lenient reading nothing below the topmost expression matters. -/
theorem settle_keepTopmost (root : Expr) (rest : List Expr) :
    settle .keepTopmost (root :: rest) = .ok root := by
  cases rest <;> rfl

/-- A stack may be changed expression by expression before or after it is settled. -/
theorem settle_map (leftovers : Leftovers) (f : Expr → Expr) (stack : List Expr) :
    settle leftovers (stack.map f) = (settle leftovers stack).map f := by
  match stack with
  | [] => rfl
  | [root] => rfl
  | root :: next :: rest =>
    cases leftovers with
    | reject => simp [settle, Except.map]
    | keepTopmost => rfl

/-- Tokens that stand for an expression end in its postfix order, which is all of them if
leftovers are refused. -/
theorem exists_append_of_ofPostfix {leftovers : Leftovers} {e : Expr}
    (h : ofPostfix leftovers tokens = .ok e) :
    e.Parenless ∧
      ∃ before, tokens = before ++ e.toPostfix ∧ (leftovers = .reject → before = []) := by
  obtain ⟨-, stack, read, settled⟩ := ofPostfix_eq_ok_iff.mp h
  obtain ⟨below, rfl, alone⟩ := settle_eq_ok_iff.mp settled
  obtain ⟨before, rfl, read_before⟩ := exists_append_of_reduce read
  refine ⟨parenless_of_reduce read (by simp) e List.mem_cons_self, before, rfl, ?_⟩
  intro refused
  rw [alone refused] at read_before
  exact (reduce_nil_eq_ok_iff.mp read_before).1

/-! ### Reading translated tokens -/

/-- A translation of tokens in postfix order that goes along with a translation of
expressions: in place of an operand stand tokens that put the translated leaf on the stack,
and in place of an operator the one of the translated node. -/
structure Translates (f : Expr → Expr) (g : Token → List Token) : Prop where
  operand : ∀ a stack tokens,
    reduce stack (g (.operand a) ++ tokens) = reduce (f (leaf a) :: stack) tokens
  operator : ∀ o, ∃ o', g (.operator o) = [.operator o'] ∧
    ∀ left right, f (binary o left right) = binary o' (f left) (f right)
  lparen : g .lparen = [.lparen]
  rparen : g .rparen = [.rparen]

namespace Translates

variable {f : Expr → Expr} {g : Token → List Token}

/-- No token is translated to nothing. -/
theorem ne_nil (h : Translates f g) (t : Token) : g t ≠ [] := by
  intro empty
  cases t with
  | operand a =>
    -- Nothing would put nothing on the stack.
    have read := h.operand a [] []
    rw [empty] at read
    simp [reduce] at read
  | operator o =>
    obtain ⟨o', same, -⟩ := h.operator o
    rw [same] at empty
    cases empty
  | lparen => simp [h.lparen] at empty
  | rparen => simp [h.rparen] at empty

/-- Tokens may be translated before they are read onto a stack, or the stack afterwards. The
two stacks are equally high throughout, so the errors agree. -/
theorem reduce_flatMap (h : Translates f g) (stack : List Expr) (tokens : List Token) :
    reduce (stack.map f) (tokens.flatMap g) = (reduce stack tokens).map (List.map f) := by
  fun_induction reduce stack tokens with
  | case1 stack => rfl
  | case2 stack a tokens ih =>
    rw [← ih, List.flatMap_cons, h.operand]
    rfl
  | case3 right left stack o tokens ih =>
    obtain ⟨o', same, node⟩ := h.operator o
    rw [← ih, List.flatMap_cons, same]
    simp only [List.map_cons, node]
    rfl
  | case4 stack o tokens short =>
    obtain ⟨o', same, -⟩ := h.operator o
    rw [List.flatMap_cons, same]
    -- A translated stack is as short as it was.
    rcases stack with _ | ⟨right, _ | ⟨left, below⟩⟩
    · rfl
    · rfl
    · exact (short right left below rfl).elim
  | case5 => rw [List.flatMap_cons, h.lparen]; rfl
  | case6 => rw [List.flatMap_cons, h.rparen]; rfl

/-- Tokens may be translated before they are read, or their expression afterwards. -/
theorem ofPostfix_flatMap (h : Translates f g) (leftovers : Leftovers) (tokens : List Token) :
    ofPostfix leftovers (tokens.flatMap g) = (ofPostfix leftovers tokens).map f := by
  cases tokens with
  | nil => rfl
  | cons t tokens =>
    have nonempty : (t :: tokens).flatMap g ≠ [] := by simp [h.ne_nil]
    have read := h.reduce_flatMap [] (t :: tokens)
    rw [List.map_nil] at read
    unfold ofPostfix
    rw [if_neg (by simpa using nonempty), if_neg (by simp), read]
    cases reduce [] (t :: tokens) with
    | error cause => rfl
    | ok stack => exact settle_map leftovers f stack

end Translates

/-! ### Reading and writing undo each other -/

/-- Tokens stand for an expression, nothing being left over, exactly when they are its
postfix order. -/
theorem ofPostfix_eq_ok_iff_toPostfix {e : Expr} :
    ofPostfix .reject tokens = .ok e ↔ e.Parenless ∧ e.toPostfix = tokens := by
  constructor
  · intro h
    obtain ⟨parenless, before, rfl, nothing⟩ := exists_append_of_ofPostfix h
    rw [nothing rfl]
    exact ⟨parenless, rfl⟩
  · intro h
    obtain ⟨parenless, rfl⟩ := h
    rw [ofPostfix_toPostfix, erase_eq_self_iff.mpr parenless]

/-- Grouping nodes leave no trace in postfix order. -/
theorem toPostfix_erase (e : Expr) : e.erase.toPostfix = e.toPostfix :=
  (ofPostfix_eq_ok_iff_toPostfix.mp (ofPostfix_toPostfix .reject e)).2

/-- Two expressions have one postfix order exactly when they differ in grouping nodes only. -/
theorem toPostfix_eq_iff {e e' : Expr} : e.toPostfix = e'.toPostfix ↔ e.erase = e'.erase := by
  constructor
  · intro same
    -- Both expressions are read back from the one order.
    have read := ofPostfix_toPostfix .reject e
    rw [same, ofPostfix_toPostfix] at read
    exact (Except.ok.inj read).symm
  · intro same
    rw [← toPostfix_erase e, same, toPostfix_erase]

/-- Writing and reading postfix order undo each other. Tokens stand for an expression
exactly when they are the postfix order of an expression without grouping nodes. The
orders of several expressions, one behind the other, stand for none of them, for the only
one or for the last one, depending on how many there are and on what becomes of leftovers.
Reading therefore never fails on an order that was written, and a second time changes
nothing. -/
theorem postfix_inverse :
    (∀ (tokens : List Token) (e : Expr),
      ofPostfix .reject tokens = .ok e ↔ e.Parenless ∧ e.toPostfix = tokens) ∧
    (∀ leftovers : Leftovers,
      ofPostfix leftovers (([] : List Expr).flatMap toPostfix) = .error .emptyInput) ∧
    (∀ (leftovers : Leftovers) (e : Expr),
      ofPostfix leftovers ([e].flatMap toPostfix) = .ok e.erase) ∧
    (∀ (first : Expr) (between : List Expr) (last : Expr),
      ofPostfix .reject ((first :: between ++ [last]).flatMap toPostfix) =
        .error (.incompleteExpression 1 (first :: between ++ [last]).length) ∧
      ofPostfix .keepTopmost ((first :: between ++ [last]).flatMap toPostfix) =
        .ok last.erase) ∧
    (∀ e e' : Expr, e.toPostfix = e'.toPostfix ↔ e.erase = e'.erase) ∧
    (∀ (leftovers : Leftovers) (e : Expr), ∃ rebuilt : Expr,
      ofPostfix leftovers e.toPostfix = .ok rebuilt ∧
      ofPostfix leftovers rebuilt.toPostfix = .ok rebuilt) := by
  refine ⟨?_, ?_, ?_, ?_, ?_, ?_⟩
  · intro tokens e
    exact ofPostfix_eq_ok_iff_toPostfix
  · intro leftovers
    rfl
  · intro leftovers e
    rw [List.flatMap_singleton]
    exact ofPostfix_toPostfix leftovers e
  · intro first between last
    constructor
    · rw [ofPostfix_flatMap_append, settle_reject_of_ne_nil _ (by simp)]
      simp
    · rw [ofPostfix_flatMap_append, settle_keepTopmost]
  · intro e e'
    exact toPostfix_eq_iff
  · intro leftovers e
    refine ⟨e.erase, ofPostfix_toPostfix leftovers e, ?_⟩
    rw [toPostfix_erase]
    exact ofPostfix_toPostfix leftovers e

end Expr

end Arith
