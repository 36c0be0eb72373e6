import Arith.Expr.Postfix

/-!
# Visits go through the leaves in order

A visitor that leaves the inner nodes to the default handlers meets nothing but leaves. The handler
of a leaf sees the state that the handler of the leaf before it has left, so a visit is a fold over
the leaves from left to right, whatever the state is and whatever the handlers do with it. The
leaves are the operands of the postfix order, which another visitor writes.

A visitor that also takes down when an inner node is entered and left lists the whole expression.
The way out of a node comes when all below it has been met, so the list is nested like brackets. The
first stop tells the kind of the root, and the operands that follow are read each to its own end, so
the list tells the expression.

## Main definitions

* `Arith.Visitor.leaf`: what a visitor does at a leaf.
* `Arith.Visitor.LeavesOnly`: the visitors with the default handlers at the inner nodes.
* `Arith.Expr.stops`: all that a visit meets, in order.
* `Arith.Visitor.WellNested`: every way out is that of the innermost node that is open.

## Main results

* `Arith.Expr.accept_eq_foldl`: a visit with default inner handlers is a fold over the leaves.
* `Arith.Expr.toList_accept_itinerary`: the visitor that lists all it meets adds to what it has.
* `Arith.Expr.eq_of_stops_append`: what is met tells the expression and where it ends.
* `Arith.Expr.visits_go_through_leaves`: the traversals agree on the order of the leaves.
-/

namespace Arith

universe u

variable {σ : Type u}

namespace Visitor

/-- What the visitor does at a leaf. -/
def leaf (v : Visitor σ) (a : Operand) (state : σ) : σ :=
  match a with
  | .lit c => v.lit c state
  | .var c => v.var c state

/-- The handlers of the inner nodes are the default ones, so the visitor does something at leaves at
most. -/
structure LeavesOnly (v : Visitor σ) : Prop where
  binary : v.binary = walkBinary
  paren : v.paren = walkParen

/-- The stop at a leaf with the operand. -/
def Stop.ofOperand : Operand → Stop
  | .lit c => .lit c
  | .var c => .var c

/-- The operand at which the visitor stops, if it is a leaf that it stops at. -/
def Stop.operand? : Stop → Option Operand
  | .lit c => some (.lit c)
  | .var c => some (.var c)
  | .enter _ | .exit _ | .enterParen | .exitParen => none

/-- The ways out that are due after a stop, the innermost node's first, when those in `due` were due
before it. There is no answer if the stop is a way out and not the next one due. -/
def Stop.dueAfter (due : List Stop) : Stop → Option (List Stop)
  | .lit _ | .var _ => some due
  | .enter o => some (.exit o :: due)
  | .enterParen => some (.exitParen :: due)
  | .exit o => if due.head? = some (.exit o) then some due.tail else none
  | .exitParen => if due.head? = some .exitParen then some due.tail else none

/-- Every way out is that of the innermost node that is open, and in the end no node is open. -/
def WellNested (stops : List Stop) : Prop :=
  stops.foldlM Stop.dueAfter [] = some []

instance (stops : List Stop) : Decidable (WellNested stops) :=
  inferInstanceAs (Decidable (_ = _))

theorem Stop.operand?_ofOperand (a : Operand) : (ofOperand a).operand? = some a := by
  cases a <;> rfl

theorem Stop.ofOperand_injective {a a' : Operand} (h : ofOperand a = ofOperand a') : a = a' := by
  have told := congrArg operand? h
  rw [operand?_ofOperand, operand?_ofOperand] at told
  exact Option.some.inj told

end Visitor

namespace Expr

open Visitor (Stop WellNested)

/-- All that a visit meets: the leaves, and the ways into and out of the inner nodes. -/
def stops : Expr → List Stop
  | leaf a => [.ofOperand a]
  | binary o l r => .enter o :: (l.stops ++ r.stops ++ [.exit o])
  | paren e => .enterParen :: (e.stops ++ [.exitParen])

/-! ### Default handlers -/

theorem accept_leaf (v : Visitor σ) (a : Operand) (state : σ) :
    (leaf a).accept v state = v.leaf a state := by
  cases a with
  | lit c => exact accept_lit v state c
  | var c => exact accept_var v state c

/-- With the default handlers at the inner nodes a visit is a fold over the leaves from left to
right. -/
theorem accept_eq_foldl {v : Visitor σ} (h : v.LeavesOnly) (e : Expr) (state : σ) :
    e.accept v state = e.leaves.foldl (fun state a => v.leaf a state) state := by
  induction e generalizing state with
  | leaf a => exact accept_leaf v a state
  | binary o l r ihl ihr =>
    -- The right operand is visited from the state that the left one leaves.
    have visited : (binary o l r).accept v state = r.accept v (l.accept v state) := by
      rw [accept_binary, h.binary]
      rfl
    rw [visited, ihl, ihr, leaves, List.foldl_append]
  | paren e ih =>
    have visited : (paren e).accept v state = e.accept v state := by
      rw [accept_paren, h.paren]
      rfl
    rw [visited, ih, leaves]

/-! ### All that a visit meets -/

/-- The visitor adds what it meets to what it has listed. -/
theorem toList_accept_itinerary (e : Expr) (listed : Array Stop) :
    (e.accept Visitor.itinerary listed).toList = listed.toList ++ e.stops := by
  induction e generalizing listed with
  | leaf a =>
    rw [accept_leaf]
    cases a with
    | lit c => exact Array.toList_push
    | var c => exact Array.toList_push
  | binary o l r ihl ihr =>
    have pushed : (binary o l r).accept Visitor.itinerary listed =
        (r.accept Visitor.itinerary
          (l.accept Visitor.itinerary (listed.push (.enter o)))).push (.exit o) :=
      accept_binary _ listed o l r
    rw [pushed, Array.toList_push, ihr, ihl, stops]
    simp
  | paren e ih =>
    have pushed : (paren e).accept Visitor.itinerary listed =
        (e.accept Visitor.itinerary (listed.push .enterParen)).push .exitParen :=
      accept_paren _ listed e
    rw [pushed, Array.toList_push, ih, stops]
    simp

theorem accept_itinerary_toList (e : Expr) : (e.accept Visitor.itinerary #[]).toList = e.stops :=
  toList_accept_itinerary e #[]

/-- The leaves are met in their order. -/
theorem filterMap_operand?_stops (e : Expr) : e.stops.filterMap Stop.operand? = e.leaves := by
  induction e with
  | leaf a => cases a <;> rfl
  | binary o l r ihl ihr =>
    rw [stops, List.filterMap_cons_none rfl, List.filterMap_append, List.filterMap_append, ihl, ihr]
    exact List.append_nil _
  | paren e ih =>
    rw [stops, List.filterMap_cons_none rfl, List.filterMap_append, ih]
    exact List.append_nil _

theorem stops_binary_append (o : Operator) (l r : Expr) (rest : List Stop) :
    (binary o l r).stops ++ rest = .enter o :: (l.stops ++ (r.stops ++ .exit o :: rest)) := by
  rw [stops, List.cons_append, List.append_assoc, List.append_assoc, List.singleton_append]

theorem stops_paren_append (e : Expr) (rest : List Stop) :
    (paren e).stops ++ rest = .enterParen :: (e.stops ++ .exitParen :: rest) := by
  rw [stops, List.cons_append, List.append_assoc, List.singleton_append]

/-- A visit leaves the ways out due that were due before it. -/
theorem foldlM_dueAfter_stops (e : Expr) (due : List Stop) :
    e.stops.foldlM Stop.dueAfter due = some due := by
  induction e generalizing due with
  | leaf a => cases a <;> rfl
  | binary o l r ihl ihr =>
    -- The way out that the way in makes due is the next one due behind the operands.
    simp [stops, Stop.dueAfter, ihl, ihr]
  | paren e ih => simp [stops, Stop.dueAfter, ih]

theorem wellNested_stops (e : Expr) : WellNested e.stops :=
  foldlM_dueAfter_stops e []

/-- Nodes left in the order in which they were entered are not nested. -/
example : ¬ WellNested [.enter .add, .enterParen, .exit .add, .exitParen] := by decide

/-- What is met tells the expression that is visited first, and where its visit ends. -/
theorem eq_of_stops_append {e e' : Expr} {rest rest' : List Stop}
    (h : e.stops ++ rest = e'.stops ++ rest') : e = e' ∧ rest = rest' := by
  induction e generalizing e' rest rest' with
  | leaf a =>
    cases e' with
    | leaf a' =>
      obtain ⟨met, behind⟩ := List.cons.inj h
      exact ⟨congrArg leaf (Stop.ofOperand_injective met), behind⟩
    | binary o' l' r' => cases a <;> simp [stops, Stop.ofOperand] at h
    | paren inner' => cases a <;> simp [stops, Stop.ofOperand] at h
  | binary o l r ihl ihr =>
    cases e' with
    | leaf a' => cases a' <;> simp [stops, Stop.ofOperand] at h
    | binary o' l' r' =>
      -- The left operand ends where its own visit does, and then the right one.
      rw [stops_binary_append, stops_binary_append] at h
      obtain ⟨entered, from_left⟩ := List.cons.inj h
      obtain ⟨rfl, from_right⟩ := ihl from_left
      obtain ⟨rfl, from_exit⟩ := ihr from_right
      cases entered
      exact ⟨rfl, (List.cons.inj from_exit).2⟩
    | paren inner' => simp [stops] at h
  | paren inner ih =>
    cases e' with
    | leaf a' => cases a' <;> simp [stops, Stop.ofOperand] at h
    | binary o' l' r' => simp [stops] at h
    | paren inner' =>
      rw [stops_paren_append, stops_paren_append] at h
      obtain ⟨rfl, from_exit⟩ := ih (List.cons.inj h).2
      exact ⟨rfl, (List.cons.inj from_exit).2⟩

/-- A visitor that has the default handlers at the inner nodes folds its handlers of leaves over the
leaves from left to right, through all binary and grouping nodes, whatever these handlers are, one
or both of them given, and whatever the state is. The leaves are the operands of the postfix order
in their order. What the visitor lists that lists all it meets is nested well and has the leaves in
that same order, and different expressions are listed differently. -/
theorem visits_go_through_leaves :
    (∀ {σ : Type u} (v : Visitor σ), v.LeavesOnly → ∀ (e : Expr) (state : σ),
      e.accept v state = e.leaves.foldl (fun state a => v.leaf a state) state) ∧
    (∀ e : Expr, e.leaves = Token.operands e.toPostfix) ∧
    (∀ e : Expr, WellNested (e.accept Visitor.itinerary #[]).toList ∧
      (e.accept Visitor.itinerary #[]).toList.filterMap Stop.operand? = e.leaves) ∧
    ∀ e e' : Expr, e.accept Visitor.itinerary #[] = e'.accept Visitor.itinerary #[] ↔ e = e' := by
  refine ⟨fun v => accept_eq_foldl, ?_, ?_, ?_⟩
  · intro e
    exact e.operands_toPostfix.symm
  · intro e
    rw [accept_itinerary_toList]
    exact ⟨wellNested_stops e, filterMap_operand?_stops e⟩
  · intro e e'
    constructor
    · intro h
      have listed := congrArg Array.toList h
      rw [accept_itinerary_toList, accept_itinerary_toList] at listed
      have alone : e.stops ++ [] = e'.stops ++ [] := by rw [listed]
      exact (eq_of_stops_append alone).1
    · rintro rfl
      rfl

/-- The visitor that collects the variables has no handler but theirs. In `(a*4)+b` it finds `a` and
then `b`. -/
theorem visits_go_through_leaves_variables :
    Visitor.variableText.LeavesOnly ∧
    (binary .add (paren (binary .multiply (leaf (.var 'a')) (leaf (.lit '4'))))
      (leaf (.var 'b'))).accept Visitor.variableText "" = "ab" := by
  have leaves_only : Visitor.variableText.LeavesOnly := ⟨rfl, rfl⟩
  refine ⟨leaves_only, ?_⟩
  rw [visits_go_through_leaves.1 _ leaves_only]
  rfl

end Expr

end Arith
