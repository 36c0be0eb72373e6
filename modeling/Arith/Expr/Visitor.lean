import Arith.Expr.Basic

/-!
# Visitors

A visitor has one handler for each kind of node and a state that the handlers change.
A handler for an inner node decides for itself when to visit what lies below: it is
given a way to visit any smaller expression. A handler that is not given does nothing at
a leaf and visits the operands from left to right at an inner node.

## Main definitions

* `Arith.Expr.Below`: the expressions with fewer than `n` nodes.
* `Arith.Visitor`: the handlers, with their defaults.
* `Arith.Expr.accept`: the visit of an expression.
* `Arith.Visitor.itinerary`: a visitor that lists all it meets, as `Arith.Visitor.Stop`s.
* `Arith.Visitor.variableText` and `Arith.Visitor.literalText`: visitors that collect the
  characters of one kind of leaf.

## Main results

* `Arith.Expr.accept_lit`, `Arith.Expr.accept_var`, `Arith.Expr.accept_binary` and
  `Arith.Expr.accept_paren`: a visit is the handler of the root, which visits smaller
  expressions by further visits.
-/

namespace Arith

universe u

/-- The expressions with fewer than `n` nodes. -/
abbrev Expr.Below (n : Nat) : Type :=
  { e : Expr // e.size < n }

namespace Visitor

variable {σ : Type u}

/-- Visits the left operand and then the right one, both smaller than their node. -/
def walkBinary (o : Operator) (left right : Expr)
    (visit : Expr.Below (Expr.binary o left right).size → σ → σ) (state : σ) : σ :=
  visit ⟨right, Expr.size_right_lt o left right⟩
    (visit ⟨left, Expr.size_left_lt o left right⟩ state)

/-- Visits what is grouped. -/
def walkParen (inner : Expr) (visit : Expr.Below (Expr.paren inner).size → σ → σ) (state : σ) : σ :=
  visit ⟨inner, Expr.size_inner_lt inner⟩ state

end Visitor

/-- Handlers for the kinds of nodes, acting on a state. A handler for an inner node gets a
function that visits any smaller expression. -/
structure Visitor (σ : Type u) where
  lit : Char → σ → σ := fun _ state => state
  var : Char → σ → σ := fun _ state => state
  binary : (o : Operator) → (left right : Expr) →
    (visit : Expr.Below (Expr.binary o left right).size → σ → σ) → σ → σ := Visitor.walkBinary
  paren : (inner : Expr) → (visit : Expr.Below (Expr.paren inner).size → σ → σ) → σ → σ :=
    Visitor.walkParen

namespace Expr

variable {σ : Type u}

/-- Visits the expression: the handler of its root is called. -/
def accept (v : Visitor σ) : Expr → σ → σ
  | leaf (.lit c), state => v.lit c state
  | leaf (.var c), state => v.var c state
  | binary o l r, state => v.binary o l r (fun e state => e.1.accept v state) state
  | paren inner, state => v.paren inner (fun e state => e.1.accept v state) state
termination_by e => e.size
decreasing_by
  · exact e.2
  · exact e.2

variable (v : Visitor σ) (state : σ)

theorem accept_lit (c : Char) : accept v (leaf (.lit c)) state = v.lit c state := by
  rw [accept]

theorem accept_var (c : Char) : accept v (leaf (.var c)) state = v.var c state := by
  rw [accept]

theorem accept_binary (o : Operator) (l r : Expr) :
    accept v (binary o l r) state = v.binary o l r (fun e state => e.1.accept v state) state := by
  rw [accept]

theorem accept_paren (inner : Expr) :
    accept v (paren inner) state = v.paren inner (fun e state => e.1.accept v state) state := by
  rw [accept]

end Expr

namespace Visitor

/-! ### Visitors that collect -/

/-- What a visitor meets: a leaf, or the way into or out of an inner node. -/
inductive Stop
  | lit (c : Char)
  | var (c : Char)
  | enter (o : Operator)
  | exit (o : Operator)
  | enterParen
  | exitParen
  deriving DecidableEq, Repr

/-- The stop in words. -/
def Stop.text : Stop → String
  | lit c => "literal " ++ c.toString
  | var c => "variable " ++ c.toString
  | enter o => "enter " ++ o.name
  | exit o => "exit " ++ o.name
  | enterParen => "enter Paren"
  | exitParen => "exit Paren"

/-- Lists all that is met: every leaf, and every inner node on the way in and out. -/
def itinerary : Visitor (Array Stop) where
  lit c stops := stops.push (.lit c)
  var c stops := stops.push (.var c)
  binary o left right visit stops :=
    (walkBinary o left right visit (stops.push (.enter o))).push (.exit o)
  paren inner visit stops :=
    (walkParen inner visit (stops.push .enterParen)).push .exitParen

/-- Collects the characters of the variables. -/
def variableText : Visitor String where
  var c text := text.push c

/-- Collects the characters of the literals. -/
def literalText : Visitor String where
  lit c text := text.push c

end Visitor

end Arith
