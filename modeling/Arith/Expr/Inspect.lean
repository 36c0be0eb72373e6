import Arith.Expr.Visitor

/-!
# Expressions written out with their fields

An expression as a value with the names of its kinds and fields, as in
`Binary { operator: Add, left_operand: Literal('1'), right_operand: Variable('x') }`.

## Main definitions

* `Arith.Visitor.inspector`: the visitor, whose state is the text so far.
* `Arith.Expr.inspect`: the expression written out.

## Main results

* `Arith.Expr.accept_inspector`: a visit writes the expression out behind the text so far.
* `Arith.Expr.inspect_leaf`, `Arith.Expr.inspect_binary` and `Arith.Expr.inspect_paren`: each kind
  of expression written out.
-/

namespace Arith

/-- Writes each visited expression out behind the text so far. -/
def Visitor.inspector : Visitor String where
  lit c text := text ++ (Operand.lit c).inspect
  var c text := text ++ (Operand.var c).inspect
  binary o left right visit text :=
    let text := text ++ "Binary \x7b operator: " ++ o.name ++ ", left_operand: "
    let text := visit ⟨left, Expr.size_left_lt o left right⟩ text ++ ", right_operand: "
    visit ⟨right, Expr.size_right_lt o left right⟩ text ++ " \x7d"
  paren inner visit text := (walkParen inner visit (text ++ "Paren(")).push ')'

/-- The expression written out with its fields. -/
def Expr.inspect (e : Expr) : String :=
  e.accept Visitor.inspector ""

namespace Expr

variable (o : Operator) (l r inner : Expr) (text : String)

theorem accept_inspector_binary :
    (binary o l r).accept Visitor.inspector text =
      r.accept Visitor.inspector (l.accept Visitor.inspector
        (text ++ "Binary \x7b operator: " ++ o.name ++ ", left_operand: ") ++
          ", right_operand: ") ++ " \x7d" := by
  rw [accept_binary]
  rfl

theorem accept_inspector_paren :
    (paren inner).accept Visitor.inspector text =
      inner.accept Visitor.inspector (text ++ "Paren(") ++ ")" := by
  rw [accept_paren]
  rfl

/-- A visit writes the expression out behind the text so far. -/
theorem accept_inspector (e : Expr) (text : String) :
    e.accept Visitor.inspector text = text ++ e.inspect := by
  induction e generalizing text with
  | leaf a =>
    cases a with
    | lit c => simp [inspect, accept_lit, Visitor.inspector]
    | var c => simp [inspect, accept_var, Visitor.inspector]
  | binary o l r ihl ihr =>
    rw [inspect, accept_inspector_binary, accept_inspector_binary, ihl, ihr, ihl, ihr]
    simp [String.append_assoc]
  | paren inner ih =>
    rw [inspect, accept_inspector_paren, accept_inspector_paren, ih, ih]
    simp [String.append_assoc]

/-- A leaf is written as its operand. -/
theorem inspect_leaf (a : Operand) : (leaf a).inspect = a.inspect := by
  cases a with
  | lit c => simp [inspect, accept_lit, Visitor.inspector]
  | var c => simp [inspect, accept_var, Visitor.inspector]

/-- A binary node is written with the name of its operator and its two operands. -/
theorem inspect_binary :
    (binary o l r).inspect =
      "Binary \x7b operator: " ++ o.name ++ ", left_operand: " ++ l.inspect ++
        ", right_operand: " ++ r.inspect ++ " \x7d" := by
  rw [inspect, accept_inspector_binary, accept_inspector, accept_inspector, String.empty_append]

/-- A grouping node is written with what it groups. -/
theorem inspect_paren : (paren inner).inspect = "Paren(" ++ inner.inspect ++ ")" := by
  rw [inspect, accept_inspector_paren, accept_inspector, String.empty_append]

end Expr

end Arith
