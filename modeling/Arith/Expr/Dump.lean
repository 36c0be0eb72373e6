import Arith.Expr.Visitor

/-!
# The one-line dump

An expression in one line without blanks: each node is its kind with its contents in
parentheses, as in `Binary(Literal(1)+Variable(x))`. The characters of the leaves stand
there as they are.

A chain such as `a+a+…+a` nests one level to the left for each operator, so the dump
walks down the left operands in a loop that keeps the operators and right operands it
passes, writes all the opening texts, and then takes up what it kept; only right
operands and groups are visited from within.

## Main definitions

* `Arith.Visitor.dump`: the visitor, whose state is the text so far.
* `Arith.Expr.render`: the dump of an expression.
* `Arith.Expr.renderAll`: several expressions dumped one after the other.
* `Arith.Expr.spelling`: the same text given by recursion on the expression.
-/

namespace Arith

namespace Visitor

variable {n : Nat}

/-- Walks down the left operands from an expression, putting each operator and right
operand it passes on top of `pending`; the answer is the first expression that is not a
binary node, and all that was kept. -/
def descend : (e : Expr) → e.size < n → List (Operator × Expr.Below n) →
    Expr.Below n × List (Operator × Expr.Below n)
  | .binary o left right, small, pending =>
    descend left (Nat.lt_trans (Expr.size_left_lt o left right) small)
      ((o, ⟨right, Nat.lt_trans (Expr.size_right_lt o left right) small⟩) :: pending)
  | .leaf a, small, pending => (⟨.leaf a, small⟩, pending)
  | .paren inner, small, pending => (⟨.paren inner, small⟩, pending)

/-- Writes the opening text of `count` binary nodes. -/
def openings : (count : Nat) → String → String
  | 0, text => text
  | count + 1, text => openings count (text ++ "Binary(")

/-- Writes what follows the left operand of each binary node that was kept, innermost
first. -/
def closings (visit : Expr.Below n → String → String) :
    List (Operator × Expr.Below n) → String → String
  | [], text => text
  | (o, right) :: pending, text =>
    closings visit pending ((visit right (text.push o.symbol)).push ')')

/-- Writes the dump of each visited expression behind the text so far. -/
def dump : Visitor String where
  lit c text := (text ++ "Literal(").push c |>.push ')'
  var c text := (text ++ "Variable(").push c |>.push ')'
  binary o left right visit text :=
    -- The node itself is the outermost of those whose right operand is kept.
    let spine := descend left (Expr.size_left_lt o left right)
      [(o, ⟨right, Expr.size_right_lt o left right⟩)]
    closings visit spine.2 (visit spine.1 (openings spine.2.length text))
  paren inner visit text := (walkParen inner visit (text ++ "Paren(")).push ')'

end Visitor

namespace Expr

/-- The dump of the expression. -/
def render (e : Expr) : String :=
  e.accept Visitor.dump ""

/-- The dumps of several expressions, written by one visitor one after the other. -/
def renderAll (es : List Expr) : String :=
  es.foldl (fun text e => e.accept Visitor.dump text) ""

/-- The text of the expression: its kind with its contents in parentheses. -/
def spelling : Expr → String
  | leaf (.lit c) => "Literal(" ++ c.toString ++ ")"
  | leaf (.var c) => "Variable(" ++ c.toString ++ ")"
  | binary o left right =>
    "Binary(" ++ left.spelling ++ o.symbol.toString ++ right.spelling ++ ")"
  | paren inner => "Paren(" ++ inner.spelling ++ ")"

end Expr

end Arith
