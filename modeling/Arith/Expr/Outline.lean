import Arith.Expr.Basic

/-!
# The indented outline

An expression as an indented tree with one line for each node. A leaf shows its
character, a binary node its operator's symbol and a grouping node `()`. The title
`expression` stands above, and the expression hangs below it as an only child.

```
expression
└─ +
   ├─ a
   └─ *
      ├─ b
      └─ c
```

## Main definitions

* `Arith.Expr.label`: the text of a node in the outline.
* `Arith.Expr.outlineFrom`: the lines of an expression below a given indentation.
* `Arith.Expr.outline`: the whole outline.
-/

namespace Arith

namespace Expr

/-- The text of the root in the outline. -/
def label : Expr → String
  | leaf a => a.char.toString
  | binary o _ _ => o.symbol.toString
  | paren _ => "()"

/-- Writes the lines of an expression behind `text`. The root's line starts with `first`
and the lines below it with `rest`, which every level extends by its branches. -/
def outlineFrom (first rest : String) : Expr → String → String
  | leaf a, text => text ++ first ++ (leaf a).label ++ "\n"
  | binary o left right, text =>
    let text := text ++ first ++ (binary o left right).label ++ "\n"
    let text := left.outlineFrom (rest ++ "├─ ") (rest ++ "│  ") text
    right.outlineFrom (rest ++ "└─ ") (rest ++ "   ") text
  | paren inner, text =>
    let text := text ++ first ++ (paren inner).label ++ "\n"
    inner.outlineFrom (rest ++ "└─ ") (rest ++ "   ") text

/-- The outline of the expression. -/
def outline (e : Expr) : String :=
  e.outlineFrom "└─ " "   " "expression\n"

end Expr

end Arith
