import Arith.Parse

/-!
# Expressions obtained by working

Expressions come from reading texts, from reading the postfix order of expressions
already obtained, as it stands or as if it were infix, from combining two of them, and
from taking one apart. What is obtained in these ways has no grouping node, and its
leaves hold what a text can give them.

## Main definitions

* `Arith.Obtained`: the expressions that some sequence of these steps arrives at.
* `Arith.Expr.Sound`: no grouping node, and lexical operands at the leaves.
-/

namespace Arith

/-- The expressions that can be obtained from texts and from one another. -/
inductive Obtained : Expr → Prop
  | parse {config : Config} {text : String} {e : Expr} (read : Arith.parse config text = .ok e) :
    Obtained e
  | join {leftovers : Leftovers} {es : List Expr} {e : Expr} (parts : ∀ part ∈ es, Obtained part)
    (read : Expr.ofPostfix leftovers (es.flatMap Expr.toPostfix) = .ok e) : Obtained e
  | reorder {config : Config} {part e : Expr} (obtained : Obtained part)
    (read : ofInfix config part.toPostfix = .ok e) : Obtained e
  | binary {o : Operator} {left right : Expr} (left_obtained : Obtained left)
    (right_obtained : Obtained right) : Obtained (.binary o left right)
  | left {o : Operator} {left right : Expr} (whole : Obtained (.binary o left right)) :
    Obtained left
  | right {o : Operator} {left right : Expr} (whole : Obtained (.binary o left right)) :
    Obtained right
  | inner {inner : Expr} (whole : Obtained (.paren inner)) : Obtained inner

namespace Expr

/-- There is no grouping node, every literal holds an ASCII digit and every variable an
alphabetic character. -/
def Sound (e : Expr) : Prop :=
  e.Parenless ∧ ∀ a ∈ e.leaves, a.Lexical

/-- A binary node is sound exactly when both operands are. -/
theorem sound_binary_iff {o : Operator} {l r : Expr} :
    (binary o l r).Sound ↔ l.Sound ∧ r.Sound := by
  simp only [Sound, Parenless, leaves, List.mem_append]
  constructor
  · rintro ⟨⟨left, right⟩, lexical⟩
    exact ⟨⟨left, fun a mem => lexical a (.inl mem)⟩, right, fun a mem => lexical a (.inr mem)⟩
  · rintro ⟨⟨left, lexical⟩, right, lexical'⟩
    exact ⟨⟨left, right⟩, fun a mem => mem.elim (lexical a) (lexical' a)⟩

end Expr

end Arith
