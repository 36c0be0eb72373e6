import Arith.Expr.Dump

/-!
# The walk down the left spine

The dump visitor does not write an expression in the order of its recursion. At a binary node it
walks down the left operands in a loop and keeps the operators and right operands that it passes;
then it writes all the opening texts, visits the expression at the bottom and takes up what it
kept, the innermost first.

What is kept is the expression with a hole where the walk has come to. Plugging the hole gives
the same expression after every step of the walk, and taking up what was kept writes the spelling
of what plugging would give. So the loop writes what the recursion would have written. The visits
within, of the expression at the bottom and of the right operands, are of smaller expressions, and
the argument is an induction along them.

## Main definitions

* `Arith.Visitor.plug`: an expression put back into what was kept on the way to it.

## Main results

* `Arith.Visitor.plug_descend`: the walk keeps the expression.
* `Arith.Visitor.descend_ne_binary`: the walk goes all the way down.
* `Arith.Visitor.closings_eq`: what was kept is written as it would be spelled.
* `Arith.Expr.accept_dump`: a visit writes the spelling behind the text so far.
* `Arith.Expr.dump_eq_spelling`: the loop writes what the recursion would.
-/

namespace Arith

namespace Visitor

variable {n : Nat}

/-- The expression with the operators and right operands that were kept put around it again, the
innermost first. -/
def plug (e : Expr) : List (Operator × Expr.Below n) → Expr
  | [] => e
  | (o, right) :: pending => plug (.binary o e right.1) pending

/-- The walk changes where the hole is and nothing else. -/
theorem plug_descend (e : Expr) (small : e.size < n) (pending : List (Operator × Expr.Below n)) :
    plug (descend e small pending).1.1 (descend e small pending).2 = plug e pending := by
  induction e generalizing pending with
  | leaf a => rfl
  | binary o left right ih _ =>
    rw [descend, ih]
    rfl
  | paren inner _ => rfl

/-- The walk ends at an expression that has no left operand. -/
theorem descend_ne_binary (e : Expr) (small : e.size < n)
    (pending : List (Operator × Expr.Below n)) (o : Operator) (left right : Expr) :
    (descend e small pending).1.1 ≠ .binary o left right := by
  induction e generalizing pending with
  | leaf a => simp [descend]
  | binary o' left' right' ih _ =>
    rw [descend]
    exact ih _ _
  | paren inner _ => simp [descend]

/-- One more opening text stands behind the others. -/
theorem openings_succ (count : Nat) (text : String) :
    openings (count + 1) text = openings count text ++ "Binary(" := by
  induction count generalizing text with
  | zero => rfl
  | succ count ih =>
    rw [openings, ih]
    rfl

/-- Behind the opening texts and the spelling of an expression, what was kept is written as it
would be spelled around the expression. -/
theorem closings_eq {visit : Expr.Below n → String → String}
    (visits : ∀ e text, visit e text = text ++ e.1.spelling)
    (pending : List (Operator × Expr.Below n)) (e : Expr) (text : String) :
    closings visit pending (openings pending.length text ++ e.spelling) =
      text ++ (plug e pending).spelling := by
  induction pending generalizing e with
  | nil => rfl
  | cons kept pending ih =>
    obtain ⟨o, right⟩ := kept
    -- The last of the opening texts belongs to the node that is put around `e` first.
    have around : (openings (pending.length + 1) text ++ e.spelling).push o.symbol ++
        right.1.spelling ++ ")" =
        openings pending.length text ++ (Expr.binary o e right.1).spelling := by
      rw [openings_succ]
      apply String.toList_inj.mp
      simp [Expr.spelling]
    rw [plug, ← ih, ← around, closings, visits]
    rfl

end Visitor

namespace Expr

/-- The visitor writes the spelling of the expression behind the text so far. -/
theorem accept_dump (e : Expr) (text : String) :
    e.accept Visitor.dump text = text ++ e.spelling := by
  induction e, text using accept.induct with
  | case1 c text =>
    apply String.toList_inj.mp
    simp [accept_lit, Visitor.dump, spelling]
  | case2 c text =>
    apply String.toList_inj.mp
    simp [accept_var, Visitor.dump, spelling]
  | case3 o left right text ih =>
    -- The walk starts at the left operand, with the node itself kept.
    rw [accept_binary]
    let spine := Visitor.descend left (size_left_lt o left right)
      [(o, ⟨right, size_right_lt o left right⟩)]
    calc
      _ = Visitor.closings (fun e text => e.1.accept Visitor.dump text) spine.2
          (Visitor.openings spine.2.length text ++ spine.1.1.spelling) :=
        congrArg _ (ih spine.1 _)
      _ = text ++ (Visitor.plug spine.1.1 spine.2).spelling := Visitor.closings_eq ih _ _ _
      _ = text ++ (binary o left right).spelling := by
        rw [Visitor.plug_descend]
        rfl
  | case4 inner text ih =>
    rw [accept_paren]
    have written := ih ⟨inner, size_inner_lt inner⟩ (text ++ "Paren(")
    refine (congrArg (String.push · ')') written).trans ?_
    apply String.toList_inj.mp
    simp [spelling]

/-- The dump of an expression is its spelling. -/
theorem render_eq_spelling (e : Expr) : e.render = e.spelling :=
  (accept_dump e "").trans String.empty_append

/-- The loop of the visitor writes what the recursion would. Whatever text was collected before,
from visits of whatever expressions, a visit leaves that text with the spelling of the expression
behind it. At a binary node the walk goes down to an expression that is none, and putting that
back into what was kept on the way gives the node. -/
theorem dump_eq_spelling :
    (∀ (e : Expr) (text : String), e.accept Visitor.dump text = text ++ e.spelling) ∧
    ∀ (o : Operator) (left right : Expr),
      let spine := Visitor.descend left (size_left_lt o left right)
        [(o, ⟨right, size_right_lt o left right⟩)]
      Visitor.plug spine.1.1 spine.2 = binary o left right ∧
        ∀ o' left' right', spine.1.1 ≠ binary o' left' right' := by
  refine ⟨accept_dump, fun o left right => ⟨?_, ?_⟩⟩
  · rw [Visitor.plug_descend]
    rfl
  · exact Visitor.descend_ne_binary left _ _

end Expr

end Arith
