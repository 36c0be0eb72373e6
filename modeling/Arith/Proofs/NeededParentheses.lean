import Arith.Expr.Infix
import Arith.Proofs.Regrouping

/-!
# Which parentheses an expression needs

An expression written in infix order is a sum of the grammar with the expression as its tree,
so it is parsed back. It is also the sum with the fewest parentheses: by induction on a
derivation, a phrase opens at least as many groups as its tree does when it is written where
such a phrase stands. Leaving out a matched pair gives a sum again, and as that opens fewer
groups than the expression needs it stands for another one.

## Main definitions

* `Arith.Expr.LooserThan`: the operator at the root binds less tightly than a level.
* `Arith.Expr.infixAt`: the expression in infix order, in parentheses if it is looser than
  the level of its place.

## Main results

* `Arith.Expr.derives_infixAt`: an expression written for a place is a phrase of its kind.
* `Arith.Derives.opens_infixAt_le`: no phrase for the same tree has fewer parentheses.
* `Arith.Expr.parentheses_needed`: an expression is read back from its infix order, and
  without any one pair of the parentheses another expression is read.
-/

namespace Arith

open Token (Balanced opens)

namespace Expr

/-- The operator at the root binds less tightly than `level`. -/
def LooserThan (level : Nat) : Expr → Prop
  | binary o _ _ => o.precedence < level
  | _ => False

instance (level : Nat) (e : Expr) : Decidable (e.LooserThan level) :=
  match e with
  | binary o _ _ => inferInstanceAs (Decidable (o.precedence < level))
  | leaf _ | paren _ => inferInstanceAs (Decidable False)

/-- The expression in infix order for a place where nothing looser than `level` may stand
without parentheses. -/
def infixAt (level : Nat) (e : Expr) : List Token :=
  if e.LooserThan level then group e.toInfix else e.toInfix

variable {e : Expr} {level level' : Nat}

theorem needsLeft_iff {o : Operator} : e.NeedsLeft o ↔ e.LooserThan o.precedence := by
  cases e <;> rfl

theorem needsRight_iff {o : Operator} : e.NeedsRight o ↔ e.LooserThan (o.precedence + 1) := by
  cases e with
  | leaf a => rfl
  | binary o' l r => exact Nat.lt_succ_iff.symm
  | paren inner => rfl

theorem LooserThan.mono (h : e.LooserThan level) (le : level ≤ level') : e.LooserThan level' := by
  cases e with
  | binary o l r => exact Nat.lt_of_lt_of_le h le
  | leaf a => exact h
  | paren inner => exact h

/-- A left operand is written for the level of its operator and a right operand for the next
level. -/
theorem toInfix_binary (o : Operator) (l r : Expr) :
    (binary o l r).toInfix =
      l.infixAt o.precedence ++ .operator o :: r.infixAt (o.precedence + 1) := by
  simp only [toInfix, infixAt, needsLeft_iff, needsRight_iff]

theorem infixAt_leaf (a : Operand) (level : Nat) : (leaf a).infixAt level = [.operand a] :=
  if_neg id

/-- Nothing is looser than the loosest level. -/
theorem infixAt_zero (e : Expr) : e.infixAt 0 = e.toInfix := by
  apply if_neg
  cases e with
  | binary o l r => exact Nat.not_lt_zero _
  | leaf a => exact id
  | paren inner => exact id

/-! ### An expression is read back -/

/-- A binary node whose operands are written for their places is a sum, and a term if its
operator is multiplicative. -/
theorem derives_toInfix_binary {o : Operator} {l r : Expr}
    (left : ∀ kind : Nonterminal, Derives kind (l.infixAt kind.level) l)
    (right : ∀ kind : Nonterminal, Derives kind (r.infixAt kind.level) r) :
    Derives .sum (binary o l r).toInfix (binary o l r) ∧
      (o.precedence = 1 → Derives .term (binary o l r).toInfix (binary o l r)) := by
  rw [toInfix_binary]
  rcases Nat.le_one_iff_eq_zero_or_eq_one.mp o.precedence_le_one with loose | tight
  · rw [loose]
    exact ⟨.additive loose (left .sum) (right .term), by simp⟩
  · have product := Derives.multiplicative tight (left .term) (right .factor)
    rw [tight]
    exact ⟨.ofTerm product, fun _ => product⟩

/-- Written for a place, an expression is a phrase of the kind that stands there. -/
theorem derives_infixAt (parenless : e.Parenless) (kind : Nonterminal) :
    Derives kind (e.infixAt kind.level) e := by
  induction e generalizing kind with
  | leaf a =>
    rw [infixAt_leaf]
    exact (Derives.operand a).ofKind kind
  | binary o l r ihl ihr =>
    obtain ⟨sum, term⟩ := derives_toInfix_binary (o := o) (ihl parenless.1) (ihr parenless.2)
    by_cases looser : (binary o l r).LooserThan kind.level
    · rw [infixAt, if_pos looser]
      exact (Derives.group sum).ofKind kind
    · rw [infixAt, if_neg looser]
      have level_le : kind.level ≤ o.precedence := Nat.le_of_not_lt looser
      cases kind with
      | sum => exact sum
      | term => exact term (Nat.le_antisymm o.precedence_le_one level_le)
      | factor => exact absurd (Nat.le_trans level_le o.precedence_le_one) (by decide)
  | paren inner _ => exact parenless.elim

/-- An expression without grouping nodes is a sum in its infix order. -/
theorem derives_toInfix (parenless : e.Parenless) : Derives .sum e.toInfix e := by
  rw [← infixAt_zero]
  exact derives_infixAt parenless .sum

/-! ### No phrase has fewer parentheses -/

@[simp] theorem opens_group (tokens : List Token) : opens (group tokens) = opens tokens + 1 := by
  simp [group]

/-- A place for tighter phrases asks for no fewer parentheses. -/
theorem opens_infixAt_mono (le : level ≤ level') (e : Expr) :
    opens (e.infixAt level) ≤ opens (e.infixAt level') := by
  by_cases looser : e.LooserThan level
  · have same : e.infixAt level = e.infixAt level' := by
      rw [infixAt, infixAt, if_pos looser, if_pos (looser.mono le)]
    exact Nat.le_of_eq (congrArg opens same)
  · rw [infixAt, if_neg looser, infixAt]
    split
    · rw [opens_group]
      exact Nat.le_succ _
    · exact Nat.le_of_eq rfl

/-- No place asks for more than one pair around the expression. -/
theorem opens_infixAt_le_succ (level : Nat) (e : Expr) :
    opens (e.infixAt level) ≤ opens e.toInfix + 1 := by
  unfold infixAt
  split
  · exact Nat.le_of_eq (opens_group _)
  · exact Nat.le_succ _

/-- The parentheses in a binary node are those of its operands. -/
theorem opens_infixAt_binary (o : Operator) (l r : Expr) :
    opens ((binary o l r).infixAt o.precedence) =
      opens (l.infixAt o.precedence) + opens (r.infixAt (o.precedence + 1)) := by
  have own_level : ¬ (binary o l r).LooserThan o.precedence := Nat.lt_irrefl _
  rw [infixAt, if_neg own_level, toInfix_binary, Token.opens_append, Token.opens_cons_operator]

end Expr

namespace Derives

variable {kind : Nonterminal} {w : List Token} {t : Expr}

/-- A phrase of some kind opens at least as many groups as its tree does when it is written
for a place of that kind. -/
theorem opens_infixAt_le (h : Derives kind w t) : opens (t.infixAt kind.level) ≤ opens w := by
  induction h with
  | operand a => exact Nat.le_of_eq (congrArg opens (Expr.infixAt_leaf a _))
  | @group w t _ ih =>
    -- The group pays for the one pair that a factor may need and a sum does not.
    have inside : opens t.toInfix ≤ opens w := by
      rw [← Expr.infixAt_zero]
      exact ih
    calc opens (t.infixAt Nonterminal.factor.level)
      _ ≤ opens t.toInfix + 1 := Expr.opens_infixAt_le_succ _ t
      _ ≤ opens w + 1 := Nat.succ_le_succ inside
      _ = opens (.lparen :: w ++ [.rparen]) := by simp
  | ofFactor _ ih => exact Nat.le_trans (Expr.opens_infixAt_mono (by decide) _) ih
  | @multiplicative o u v l r tight _ _ ihl ihr =>
    have pairs := Expr.opens_infixAt_binary o l r
    rw [tight] at pairs
    rw [Token.opens_append, Token.opens_cons_operator]
    exact Nat.le_trans (Nat.le_of_eq pairs) (Nat.add_le_add ihl ihr)
  | ofTerm _ ih => exact Nat.le_trans (Expr.opens_infixAt_mono (by decide) _) ih
  | @additive o u v l r loose _ _ ihl ihr =>
    have pairs := Expr.opens_infixAt_binary o l r
    rw [loose] at pairs
    rw [Token.opens_append, Token.opens_cons_operator]
    exact Nat.le_trans (Nat.le_of_eq pairs) (Nat.add_le_add ihl ihr)

end Derives

namespace Expr

/-- Parentheses are needed exactly where they are written. An expression without grouping
nodes is parsed back from its infix order; and if any one matched pair in that order is left
out, what remains is still parsed, but as another expression. -/
theorem parentheses_needed {e : Expr} (parenless : e.Parenless) :
    ofInfix .strict e.toInfix = .ok e ∧
      ∀ u s v, e.toInfix = u ++ group s ++ v → Balanced s →
        ∃ other, ofInfix .strict (u ++ s ++ v) = .ok other ∧ other ≠ e := by
  have sum := derives_toInfix parenless
  refine ⟨sum.ofInfix_eq_ok .strict, ?_⟩
  intro u s v whole inner
  have pair : e.toInfix = u ++ .lparen :: (s ++ .rparen :: v) := by simp [whole, group]
  obtain ⟨other, left_out⟩ := sum.exists_without_pair inner pair
  refine ⟨other, left_out.ofInfix_eq_ok .strict, ?_⟩
  -- Fewer groups are open in what remains than the expression needs.
  rintro rfl
  have needed : opens other.toInfix ≤ opens (u ++ s ++ v) := by
    rw [← infixAt_zero]
    exact left_out.opens_infixAt_le
  rw [whole] at needed
  simp only [Token.opens_append, opens_group] at needed
  omega

/-- In `(a+b)*c/(d/e)` both pairs are needed: the first one around a looser left operand, the
second one around a right operand that is as tight as the operator before it. -/
theorem parentheses_needed_quotient :
    ∃ t : Expr, t.Parenless ∧ t.toInfix = tokenize "(a+b)*c/(d/e)" ∧
      parse .strict "(a+b)*c/(d/e)" = .ok t ∧
      (∃ other, parse .strict "a+b*c/(d/e)" = .ok other ∧ other ≠ t) ∧
      ∃ other, parse .strict "(a+b)*c/d/e" = .ok other ∧ other ≠ t := by
  have parenless : (binary .divide
      (binary .multiply (binary .add (leaf (.var 'a')) (leaf (.var 'b'))) (leaf (.var 'c')))
      (binary .divide (leaf (.var 'd')) (leaf (.var 'e')))).Parenless :=
    ⟨⟨⟨trivial, trivial⟩, trivial⟩, trivial, trivial⟩
  obtain ⟨read, needed⟩ := parentheses_needed parenless
  have first := needed [] [.operand (.var 'a'), .operator .add, .operand (.var 'b')]
    [.operator .multiply, .operand (.var 'c'), .operator .divide, .lparen, .operand (.var 'd'),
      .operator .divide, .operand (.var 'e'), .rparen] (by decide) (by decide)
  have second := needed [.lparen, .operand (.var 'a'), .operator .add, .operand (.var 'b'),
      .rparen, .operator .multiply, .operand (.var 'c'), .operator .divide]
    [.operand (.var 'd'), .operator .divide, .operand (.var 'e')] [] (by decide) (by decide)
  exact ⟨_, parenless, by decide, read, first, second⟩

end Expr

end Arith
