import Arith.Proofs.Precedence

/-!
# Sums regrouped

A sum stays a sum if a matched pair of its parentheses is left out, although it may come to
stand for another tree: what was grouped is a sum itself, and sums may be joined by any
operator. The operator takes what binds tightest next to it, which is the last factor or term
of the sum on its left and the first one of the sum on its right.

## Main results

* `Arith.Derives.balanced`: every phrase closes the groups it opens.
* `Arith.Derives.exists_join`: two sums joined by an operator are a sum.
* `Arith.Derives.exists_without_pair`: a phrase without one matched pair of its parentheses
  is a sum.
-/

namespace Arith

namespace Derives

open Token (Balanced)

variable {kind : Nonterminal} {u v w s : List Token} {l r t : Expr}

/-- Every phrase closes the groups it opens. -/
theorem balanced (h : Derives kind w t) : Balanced w :=
  h.runsAs.balanced

/-- A derived sum is parsed to its tree. -/
theorem ofInfix_eq_ok (h : Derives .sum w t) (config : Config) : ofInfix config w = .ok t := by
  refine ofInfix_eq_ok_iff.mpr ⟨t.toPostfix, h.runsAs.toPostfix_eq, ?_⟩
  rw [Expr.ofPostfix_toPostfix, Expr.erase_eq_self_iff.mpr h.parenless]

/-- A factor is a phrase of every kind. -/
theorem ofKind (h : Derives .factor w t) (kind : Nonterminal) : Derives kind w t := by
  cases kind with
  | sum => exact .ofTerm (.ofFactor h)
  | term => exact .ofFactor h
  | factor => exact h

/-- A sum in parentheses is a sum. -/
theorem parenthesized (h : Derives .sum w t) : Derives .sum (.lparen :: w ++ [.rparen]) t :=
  (group h).ofKind .sum

/-- A sum and a factor joined by an operator are a sum. A multiplicative operator takes the
last term of the sum. -/
theorem exists_join_factor (o : Operator) (left : Derives .sum u l) (right : Derives .factor v r) :
    ∃ t, Derives .sum (u ++ .operator o :: v) t := by
  rcases Nat.eq_zero_or_pos o.precedence with loose | tight
  · exact ⟨_, .additive loose left (.ofFactor right)⟩
  · have tight : o.precedence = 1 := Nat.le_antisymm o.precedence_le_one tight
    cases left with
    | ofTerm term => exact ⟨_, .ofTerm (.multiplicative tight term right)⟩
    | additive loose sum term =>
      have product := Derives.multiplicative tight term right
      rw [List.append_assoc, List.cons_append]
      exact ⟨_, .additive loose sum product⟩

/-- Two sums joined by an operator are a sum. -/
theorem exists_join (o : Operator) (left : Derives .sum u l) (right : Derives kind v r) :
    ∃ t, Derives .sum (u ++ .operator o :: v) t := by
  induction right with
  | operand a => exact exists_join_factor o left (.operand a)
  | group inner => exact exists_join_factor o left (.group inner)
  | ofFactor _ ih => exact ih
  | multiplicative _ _ factor ih =>
    -- The operator joins the term on the left first, and what comes of it takes the factor.
    obtain ⟨joined, sum⟩ := ih
    rw [← List.cons_append, ← List.append_assoc]
    exact exists_join_factor _ sum factor
  | ofTerm _ ih => exact ih
  | additive loose _ term ih =>
    obtain ⟨joined, sum⟩ := ih
    rw [← List.cons_append, ← List.append_assoc]
    exact ⟨_, .additive loose sum term⟩

/-- A matched pair in two phrases joined by an operator lies in one of them, so it may be
left out if it may be left out there. -/
theorem exists_without_pair_binary {x y : List Token} {o : Operator} (left : Derives .sum x l)
    (right : Derives kind y r) (inner : Balanced s)
    (in_left : ∀ u v, x = u ++ .lparen :: (s ++ .rparen :: v) →
      ∃ t, Derives .sum (u ++ s ++ v) t)
    (in_right : ∀ u v, y = u ++ .lparen :: (s ++ .rparen :: v) →
      ∃ t, Derives .sum (u ++ s ++ v) t)
    (whole : x ++ .operator o :: y = u ++ .lparen :: (s ++ .rparen :: v)) :
    ∃ t, Derives .sum (u ++ s ++ v) t := by
  rcases left.balanced.pair_within_or_behind inner whole with ⟨v', pair, rfl⟩ | ⟨u', rfl, pair⟩
  · obtain ⟨joined, sum⟩ := in_left u v' pair
    rw [← List.append_assoc]
    exact exists_join o sum right
  · cases u' with
    | nil => cases pair
    | cons t u' =>
      obtain ⟨rfl, on_right⟩ := List.cons.inj pair
      obtain ⟨joined, sum⟩ := in_right u' v on_right
      rw [List.append_assoc, List.append_assoc, List.cons_append, ← List.append_assoc u']
      exact exists_join o left sum

/-- A phrase without one matched pair of its parentheses is a sum. -/
theorem exists_without_pair (h : Derives kind w t) (inner : Balanced s)
    (whole : w = u ++ .lparen :: (s ++ .rparen :: v)) :
    ∃ t, Derives .sum (u ++ s ++ v) t := by
  induction h generalizing u v with
  | operand a =>
    have impossible : Token.lparen ∈ [Token.operand a] := by simp [whole]
    simp at impossible
  | group sum ih =>
    cases u with
    | nil =>
      -- The pair is the outermost one.
      obtain ⟨rfl, rfl⟩ := sum.balanced.eq_of_append_rparen inner (List.cons.inj whole).2
      exact ⟨_, by simpa using sum⟩
    | cons t u =>
      obtain ⟨rfl, behind⟩ := List.cons.inj whole
      rcases sum.balanced.pair_within_or_behind inner behind with
        ⟨v', within, rfl⟩ | ⟨u', rfl, impossible⟩
      · obtain ⟨regrouped, left_out⟩ := ih within
        exact ⟨regrouped, by simpa using left_out.parenthesized⟩
      · have opened : Token.lparen ∈ [Token.rparen] := by simp [impossible]
        simp at opened
  | ofFactor _ ih => exact ih whole
  | multiplicative _ left right ihl ihr =>
    exact exists_without_pair_binary (.ofTerm left) right inner (fun _ _ => ihl)
      (fun _ _ => ihr) whole
  | ofTerm _ ih => exact ih whole
  | additive _ left right ihl ihr =>
    exact exists_without_pair_binary left right inner (fun _ _ => ihl) (fun _ _ => ihr) whole

end Derives

end Arith
