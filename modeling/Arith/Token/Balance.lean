import Mathlib.Data.List.Induction
import Arith.Token.Basic

/-!
# Balance of parentheses

Only parenthesis tokens count here; an operand that holds the character of a parenthesis
is an operand.

## Main definitions

* `Arith.Token.opens` and `Arith.Token.closes`: how many groups a list opens and closes.
* `Arith.Token.Contained`: no beginning of the list closes more groups than it opens.
* `Arith.Token.Overcloses`: some beginning of the list does.
* `Arith.Token.Balanced`: a contained list that closes every group it opens.
* `Arith.Token.unclosed`: how many groups a contained list leaves open.
* `Arith.Token.closeAll`: the list with the groups closed that it leaves open.

## Main results

* `Arith.Token.Contained.of_append_left` and `Arith.Token.Contained.append`: a beginning of a
  contained list is contained, and so is a list made of two contained ones.
* `Arith.Token.contained_iff_take`: being contained can be decided by looking at the
  beginnings one by one.
* `Arith.Token.Contained.balanced_closeAll`: closing what is open balances a contained list.
* `Arith.Token.Balanced.exists_group`: the group that a balanced list begins with is closed
  in it.
* `Arith.Token.Balanced.eq_of_append_rparen`: a balanced list is closed in one place.
* `Arith.Token.Balanced.pair_within_or_behind`: a matched pair lies within a balanced
  beginning or behind it.
-/

namespace Arith

namespace Token

/-- The number of groups that the tokens open. -/
def opens (tokens : List Token) : Nat :=
  tokens.count lparen

/-- The number of groups that the tokens close. -/
def closes (tokens : List Token) : Nat :=
  tokens.count rparen

/-- No beginning of the list closes more groups than it opens. -/
def Contained (tokens : List Token) : Prop :=
  ∀ start, start <+: tokens → closes start ≤ opens start

/-- Some beginning of the list closes more groups than it opens. -/
def Overcloses (tokens : List Token) : Prop :=
  ∃ start, start <+: tokens ∧ opens start < closes start

/-- The list is contained and closes every group that it opens. -/
def Balanced (tokens : List Token) : Prop :=
  Contained tokens ∧ closes tokens = opens tokens

/-- The number of groups that a contained list leaves open. -/
def unclosed (tokens : List Token) : Nat :=
  opens tokens - closes tokens

/-- The list with a closing parenthesis behind it for every group that it leaves open. -/
def closeAll (tokens : List Token) : List Token :=
  tokens ++ List.replicate (unclosed tokens) rparen

variable {t : Token} {tokens tokens' : List Token}

@[simp] theorem opens_nil : opens [] = 0 := rfl

@[simp] theorem closes_nil : closes [] = 0 := rfl

@[simp] theorem opens_append : opens (tokens ++ tokens') = opens tokens + opens tokens' :=
  List.count_append

@[simp] theorem closes_append : closes (tokens ++ tokens') = closes tokens + closes tokens' :=
  List.count_append

section Cons

variable (a : Operand) (o : Operator) (tokens : List Token)

@[simp] theorem opens_cons_operand : opens (operand a :: tokens) = opens tokens := by
  simp [opens]

@[simp] theorem opens_cons_operator : opens (operator o :: tokens) = opens tokens := by
  simp [opens]

@[simp] theorem opens_cons_lparen : opens (lparen :: tokens) = opens tokens + 1 := by
  simp [opens]

@[simp] theorem opens_cons_rparen : opens (rparen :: tokens) = opens tokens := by
  simp [opens]

@[simp] theorem closes_cons_operand : closes (operand a :: tokens) = closes tokens := by
  simp [closes]

@[simp] theorem closes_cons_operator : closes (operator o :: tokens) = closes tokens := by
  simp [closes]

@[simp] theorem closes_cons_lparen : closes (lparen :: tokens) = closes tokens := by
  simp [closes]

@[simp] theorem closes_cons_rparen : closes (rparen :: tokens) = closes tokens + 1 := by
  simp [closes]

end Cons

@[simp] theorem opens_replicate_rparen (n : Nat) : opens (List.replicate n rparen) = 0 := by
  simp [opens, List.count_replicate]

@[simp] theorem closes_replicate_rparen (n : Nat) : closes (List.replicate n rparen) = n := by
  simp [closes]

/-- The whole list is one of its beginnings. -/
theorem Contained.closes_le_opens (h : Contained tokens) : closes tokens ≤ opens tokens :=
  h tokens (List.prefix_refl tokens)

/-- A beginning of a contained list is contained. -/
theorem Contained.of_append_left (h : Contained (tokens ++ tokens')) : Contained tokens :=
  fun start beginning => h start (beginning.trans (List.prefix_append tokens tokens'))

/-- One more token keeps a list contained if it closes no group too many. -/
theorem Contained.concat (contained : Contained tokens)
    (enough : closes (tokens ++ [t]) ≤ opens (tokens ++ [t])) : Contained (tokens ++ [t]) := by
  intro start beginning
  rcases List.prefix_concat_iff.mp beginning with rfl | beginning
  · exact enough
  · exact contained start beginning

/-- Being contained can be decided by looking at the beginnings one by one. -/
theorem contained_iff_take :
    Contained tokens ↔
      ∀ n, n < tokens.length + 1 → closes (tokens.take n) ≤ opens (tokens.take n) := by
  constructor
  · intro h n _
    exact h _ (List.take_prefix n tokens)
  · intro h start beginning
    have short := beginning.length_le
    rw [List.prefix_iff_eq_take.mp beginning]
    exact h start.length (by omega)

instance : Decidable (Contained tokens) :=
  decidable_of_iff _ contained_iff_take.symm

instance : Decidable (Balanced tokens) :=
  inferInstanceAs (Decidable (_ ∧ _))

theorem overcloses_iff_not_contained : Overcloses tokens ↔ ¬ Contained tokens := by
  simp [Overcloses, Contained]

instance : Decidable (Overcloses tokens) :=
  decidable_of_iff _ overcloses_iff_not_contained.symm

/-- A list that overcloses does so however it goes on. -/
theorem Overcloses.append (h : Overcloses tokens) (behind : List Token) :
    Overcloses (tokens ++ behind) := by
  obtain ⟨start, beginning, excess⟩ := h
  exact ⟨start, beginning.trans (List.prefix_append tokens behind), excess⟩

/-- Contained lists put together are contained. -/
theorem Contained.append (h : Contained tokens) (h' : Contained tokens') :
    Contained (tokens ++ tokens') := by
  rintro start ⟨others, whole⟩
  rcases List.append_eq_append_iff.mp whole with ⟨a, rfl, -⟩ | ⟨start', rfl, rfl⟩
  · exact h start (List.prefix_append start a)
  · have first := h.closes_le_opens
    have second := h' start' (List.prefix_append start' others)
    rw [closes_append, opens_append]
    exact Nat.add_le_add first second

/-- A list that closes no group opened before it has no part in whether a list ending in it is
contained. -/
theorem Contained.append_iff (h' : Contained tokens') :
    Contained (tokens ++ tokens') ↔ Contained tokens :=
  ⟨Contained.of_append_left, fun h => h.append h'⟩

/-- An opening parenthesis keeps what stands behind it contained. -/
theorem Contained.cons_lparen (h : Contained tokens) : Contained (lparen :: tokens) := by
  have alone : Contained [lparen] := by decide
  exact alone.append h

/-! ### Groups left open -/

/-- Closing no more groups than are open keeps a list contained. -/
theorem Contained.append_replicate_rparen {n : Nat} (contained : Contained tokens)
    (enough : closes tokens + n ≤ opens tokens) :
    Contained (tokens ++ List.replicate n rparen) := by
  induction n with
  | zero => simpa using contained
  | succ n ih =>
    rw [List.replicate_succ', ← List.append_assoc]
    apply (ih (by omega)).concat
    simp only [closes_append, opens_append, closes_replicate_rparen, opens_replicate_rparen,
      closes_cons_rparen, opens_cons_rparen, closes_nil, opens_nil]
    omega

/-- A contained list opens the groups that it closes and those that it leaves open. -/
theorem Contained.closes_add_unclosed (contained : Contained tokens) :
    closes tokens + unclosed tokens = opens tokens :=
  Nat.add_sub_of_le contained.closes_le_opens

/-- Closing what is open balances a contained list. -/
theorem Contained.balanced_closeAll (contained : Contained tokens) :
    Balanced (closeAll tokens) := by
  constructor
  · exact contained.append_replicate_rparen (Nat.le_of_eq contained.closes_add_unclosed)
  · rw [closeAll, closes_append, opens_append, closes_replicate_rparen, opens_replicate_rparen,
      contained.closes_add_unclosed, Nat.add_zero]

@[simp] theorem operands_closeAll (tokens : List Token) :
    operands (closeAll tokens) = operands tokens := by
  simp [closeAll, operands, operand?]

@[simp] theorem operators_closeAll (tokens : List Token) :
    operators (closeAll tokens) = operators tokens := by
  simp [closeAll, operators, operator?]

/-! ### Matched pairs -/

/-- What stands behind a balanced beginning of a balanced list is balanced. -/
theorem Balanced.of_append_left (whole : Balanced (tokens ++ tokens')) (first : Balanced tokens) :
    Balanced tokens' := by
  have closed := first.2
  constructor
  · intro start beginning
    have counted := whole.1 (tokens ++ start) ((List.prefix_append_right_inj tokens).mpr beginning)
    rw [closes_append, opens_append] at counted
    omega
  · have counted := whole.2
    rw [closes_append, opens_append] at counted
    omega

theorem balanced_nil : Balanced [] := by decide

/-- An operator is no part of the balance. -/
theorem Balanced.of_cons_operator {o : Operator} (h : Balanced (operator o :: tokens)) :
    Balanced tokens := by
  have alone : Balanced [operator o] := by cases o <;> decide
  exact of_append_left h alone

/-- A list that is not contained closes a group behind a balanced beginning. -/
theorem exists_balanced_of_not_contained (h : ¬ Contained tokens) :
    ∃ s v, tokens = s ++ rparen :: v ∧ Balanced s := by
  induction tokens using List.reverseRecOn with
  | nil => exact absurd (by decide) h
  | append_singleton tokens t ih =>
    by_cases contained : Contained tokens
    · -- The last token is the one that closes a group too many.
      have bound := contained.closes_le_opens
      have excess : ¬ closes (tokens ++ [t]) ≤ opens (tokens ++ [t]) :=
        fun enough => h (contained.concat enough)
      cases t with
      | rparen =>
        simp only [closes_append, opens_append, closes_cons_rparen, opens_cons_rparen, closes_nil,
          opens_nil] at excess
        exact ⟨tokens, [], rfl, contained, by omega⟩
      | operand a => simp [bound] at excess
      | operator o => simp [bound] at excess
      | lparen => simp [Nat.le_succ_of_le bound] at excess
    · obtain ⟨s, v, rfl, inner⟩ := ih contained
      exact ⟨s, v ++ [t], by simp, inner⟩

/-- The group that a balanced list begins with is closed in it. -/
theorem Balanced.exists_group (h : Balanced (lparen :: tokens)) :
    ∃ s v, tokens = s ++ rparen :: v ∧ Balanced s := by
  apply exists_balanced_of_not_contained
  intro contained
  have bound := contained.closes_le_opens
  have closed := h.2
  rw [closes_cons_lparen, opens_cons_lparen] at closed
  omega

/-- A balanced list has no opening parenthesis with nothing but a contained list behind it. -/
theorem Balanced.ne_append_lparen {u s : List Token} (whole : Balanced tokens)
    (inner : Contained s) : tokens ≠ u ++ lparen :: s := by
  rintro rfl
  have before := whole.1 u (List.prefix_append u _)
  have behind := inner.closes_le_opens
  have closed := whole.2
  simp only [closes_append, opens_append, closes_cons_lparen, opens_cons_lparen] at closed
  omega

/-- A balanced list has no closing parenthesis with nothing but a balanced list before it. -/
theorem Balanced.ne_append_rparen {s v : List Token} (whole : Balanced tokens)
    (inner : Balanced s) : tokens ≠ s ++ rparen :: v := by
  rintro rfl
  have counted := whole.1 (s ++ [rparen]) ⟨v, by simp⟩
  have closed := inner.2
  simp only [closes_append, opens_append, closes_cons_rparen, opens_cons_rparen, closes_nil,
    opens_nil] at counted
  omega

/-- The closing parenthesis of a balanced list is found in one way. -/
theorem Balanced.eq_of_append_rparen {s v v' : List Token} (h : Balanced tokens)
    (h' : Balanced s) (same : tokens ++ rparen :: v = s ++ rparen :: v') :
    tokens = s ∧ v = v' := by
  rcases List.append_eq_append_iff.mp same with ⟨a, longer, behind⟩ | ⟨a, longer, behind⟩
  · cases a with
    | nil => exact ⟨by simpa using longer.symm, by simpa using behind⟩
    | cons t a =>
      obtain ⟨rfl, -⟩ := List.cons.inj behind
      exact absurd longer (h'.ne_append_rparen h)
  · cases a with
    | nil => exact ⟨by simpa using longer, by simpa using behind.symm⟩
    | cons t a =>
      obtain ⟨rfl, -⟩ := List.cons.inj behind
      exact absurd longer (h.ne_append_rparen h')

/-- A matched pair lies within a balanced beginning or behind it. -/
theorem Balanced.pair_within_or_behind {u s v rest : List Token} (h : Balanced tokens)
    (inner : Balanced s) (whole : tokens ++ rest = u ++ lparen :: (s ++ rparen :: v)) :
    (∃ v', tokens = u ++ lparen :: (s ++ rparen :: v') ∧ v = v' ++ rest) ∨
      ∃ u', u = tokens ++ u' ∧ rest = u' ++ lparen :: (s ++ rparen :: v) := by
  rcases List.append_eq_append_iff.mp whole with ⟨u', rfl, behind⟩ | ⟨a, rfl, behind⟩
  · exact .inr ⟨u', rfl, behind⟩
  · cases a with
    | nil => exact .inr ⟨[], by simp, by simpa using behind.symm⟩
    | cons t a =>
      -- The pair opens within the beginning, which then cannot end before the pair closes.
      obtain ⟨rfl, closing⟩ := List.cons.inj behind
      rcases List.append_eq_append_iff.mp closing with ⟨b, rfl, later⟩ | ⟨b, longer, later⟩
      · cases b with
        | nil =>
          rw [List.append_nil] at h
          exact absurd rfl (h.ne_append_lparen inner.1)
        | cons t b =>
          obtain ⟨rfl, rfl⟩ := List.cons.inj later
          exact .inl ⟨b, rfl, rfl⟩
      · subst longer
        exact absurd rfl (h.ne_append_lparen inner.1.of_append_left)

end Token

end Arith
