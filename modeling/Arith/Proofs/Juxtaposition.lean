import Mathlib.Data.List.Chain
import Arith.Proofs.Conservation
import Arith.Proofs.Regrouping
import Arith.Proofs.UnclosedGroups

/-!
# Accepted texts and the grammar

Parsing never looks at which tokens stand side by side. It counts what is on the stack, and so
an operator without an operand beside it is supplied by operands that stand side by side
elsewhere: `12+` is read like `1+2`. Only such neighbours let a text pass that the grammar does
not generate. As long as no operand or group stands directly behind another one, an operand or a
group is read only where one is awaited. Every operator or closing parenthesis that comes while
an operand is still awaited then costs an operand, and nothing makes up for it. So if the count
comes out right, operands and operators alternate in every group, and the tokens are a sum of
the grammar.

## Main definitions

* `Arith.Unjuxtaposed`: no operand or group stands directly behind another one.
* `Arith.Alternates`: operands and operators come in turn, in groups and around them.
* `Arith.Supplied`: an operator has a factor on either side of it.

## Main results

* `Arith.Derives.unjuxtaposed`: in a phrase of the grammar nothing is juxtaposed.
* `Arith.Unjuxtaposed.alternates`: without juxtaposition the right count makes operands and
  operators alternate.
* `Arith.Alternates.exists_derives`: balanced tokens in which they alternate are a sum.
* `Arith.accepted_derives_iff_unjuxtaposed`: an accepted text is a sum of the grammar exactly
  when nothing in it is juxtaposed.
-/

namespace Arith

open Token (Balanced closeAll operands operators)

namespace Token

/-- An operand or a group begins with the token. -/
def startsOperand : Token → Bool
  | operand _ | lparen => true
  | operator _ | rparen => false

/-- Behind the token an operand or a group is awaited. Behind the other tokens one has just
ended. -/
def awaitsOperand : Token → Bool
  | operator _ | lparen => true
  | operand _ | rparen => false

end Token

/-- No operand or group stands directly behind another one. -/
def Unjuxtaposed (tokens : List Token) : Prop :=
  tokens.IsChain fun t t' => t'.startsOperand = true → t.awaitsOperand = true

instance (tokens : List Token) : Decidable (Unjuxtaposed tokens) :=
  inferInstanceAs (Decidable (tokens.IsChain _))

/-- Operands and operators come in turn, in groups and around them. An operand or a group
begins where one is awaited and nowhere else, and none is awaited at the end. -/
def Alternates : (awaited : Bool) → List Token → Prop
  | awaited, [] => awaited = false
  | awaited, t :: tokens => t.startsOperand = awaited ∧ Alternates t.awaitsOperand tokens

/-- A factor ends directly before an operator and another one begins directly behind it. -/
def Supplied (before behind : List Token) : Prop :=
  (∃ u f l, before = u ++ f ∧ Derives .factor f l) ∧
    ∃ f v r, behind = f ++ v ∧ Derives .factor f r

variable {kind : Nonterminal} {u v w tokens : List Token} {p t : Token}

/-! ### Nothing is juxtaposed in a phrase -/

/-- Lists may be put together where no operand or group begins. -/
theorem Unjuxtaposed.append_cons (left : Unjuxtaposed u) (right : Unjuxtaposed (t :: v))
    (apart : t.startsOperand = false) : Unjuxtaposed (u ++ t :: v) := by
  refine List.isChain_append.mpr ⟨left, right, ?_⟩
  intro p _ t' first begins
  cases first
  rw [apart] at begins
  cases begins

/-- Behind a token that awaits an operand anything may stand. -/
theorem Unjuxtaposed.cons (h : Unjuxtaposed tokens) (awaits : t.awaitsOperand = true) :
    Unjuxtaposed (t :: tokens) :=
  List.isChain_cons.mpr ⟨fun _ _ _ => awaits, h⟩

/-- Closing groups juxtaposes nothing. -/
theorem unjuxtaposed_closeAll_iff : Unjuxtaposed (closeAll tokens) ↔ Unjuxtaposed tokens := by
  constructor
  · exact List.IsChain.left_of_append
  · intro h
    rw [closeAll]
    induction Token.unclosed tokens with
    | zero => simpa using h
    | succ n ih =>
      rw [List.replicate_succ', ← List.append_assoc]
      exact ih.append_cons (List.isChain_singleton _) rfl

/-- In a phrase of the grammar nothing is juxtaposed. -/
theorem Derives.unjuxtaposed {e : Expr} (h : Derives kind w e) : Unjuxtaposed w := by
  induction h with
  | operand a => exact List.isChain_singleton _
  | group _ ih => exact (ih.cons rfl).append_cons (List.isChain_singleton _) rfl
  | ofFactor _ ih => exact ih
  | multiplicative _ _ _ ihl ihr => exact ihl.append_cons (ihr.cons rfl) rfl
  | ofTerm _ ih => exact ih
  | additive _ _ _ ihl ihr => exact ihl.append_cons (ihr.cons rfl) rfl

/-! ### Without juxtaposition the count decides -/

/-- Behind a token there is at most one operand more than operators, and none more if no operand
is awaited there. -/
theorem Unjuxtaposed.length_operands_le (h : Unjuxtaposed (p :: tokens)) :
    (operands tokens).length ≤ (operators tokens).length + p.awaitsOperand.toNat := by
  induction tokens generalizing p with
  | nil => exact Nat.zero_le _
  | cons t tokens ih =>
    obtain ⟨apart, behind⟩ := List.isChain_cons_cons.mp h
    have bound := ih behind
    cases t with
    | operand a =>
      rw [apart rfl]
      exact Nat.succ_le_succ bound
    | operator o => exact Nat.le_add_right_of_le bound
    | lparen =>
      rw [apart rfl]
      exact bound
    | rparen => exact Nat.le_add_right_of_le bound

/-- If there are as many operands behind a token as there can be, they alternate with the
operators. -/
theorem Unjuxtaposed.alternates_behind (h : Unjuxtaposed (p :: tokens))
    (most : (operators tokens).length + p.awaitsOperand.toNat ≤ (operands tokens).length) :
    Alternates p.awaitsOperand tokens := by
  induction tokens generalizing p with
  | nil => exact Bool.toNat_eq_zero.mp (Nat.le_zero.mp (Nat.le_of_add_left_le most))
  | cons t tokens ih =>
    obtain ⟨apart, behind⟩ := List.isChain_cons_cons.mp h
    have bound := length_operands_le behind
    cases t with
    | operand a =>
      rw [apart rfl] at most ⊢
      exact ⟨rfl, ih behind (Nat.le_of_succ_le_succ most)⟩
    | operator o =>
      -- There are too few operands left for an operator where one is awaited.
      have count : (operators tokens).length + 1 + p.awaitsOperand.toNat ≤
          (operands tokens).length := most
      have within : (operands tokens).length ≤ (operators tokens).length + 1 := bound
      have satisfied := Bool.toNat_eq_zero.mp (by omega : p.awaitsOperand.toNat = 0)
      rw [satisfied] at count ⊢
      exact ⟨rfl, ih behind count⟩
    | lparen =>
      rw [apart rfl] at most ⊢
      exact ⟨rfl, ih behind most⟩
    | rparen =>
      have count : (operators tokens).length + p.awaitsOperand.toNat ≤
          (operands tokens).length := most
      have within : (operands tokens).length ≤ (operators tokens).length := bound
      have satisfied := Bool.toNat_eq_zero.mp (by omega : p.awaitsOperand.toNat = 0)
      rw [satisfied] at count ⊢
      exact ⟨rfl, ih behind count⟩

/-- Without juxtaposition operands and operators alternate if there is one operand more. -/
theorem Unjuxtaposed.alternates (h : Unjuxtaposed tokens)
    (count : (operands tokens).length = (operators tokens).length + 1) :
    Alternates true tokens :=
  alternates_behind (h.cons (t := .lparen) rfl) (Nat.le_of_eq count.symm)

/-! ### Alternating tokens are derived -/

/-- Tokens alternate around a closing parenthesis exactly when they do before it and, with no
operand awaited, behind it. -/
theorem alternates_append_rparen {awaited : Bool} :
    Alternates awaited (u ++ .rparen :: v) ↔ Alternates awaited u ∧ Alternates false v := by
  induction u generalizing awaited with
  | nil => exact and_congr_left' eq_comm
  | cons t u ih =>
    rw [List.cons_append, Alternates, Alternates, ih, and_assoc]

/-- Balanced tokens that alternate with an operand awaited begin with a factor, if what is
shorter is a sum. -/
theorem Alternates.exists_factor (alternates : Alternates true w) (balanced : Balanced w)
    (shorter : ∀ s, s.length < w.length → Alternates true s → Balanced s →
      ∃ e, Derives .sum s e) :
    ∃ f v l, w = f ++ v ∧ Derives .factor f l ∧ Alternates false v := by
  cases w with
  | nil => cases alternates
  | cons t w =>
    obtain ⟨begins, alternates⟩ := alternates
    cases t with
    | operand a => exact ⟨[.operand a], w, _, rfl, .operand a, alternates⟩
    | operator o => cases begins
    | lparen =>
      obtain ⟨s, v, rfl, inner⟩ := balanced.exists_group
      obtain ⟨within, behind⟩ := alternates_append_rparen.mp alternates
      have short : s.length < (.lparen :: (s ++ .rparen :: v)).length := by
        simp only [List.length_cons, List.length_append]
        omega
      obtain ⟨e, sum⟩ := shorter s short within inner
      exact ⟨.lparen :: s ++ [.rparen], v, e, by simp, .group sum, behind⟩
    | rparen => cases begins

/-- Balanced tokens that alternate with an operand awaited are a sum. -/
theorem Alternates.exists_derives (alternates : Alternates true w) (balanced : Balanced w) :
    ∃ e, Derives .sum w e := by
  induction length : w.length using Nat.strong_induction_on generalizing w with
  | h n ih =>
    subst length
    obtain ⟨f, v, l, rfl, factor, behind⟩ := alternates.exists_factor balanced
      fun s short alternates balanced => ih s.length short alternates balanced rfl
    have closed := balanced.of_append_left factor.balanced
    -- Behind the first factor nothing is left, or an operator with what alternates behind it.
    cases v with
    | nil =>
      rw [List.append_nil]
      exact ⟨l, factor.ofKind .sum⟩
    | cons t v =>
      obtain ⟨begins, alternates⟩ := behind
      cases t with
      | operand a => cases begins
      | operator o =>
        have short : v.length < (f ++ .operator o :: v).length := by
          simp only [List.length_append, List.length_cons]
          omega
        obtain ⟨e, sum⟩ := ih v.length short alternates closed.of_cons_operator rfl
        exact Derives.exists_join o (factor.ofKind .sum) sum
      | lparen => cases begins
      | rparen => exact absurd rfl (closed.ne_append_rparen Token.balanced_nil)

/-- Balanced tokens in which nothing is juxtaposed are a sum if there is one operand more than
there are operators. -/
theorem Unjuxtaposed.exists_derives (h : Unjuxtaposed tokens) (balanced : Balanced tokens)
    (count : (operands tokens).length = (operators tokens).length + 1) :
    ∃ e, Derives .sum tokens e :=
  (h.alternates count).exists_derives balanced

/-! ### Operators in a phrase are supplied -/

namespace Derives

variable {e : Expr}

/-- Every phrase begins with a factor. -/
theorem exists_first_factor (h : Derives kind w e) :
    ∃ f v l, w = f ++ v ∧ Derives .factor f l := by
  induction h with
  | operand a => exact ⟨_, [], _, (List.append_nil _).symm, .operand a⟩
  | group inner _ => exact ⟨_, [], _, (List.append_nil _).symm, .group inner⟩
  | ofFactor _ ih => exact ih
  | multiplicative _ _ _ ih _ =>
    obtain ⟨f, v, l, rfl, factor⟩ := ih
    exact ⟨f, _, l, List.append_assoc _ _ _, factor⟩
  | ofTerm _ ih => exact ih
  | additive _ _ _ ih _ =>
    obtain ⟨f, v, l, rfl, factor⟩ := ih
    exact ⟨f, _, l, List.append_assoc _ _ _, factor⟩

/-- Every phrase ends with a factor. -/
theorem exists_last_factor (h : Derives kind w e) :
    ∃ u f l, w = u ++ f ∧ Derives .factor f l := by
  induction h with
  | operand a => exact ⟨[], _, _, rfl, .operand a⟩
  | group inner _ => exact ⟨[], _, _, rfl, .group inner⟩
  | ofFactor _ ih => exact ih
  | @multiplicative o u v l r _ _ right _ _ => exact ⟨u ++ [.operator o], v, r, by simp, right⟩
  | ofTerm _ ih => exact ih
  | @additive o u v l r _ _ _ _ ih =>
    obtain ⟨u', f, l', rfl, factor⟩ := ih
    exact ⟨u ++ .operator o :: u', f, l', by simp, factor⟩

end Derives

namespace Supplied

/-- An operator stays supplied when more stands before and behind. -/
theorem extend (h : Supplied u v) (before behind : List Token) :
    Supplied (before ++ u) (v ++ behind) := by
  obtain ⟨⟨u', f, l, rfl, left⟩, g, v', r, rfl, right⟩ := h
  exact ⟨⟨before ++ u', f, l, (List.append_assoc _ _ _).symm, left⟩,
    g, v' ++ behind, r, List.append_assoc _ _ _, right⟩

/-- Behind a supplied operator stands an operand. -/
theorem operands_ne_nil (h : Supplied u v) : operands v ≠ [] := by
  obtain ⟨-, f, v', r, rfl, factor⟩ := h
  rw [Token.operands_append, ← factor.leaves_eq]
  exact List.append_ne_nil_of_left_ne_nil r.leaves_ne_nil _

end Supplied

/-- The operators of two phrases joined by an operator are supplied if they are in the
phrases. -/
theorem Derives.supplied_binary {kind' : Nonterminal} {x y : List Token} {l r : Expr}
    {o o' : Operator} (left : Derives kind x l) (right : Derives kind' y r)
    (in_left : ∀ u v, x = u ++ .operator o :: v → Supplied u v)
    (in_right : ∀ u v, y = u ++ .operator o :: v → Supplied u v)
    (whole : x ++ .operator o' :: y = u ++ .operator o :: v) : Supplied u v := by
  rcases List.append_eq_append_iff.mp whole with ⟨u', rfl, behind⟩ | ⟨v', rfl, behind⟩
  · cases u' with
    | nil =>
      obtain ⟨-, rfl⟩ := List.cons.inj behind
      rw [List.append_nil]
      exact ⟨left.exists_last_factor, right.exists_first_factor⟩
    | cons t u' =>
      obtain ⟨-, rfl⟩ := List.cons.inj behind
      have supplied := (in_right u' v rfl).extend (x ++ [t]) []
      simpa using supplied
  · cases v' with
    | nil =>
      obtain ⟨-, rfl⟩ := List.cons.inj behind
      rw [List.append_nil] at left
      exact ⟨left.exists_last_factor, right.exists_first_factor⟩
    | cons t v' =>
      obtain ⟨rfl, rfl⟩ := List.cons.inj behind
      exact (in_left u v' rfl).extend [] _

/-- Every operator in a phrase is supplied. -/
theorem Derives.supplied {e : Expr} {o : Operator} (h : Derives kind w e)
    (split : w = u ++ .operator o :: v) : Supplied u v := by
  induction h generalizing u v with
  | operand a =>
    have impossible : Token.operator o ∈ [Token.operand a] := by simp [split]
    simp at impossible
  | @group w e _ ih =>
    cases u with
    | nil => cases split
    | cons t u =>
      obtain ⟨rfl, -⟩ := List.cons.inj split
      have within : w ++ [.rparen] = u ++ .operator o :: v := List.cons.inj split |>.2
      -- The last token behind the operator is the closing parenthesis of the group.
      rcases List.eq_nil_or_concat v with rfl | ⟨v, last, rfl⟩
      · have impossible := (List.append_inj' within rfl).2
        cases impossible
      · rw [List.concat_eq_append, ← List.cons_append, ← List.append_assoc] at within
        obtain ⟨rfl, -⟩ := List.append_inj' within rfl
        rw [List.concat_eq_append]
        exact (ih rfl).extend [.lparen] [last]
  | ofFactor _ ih => exact ih split
  | multiplicative _ left right ihl ihr =>
    exact supplied_binary left right (fun _ _ => ihl) (fun _ _ => ihr) split
  | ofTerm _ ih => exact ih split
  | additive _ left right ihl ihr =>
    exact supplied_binary left right (fun _ _ => ihl) (fun _ _ => ihr) split

/-! ### Accepted texts -/

/-- Tokens that are read with nothing left over are a sum with their tree, once their groups are
closed, if nothing in them is juxtaposed. -/
theorem Unjuxtaposed.derives_closeAll {e : Expr} (h : Unjuxtaposed tokens)
    (read : ofInfix .strict tokens = .ok e) : Derives .sum (closeAll tokens) e := by
  have contained := Postfix.contained_of_toPostfix (Postfix.toPostfix_of_ofInfix_strict read).1
  have closed := unjuxtaposed_closeAll_iff.mpr h
  obtain ⟨e', sum⟩ := closed.exists_derives contained.balanced_closeAll
    (by simpa using length_operands_of_ofInfix_strict read)
  -- The tree of the derivation is the one that was read.
  have same := (ofInfix_closeAll contained .strict).symm.trans (sum.ofInfix_eq_ok .strict)
  rw [read] at same
  rwa [Except.ok.inj same]

/-- Tokens in which nothing is juxtaposed are refused if an operator lacks a factor on one
side. -/
theorem Unjuxtaposed.refused {o : Operator} (h : Unjuxtaposed tokens)
    (split : closeAll tokens = u ++ .operator o :: v) (lacking : ¬ Supplied u v) :
    ∃ cause, ofInfix .strict tokens = .error cause := by
  cases read : ofInfix .strict tokens with
  | error cause => exact ⟨cause, rfl⟩
  | ok e => exact absurd ((h.derives_closeAll read).supplied split) lacking

/-- Tokens in which nothing is juxtaposed are refused if they end with an operator. -/
theorem Unjuxtaposed.refused_of_getLast? {o : Operator} (h : Unjuxtaposed tokens)
    (last : tokens.getLast? = some (.operator o)) :
    ∃ cause, ofInfix .strict tokens = .error cause := by
  obtain ⟨u, ends⟩ := List.getLast?_eq_some_iff.mp last
  -- Behind the operator stand only the parentheses that close what is open.
  have split : closeAll tokens =
      u ++ .operator o :: List.replicate (Token.unclosed tokens) .rparen := by
    rw [← List.singleton_append, ← List.append_assoc, ← ends, closeAll]
  apply h.refused split
  intro supplied
  exact supplied.operands_ne_nil (by simp [operands, Token.operand?])

/-- An accepted text, with the groups closed that it leaves open, is a sum of the grammar with
its expression as the tree exactly when nothing in it is juxtaposed. A text in which nothing is
juxtaposed is refused if an operator lacks a factor on one side, and so it is if it ends with
an operator. -/
theorem accepted_derives_iff_unjuxtaposed :
    (∀ (text : String) (e : Expr), parse .strict text = .ok e →
      (Derives .sum (closeAll (tokenize text)) e ↔ Unjuxtaposed (tokenize text))) ∧
    (∀ (text : String) (u v : List Token) (o : Operator), Unjuxtaposed (tokenize text) →
      closeAll (tokenize text) = u ++ .operator o :: v → ¬ Supplied u v →
      ∃ cause, parse .strict text = .error cause) ∧
    ∀ (text : String) (o : Operator), Unjuxtaposed (tokenize text) →
      (tokenize text).getLast? = some (.operator o) →
      ∃ cause, parse .strict text = .error cause := by
  refine ⟨?_, ?_, ?_⟩
  · intro text e read
    constructor
    · intro sum
      exact unjuxtaposed_closeAll_iff.mp sum.unjuxtaposed
    · intro apart
      exact apart.derives_closeAll read
  · intro text u v o apart split lacking
    exact apart.refused split lacking
  · intro text o apart last
    exact apart.refused_of_getLast? last

/-- In `((a+b)*2` nothing is juxtaposed, so it is a sum once the group is closed. In `a*(b+)` and
in `a+b-` an operator lacks an operand. -/
theorem accepted_derives_open_group :
    (∃ e, parse .strict "((a+b)*2" = .ok e ∧ Derives .sum (closeAll (tokenize "((a+b)*2")) e) ∧
    (∃ cause, parse .strict "a*(b+)" = .error cause) ∧
    ∃ cause, parse .strict "a+b-" = .error cause := by
  obtain ⟨accepted, lacking, trailing⟩ := accepted_derives_iff_unjuxtaposed
  have read : parse .strict "((a+b)*2" = .ok
      (.binary .multiply (.binary .add (.leaf (.var 'a')) (.leaf (.var 'b')))
        (.leaf (.lit '2'))) := by decide
  refine ⟨⟨_, read, (accepted _ _ read).mpr (by decide)⟩, ?_, ?_⟩
  · apply lacking "a*(b+)" [.operand (.var 'a'), .operator .multiply, .lparen, .operand (.var 'b')]
      [.rparen] .add (by decide) (by decide)
    intro supplied
    exact supplied.operands_ne_nil rfl
  · exact trailing "a+b-" .subtract (by decide) (by decide)

/-- The operator in `12+` stands behind both digits, which are juxtaposed. The text is read like
`1+2` although it is no sum of the grammar. -/
theorem misplaced_operator_accepted :
    parse .strict "12+" = .ok (.binary .add (.leaf (.lit '1')) (.leaf (.lit '2'))) ∧
      (tokenize "12+").getLast? = some (.operator .add) ∧
      ¬ ∃ e, Derives .sum (closeAll (tokenize "12+")) e := by
  refine ⟨by decide, by decide, ?_⟩
  rintro ⟨e, sum⟩
  have juxtaposed : ¬ Unjuxtaposed (closeAll (tokenize "12+")) := by decide
  exact juxtaposed sum.unjuxtaposed

end Arith
