import Arith.Proofs.DelayedOperators
import Arith.Proofs.Phrase
import Arith.Proofs.SpineWalk

/-!
# A dump is no expression

The dump of an expression may be taken for a text like any other. The letters of a node's name
are then operands that stand side by side, and its parentheses are a group. In such a group stands
one operator at most, between two dumps that leave many expressions each, so it never comes short;
it makes one expression of the two topmost. How many expressions are left in the end is therefore
told by the expression that was dumped: every leaf and every node adds the letters of its name, a
leaf its own character too, and an operator takes one away.

That is never one, so the strict reading refuses every dump with that count, and the lenient
reading, for which nothing comes short either, accepts it.

## Main definitions

* `Arith.Piles`: tokens that only ever make the stack of operands higher.
* `Arith.Expr.weight`: how many expressions the dump leaves.

## Main results

* `Arith.Piles.binary`: an operator in a group makes one expression of two that its sides leave.
* `Arith.Expr.piles_spelling`: a spelling makes the stack higher by the weight.
* `Arith.Expr.dump_is_no_expression`: how the dump of an expression is read.
-/

namespace Arith

open Postfix (Atomic)

/-- The tokens are atomic, and their postfix order makes every stack of operands higher by
`count`. -/
def Piles (tokens : List Token) (count : Nat) : Prop :=
  ∃ order, Atomic tokens order ∧ ∀ n, Expr.height n order = some (n + count)

/-- The number of expressions that the dump of the expression leaves when it is read itself. -/
def Expr.weight : Expr → Nat
  | leaf (.lit _) => 8
  | leaf (.var _) => 9
  | binary _ l r => l.weight + r.weight + 5
  | paren inner => inner.weight + 5

namespace Piles

variable {tokens tokens' : List Token} {count count' : Nat}

theorem nil : Piles [] 0 :=
  ⟨[], Postfix.atomic_nil, fun _ => rfl⟩

theorem operand (a : Operand) : Piles [.operand a] 1 :=
  ⟨[.operand a], Postfix.atomic_operand a, fun _ => rfl⟩

/-- What tokens leave, others behind them leave alone. -/
theorem append (h : Piles tokens count) (h' : Piles tokens' count') :
    Piles (tokens ++ tokens') (count + count') := by
  obtain ⟨order, atomic, height⟩ := h
  obtain ⟨order', atomic', height'⟩ := h'
  refine ⟨order ++ order', atomic.append atomic', fun n => ?_⟩
  rw [Expr.height_append, height, Option.bind_some, height', Nat.add_assoc]

theorem map_operand (as : List Operand) : Piles (as.map .operand) as.length := by
  induction as with
  | nil => exact nil
  | cons a as ih =>
    rw [List.length_cons, Nat.add_comm]
    exact (operand a).append ih

/-- Parentheses change nothing. -/
theorem group (h : Piles tokens count) : Piles ([.lparen] ++ tokens ++ [.rparen]) count := by
  obtain ⟨order, atomic, height⟩ := h
  exact ⟨order, (atomic.runsAs 0).parentheses, height⟩

/-- An operator in a group makes one expression of two that its sides leave. -/
theorem binary (o : Operator) (hl : Piles tokens count) (hr : Piles tokens' count')
    (enough : 2 ≤ count + count') :
    Piles ([.lparen] ++ (tokens ++ .operator o :: tokens') ++ [.rparen])
      (count + count' - 1) := by
  obtain ⟨order, atomic, height⟩ := hl
  obtain ⟨order', atomic', height'⟩ := hr
  have joined := (atomic.runsAs o.precedence).binary rfl (atomic'.runsAs (o.precedence + 1))
  refine ⟨_, (joined.loosen (Nat.zero_le _)).parentheses, fun n => ?_⟩
  rw [Expr.height_append, Expr.height_append, height, Option.bind_some, height', Option.bind_some]
  obtain ⟨more, many⟩ := Nat.exists_eq_add_of_le' enough
  rw [Nat.add_assoc, many, ← Nat.add_assoc]
  rfl

end Piles

/-! ### The tokens of a spelling -/

/-- Letters are read as variables. -/
theorem tokenize_of_isAlpha {name : String} (letters : ∀ c ∈ name.toList, c.isAlpha = true) :
    tokenize name = (name.toList.map .var).map .operand := by
  rw [tokenize, List.map_map, ← List.filterMap_eq_map]
  apply List.filterMap_congr
  intro c mem
  exact Token.ofChar?_eq_some_iff.mpr ⟨rfl, isAlphabetic_of_isAlpha (letters c mem)⟩

/-- A name with something in parentheses behind it leaves its letters and what stands there. -/
theorem piles_named {name contents : String} {count : Nat}
    (letters : ∀ c ∈ name.toList, c.isAlpha = true)
    (h : Piles ([.lparen] ++ tokenize contents ++ [.rparen]) count) :
    Piles (tokenize (name ++ "(" ++ contents ++ ")")) (name.length + count) := by
  have parts : tokenize (name ++ "(" ++ contents ++ ")") =
      (name.toList.map .var).map .operand ++ ([.lparen] ++ tokenize contents ++ [.rparen]) := by
    rw [tokenize_append, tokenize_append, tokenize_append, tokenize_of_isAlpha letters,
      List.append_assoc, List.append_assoc]
    rfl
  have counted : (name.toList.map Operand.var).length = name.length := by
    rw [List.length_map, String.length_toList]
  rw [parts, ← counted]
  exact (Piles.map_operand _).append h

/-- A digit or an alphabetic character is read as an operand. -/
theorem exists_tokenize_eq_operand {c : Char} (legible : c.isDigit = true ∨ isAlphabetic c = true) :
    ∃ a, tokenize c.toString = [.operand a] := by
  rcases legible with digit | letter
  · have read : Token.ofChar? c = some (.operand (.lit c)) :=
      Token.ofChar?_eq_some_iff.mpr ⟨rfl, digit⟩
    exact ⟨.lit c, by simp [tokenize, read]⟩
  · have read : Token.ofChar? c = some (.operand (.var c)) :=
      Token.ofChar?_eq_some_iff.mpr ⟨rfl, letter⟩
    exact ⟨.var c, by simp [tokenize, read]⟩

/-- Between two texts an operator's symbol is read as the operator. -/
theorem tokenize_around_symbol (o : Operator) (left right : String) :
    tokenize (left ++ o.symbol.toString ++ right) =
      tokenize left ++ .operator o :: tokenize right := by
  have symbol : tokenize o.symbol.toString = [.operator o] := by
    simp [tokenize, Token.ofChar?_symbol]
  rw [tokenize_append, tokenize_append, symbol, List.append_assoc, List.singleton_append]

namespace Expr

theorem eight_le_weight (e : Expr) : 8 ≤ e.weight := by
  induction e with
  | leaf a => cases a <;> simp [weight]
  | binary o l r ihl _ =>
    rw [weight]
    omega
  | paren inner ih =>
    rw [weight]
    omega

/-- A spelling makes the stack higher by the weight of the expression. -/
theorem piles_spelling {e : Expr}
    (legible : ∀ a ∈ e.leaves, a.char.isDigit = true ∨ isAlphabetic a.char = true) :
    Piles (tokenize e.spelling) e.weight := by
  induction e with
  | leaf a =>
    obtain ⟨a', read⟩ := exists_tokenize_eq_operand (legible a List.mem_cons_self)
    have contents : Piles ([.lparen] ++ tokenize a.char.toString ++ [.rparen]) 1 := by
      rw [read]
      exact (Piles.operand a').group
    cases a with
    | lit c =>
      have named : (leaf (.lit c)).spelling = "Literal" ++ "(" ++ c.toString ++ ")" := rfl
      rw [named]
      exact piles_named (by simp) contents
    | var c =>
      have named : (leaf (.var c)).spelling = "Variable" ++ "(" ++ c.toString ++ ")" := rfl
      rw [named]
      exact piles_named (by simp) contents
  | binary o l r ihl ihr =>
    obtain ⟨legible_left, legible_right⟩ := List.forall_mem_append.mp legible
    have named : (binary o l r).spelling =
        "Binary" ++ "(" ++ (l.spelling ++ o.symbol.toString ++ r.spelling) ++ ")" := by
      apply String.toList_inj.mp
      simp [spelling]
    have bound := l.eight_le_weight
    have taken : Piles ([.lparen] ++ (tokenize l.spelling ++ .operator o :: tokenize r.spelling) ++
        [.rparen]) (l.weight + r.weight - 1) :=
      (ihl legible_left).binary o (ihr legible_right) (by omega)
    have count : (binary o l r).weight = "Binary".length + (l.weight + r.weight - 1) := by
      have letters : "Binary".length = 6 := rfl
      rw [weight, letters]
      omega
    rw [named, count]
    apply piles_named (by simp)
    rw [tokenize_around_symbol]
    exact taken
  | paren inner ih =>
    have named : (paren inner).spelling = "Paren" ++ "(" ++ inner.spelling ++ ")" := rfl
    rw [named, weight, Nat.add_comm]
    exact piles_named (by simp) (ih legible).group

/-- The dump of an expression is no expression. If every leaf holds a digit or an alphabetic
character, of whichever kind the leaf is and wherever it is grouped, the strict reading of the
dump finds as many expressions left over as the expression weighs, and nothing else to complain
of; the lenient reading accepts the dump. -/
theorem dump_is_no_expression {e : Expr}
    (legible : ∀ a ∈ e.leaves, a.char.isDigit = true ∨ isAlphabetic a.char = true) :
    parse .strict e.render = .error (.incompleteExpression 1 e.weight) ∧
      ∃ e', parse .lenient e.render = .ok e' := by
  obtain ⟨order, atomic, height⟩ := piles_spelling legible
  have ordered : Arith.toPostfix (tokenize e.render) = .ok order := by
    rw [render_eq_spelling]
    exact (atomic.runsAs 0).toPostfix_eq
  have reached : Expr.height ([] : List Expr).length order = some e.weight := by
    rw [List.length_nil, height, Nat.zero_add]
  obtain ⟨stack, read, high⟩ := exists_reduce_iff.mpr reached
  have bound := e.eight_le_weight
  match stack with
  | [] =>
    rw [List.length_nil] at high
    omega
  | top :: below =>
    rw [List.length_cons] at high
    have leftover : below ≠ [] := List.ne_nil_of_length_pos (by omega)
    constructor
    · rw [parse, ofInfix_of_ok _ ordered]
      exact ofPostfix_reject_leftover_iff.mpr ⟨top, below, read, leftover, high.symm⟩
    · refine ⟨top, ?_⟩
      rw [parse, ofInfix_of_ok _ ordered]
      exact (ofPostfix_of_reduce .keepTopmost read).trans (settle_keepTopmost top below)

/-- A literal may hold a letter and a variable a digit. The quotient of two such leaves in a group
weighs 8 + 9 + 5 + 5. -/
theorem dump_is_no_expression_grouped :
    ∃ e : Expr, e.render = "Paren(Binary(Literal(x)/Variable(7)))" ∧
      (∀ a ∈ e.leaves, a.char.isDigit = true ∨ isAlphabetic a.char = true) ∧
      parse .strict "Paren(Binary(Literal(x)/Variable(7)))" =
        .error (.incompleteExpression 1 27) ∧
      ∃ e', parse .lenient "Paren(Binary(Literal(x)/Variable(7)))" = .ok e' := by
  let e := paren (binary .divide (leaf (.lit 'x')) (leaf (.var '7')))
  have dumped : e.render = "Paren(Binary(Literal(x)/Variable(7)))" := by
    rw [render_eq_spelling]
    decide
  have legible : ∀ a ∈ e.leaves, a.char.isDigit = true ∨ isAlphabetic a.char = true := by
    decide
  have read := dump_is_no_expression legible
  rw [dumped] at read
  exact ⟨e, dumped, legible, read⟩

end Expr

end Arith
