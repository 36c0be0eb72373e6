import Arith.Proofs.Conservation
import Arith.Proofs.LenientReading

/-!
# Outcomes told by counts

How a parse comes out is largely told by how many operands and operators the text has.
Putting the tokens into postfix order keeps both counts and leaves the parentheses out, so
nothing but an operator with fewer than two operands can stop the reading of that order. An
operand adds one expression to the stack and an operator takes one away; the stack at the end
is thus as high as there are more operands than operators, and never empty once a token was
read. With too few operands an operator must have come short, and with too many the two
configurations part.

## Main definitions

* `Arith.ComesShort`: an operator finds fewer than two operands, whatever becomes of leftovers.
* `Arith.CountsTell`: what the numbers of operands and operators say about the outcomes.

## Main results

* `Arith.Expr.length_of_reduce`: the height of the stack counts operands and operators.
* `Arith.Expr.cause_of_reduce_error_of_plain`: without parentheses reading stops only at an
  operator that comes short.
* `Arith.parse_outcome_by_counts`: the outcomes of parsing a text, told by counts.
-/

namespace Arith

open Token (opens closes operands operators Contained)

variable {tokens order : List Token}

/-- Every token is an operand, an operator or a parenthesis. -/
theorem Token.length_eq (tokens : List Token) :
    tokens.length =
      (operands tokens).length + (operators tokens).length + opens tokens + closes tokens := by
  induction tokens with
  | nil => rfl
  | cons t tokens ih =>
    cases t <;> simp [ih] <;> omega

namespace Postfix

/-- A token that no move puts out is not in the output. -/
theorem not_mem_output {t : Token} (never : ∀ move : Move, move.token? ≠ some t)
    (moves : List Move) : t ∉ output moves := by
  intro mem
  obtain ⟨move, -, put⟩ := List.mem_filterMap.mp mem
  exact never move put

/-- Moves put out no parentheses. -/
theorem plain_output (moves : List Move) :
    opens (output moves) = 0 ∧ closes (output moves) = 0 := by
  constructor
  · apply List.count_eq_zero.mpr (not_mem_output _ moves)
    intro move
    cases move <;> simp [Move.token?]
  · apply List.count_eq_zero.mpr (not_mem_output _ moves)
    intro move
    cases move <;> simp [Move.token?]

/-- There are no parentheses in postfix order. -/
theorem plain_of_toPostfix (h : toPostfix tokens = .ok order) :
    opens order = 0 ∧ closes order = 0 := by
  obtain ⟨stack, -, rfl⟩ := toPostfix_eq_ok_iff.mp h
  exact plain_output _

end Postfix

namespace Expr

variable {stack rest : List Expr} {cause : ParseError}

/-- An operand makes the stack higher by one expression and an operator makes it lower by
one. -/
theorem length_of_reduce (h : reduce stack order = .ok rest) :
    rest.length + (Token.operators order).length = stack.length + (operands order).length := by
  fun_induction reduce stack order with
  | case1 stack =>
    obtain rfl := Except.ok.inj h
    rfl
  | case2 stack a order ih =>
    have counted := ih h
    simp only [List.length_cons, Token.operands_cons_operand, Token.operators_cons_operand] at *
    omega
  | case3 right left stack o order ih =>
    have counted := ih h
    simp only [List.length_cons, Token.operands_cons_operator, Token.operators_cons_operator] at *
    omega
  | case4 stack o order short => cases h
  | case5 => cases h
  | case6 => cases h

/-- A parenthesis is complained of only where there is one. -/
theorem not_plain_of_reduce_error (h : reduce stack order = .error .parenthesisInPostfix) :
    0 < opens order + closes order := by
  fun_induction reduce stack order with
  | case1 stack => cases h
  | case2 stack a order ih => simpa using ih h
  | case3 right left stack o order ih => simpa using ih h
  | case4 stack o order short => simp [ParseError.parenthesisInPostfix] at h
  | case5 stack order =>
    rw [Token.opens_cons_lparen]
    omega
  | case6 stack order =>
    rw [Token.closes_cons_rparen]
    omega

/-- Without parentheses reading stops only at an operator with fewer than two operands. -/
theorem cause_of_reduce_error_of_plain (h : reduce stack order = .error cause)
    (plain : opens order = 0 ∧ closes order = 0) :
    ∃ found ≤ 1, cause = .incompleteExpression 2 found := by
  rcases cause_of_reduce_error h with ⟨found, few, rfl⟩ | rfl
  · exact ⟨found, Nat.le_of_lt_succ few, rfl⟩
  · have counted := not_plain_of_reduce_error h
    omega

/-- Of a stack nothing but its height is complained of. -/
theorem cause_of_settle_error {leftovers : Leftovers} (h : settle leftovers stack = .error cause) :
    ∃ found, cause = .incompleteExpression 1 found := by
  match stack with
  | [] => exact ⟨0, (Except.error.inj h).symm⟩
  | [root] => cases h
  | root :: next :: rest =>
    cases leftovers with
    | reject => exact ⟨_, (Except.error.inj h).symm⟩
    | keepTopmost => cases h

/-- A stack is never complained of for its form. -/
theorem settle_ne_malformed (leftovers : Leftovers) (stack : List Expr) (detail : String) :
    settle leftovers stack ≠ .error (.malformedInput detail) := by
  intro refused
  obtain ⟨found, impossible⟩ := cause_of_settle_error refused
  cases impossible

end Expr

/-- An operator finds fewer than two operands, and it is the same under all configurations. -/
def ComesShort (outcome : Config → Except ParseError Expr) : Prop :=
  ∃ found ≤ 1, ∀ config, outcome config = .error (.incompleteExpression 2 found)

/-- What the numbers of operands and of operators say about the outcomes under the
configurations. -/
structure CountsTell (operandCount operatorCount : Nat)
    (outcome : Config → Except ParseError Expr) : Prop where
  malformed_iff : ∀ config, (∃ detail, outcome config = .error (.malformedInput detail)) ↔
    operandCount = 0 ∧ operatorCount = 0
  malformed : operandCount = 0 → operatorCount = 0 → ∀ config, outcome config =
    .error (.malformedInput "expression contains no operands or operators")
  few : operandCount ≤ operatorCount → 0 < operandCount + operatorCount → ComesShort outcome
  enough : operandCount = operatorCount + 1 →
    (∃ e, ∀ config, outcome config = .ok e) ∨ ComesShort outcome
  many : operatorCount + 2 ≤ operandCount →
    (outcome .strict = .error (.incompleteExpression 1 (operandCount - operatorCount)) ∧
      ∃ e, outcome .lenient = .ok e) ∨ ComesShort outcome

/-- Tokens that have a postfix order are parsed in one of three ways: there is nothing to
read, an operator comes short, or a stack is left that is as high as there are more operands
than operators. -/
theorem ofInfix_cases (h : toPostfix tokens = .ok order) :
    ((operands tokens).length = 0 ∧ (operators tokens).length = 0 ∧
      ∀ config, ofInfix config tokens = .error .emptyInput) ∨
    (0 < (operands tokens).length + (operators tokens).length ∧
      ComesShort (ofInfix · tokens)) ∨
    ∃ e below, (operands tokens).length = (operators tokens).length + below.length + 1 ∧
      ∀ config, ofInfix config tokens = Expr.settle config.leftovers (e :: below) := by
  have plain := Postfix.plain_of_toPostfix h
  have kept := congrArg List.length (Postfix.operands_of_toPostfix h)
  have kept' := (Postfix.operators_of_toPostfix h).length_eq
  have length := Token.length_eq order
  rw [plain.1, plain.2, kept, kept'] at length
  cases read : Expr.reduce [] order with
  | error cause =>
    obtain ⟨found, few, rfl⟩ := Expr.cause_of_reduce_error_of_plain read plain
    refine .inr (.inl ⟨?_, found, few, fun config => ?_⟩)
    · -- Nothing stops the reading of the empty order.
      refine Nat.pos_of_ne_zero fun none => ?_
      obtain rfl := List.eq_nil_of_length_eq_zero (length.trans none)
      cases read
    · exact (ofInfix_of_ok config h).trans (Expr.ofPostfix_of_reduce_error _ read)
  | ok stack =>
    have height := Expr.length_of_reduce read
    rw [kept, kept', List.length_nil, Nat.zero_add] at height
    cases stack with
    | nil =>
      -- Only the empty order leaves an empty stack.
      obtain ⟨rfl, -⟩ := Expr.reduce_nil_eq_ok_iff.mp read
      simp only [List.reverse_nil, List.flatMap_nil, List.length_nil] at length
      exact .inl ⟨by omega, by omega, fun config => ofInfix_of_ok config h⟩
    | cons e below =>
      rw [List.length_cons] at height
      refine .inr (.inr ⟨e, below, by omega, fun config => ?_⟩)
      rw [ofInfix_of_ok config h, Expr.ofPostfix_of_reduce _ read]

/-- The counts tell the outcomes for tokens that have a postfix order. -/
theorem countsTell_of_toPostfix (h : toPostfix tokens = .ok order) :
    CountsTell (operands tokens).length (operators tokens).length (ofInfix · tokens) := by
  rcases ofInfix_cases h with ⟨none, none', empty⟩ | ⟨present, short⟩ | ⟨e, below, height, settled⟩
  · refine ⟨fun config => ?_, fun _ _ => empty, ?_, ?_, ?_⟩
    · exact ⟨fun _ => ⟨none, none'⟩, fun _ => ⟨_, empty config⟩⟩
    · omega
    · omega
    · omega
  · refine ⟨fun config => ?_, ?_, fun _ _ => short, fun _ => .inr short, fun _ => .inr short⟩
    · obtain ⟨found, few, refused⟩ := short
      constructor
      · rintro ⟨detail, malformed⟩
        cases (refused config).symm.trans malformed
      · omega
    · omega
  · -- The stack that is left is settled, and only its height matters for that.
    refine ⟨fun config => ?_, ?_, ?_, fun enough => .inl ⟨e, ?_⟩, fun many => .inl ⟨?_, e, ?_⟩⟩
    · constructor
      · rintro ⟨detail, malformed⟩
        exact absurd ((settled config).symm.trans malformed) (Expr.settle_ne_malformed _ _ _)
      · omega
    · omega
    · omega
    · obtain rfl := List.eq_nil_of_length_eq_zero (by omega : below.length = 0)
      exact settled
    · have leftover : below ≠ [] := List.ne_nil_of_length_pos (by omega)
      have count : (operands tokens).length - (operators tokens).length = below.length + 1 := by
        omega
      rw [count]
      exact (settled .strict).trans (Expr.settle_reject_of_ne_nil e leftover)
    · exact (settled .lenient).trans (Expr.settle_keepTopmost e below)

/-- Whatever infix tokens are refused for, it is not a parenthesis in their postfix order. -/
theorem ofInfix_ne_parenthesisInPostfix (config : Config) (tokens : List Token) :
    ofInfix config tokens ≠ .error .parenthesisInPostfix := by
  intro complained
  cases ordered : toPostfix tokens with
  | error cause =>
    obtain ⟨-, rfl⟩ := Postfix.toPostfix_eq_error_iff.mp ordered
    cases (ofInfix_of_error ordered).symm.trans complained
  | ok order =>
    rcases ofInfix_cases ordered with ⟨-, -, empty⟩ | ⟨-, found, -, refused⟩ |
      ⟨e, below, -, settled⟩
    · have same := (empty config).symm.trans complained
      simp [ParseError.emptyInput, ParseError.parenthesisInPostfix] at same
    · cases (refused config).symm.trans complained
    · exact Expr.settle_ne_malformed _ _ _ ((settled config).symm.trans complained)

/-- Infix tokens are refused for a closing parenthesis exactly when their postfix order is. -/
theorem ofInfix_eq_unbalancedParenthesis_iff {config : Config} :
    ofInfix config tokens = .error .unbalancedParenthesis ↔
      toPostfix tokens = .error .unbalancedParenthesis := by
  refine ⟨fun refused => ?_, ofInfix_of_error⟩
  cases ordered : toPostfix tokens with
  | error cause =>
    obtain ⟨-, rfl⟩ := Postfix.toPostfix_eq_error_iff.mp ordered
    rfl
  | ok order =>
    rcases ofInfix_cases ordered with ⟨-, -, empty⟩ | ⟨-, found, -, short⟩ | ⟨e, below, -, settled⟩
    · cases (empty config).symm.trans refused
    · cases (short config).symm.trans refused
    · obtain ⟨found, impossible⟩ := Expr.cause_of_settle_error ((settled config).symm.trans refused)
      cases impossible

/-- The counts of a text's operands and operators tell how parsing it comes out, if the text
closes no group that it has not opened. Without either it is refused for having none. With no
more operands than operators an operator comes short. With one operand more the
configurations agree, on an expression or on an operator that comes short. With still more
operands either an operator comes short or operands are left over, as many as there are more
of them than operators, and then the configurations differ. From no text at all is a
parenthesis complained of in postfix order. -/
theorem parse_outcome_by_counts :
    (∀ text : String, Contained (tokenize text) →
      CountsTell (operands (tokenize text)).length (operators (tokenize text)).length
        (parse · text)) ∧
    ∀ (config : Config) (text : String), parse config text ≠ .error .parenthesisInPostfix := by
  constructor
  · intro text contained
    obtain ⟨moves, rest, ran⟩ := Postfix.exists_run_of_contained contained
    exact countsTell_of_toPostfix (Postfix.toPostfix_of_run ran)
  · intro config text
    exact ofInfix_ne_parenthesisInPostfix config (tokenize text)

/-- In `12(a-b` there are three operands more than operators, none of which comes short, so
three are found where one was expected. In `1-(+*` there are too few operands. -/
theorem parse_outcome_by_counts_open_group :
    Contained (tokenize "12(a-b") ∧
      parse .strict "12(a-b" = .error (.incompleteExpression 1 3) ∧
      (∃ e, parse .lenient "12(a-b" = .ok e) ∧
    Contained (tokenize "1-(+*") ∧ ComesShort (parse · "1-(+*") := by
  have many : tokenize "12(a-b" =
      [.operand (.lit '1'), .operand (.lit '2'), .lparen, .operand (.var 'a'),
        .operator .subtract, .operand (.var 'b')] := by decide
  have few : tokenize "1-(+*" =
      [.operand (.lit '1'), .operator .subtract, .lparen, .operator .add,
        .operator .multiply] := by decide
  have contained : Contained (tokenize "12(a-b") := by
    rw [many]
    decide
  have contained' : Contained (tokenize "1-(+*") := by
    rw [few]
    decide
  have read : parse .lenient "12(a-b" =
      .ok (.binary .subtract (.leaf (.var 'a')) (.leaf (.var 'b'))) := by
    rw [parse, many]
    rfl
  have tells := parse_outcome_by_counts.1 _ contained
  have tells' := parse_outcome_by_counts.1 _ contained'
  rw [many] at tells
  rw [few] at tells'
  refine ⟨contained, ?_, ⟨_, read⟩, contained', tells'.few (by decide) (by decide)⟩
  rcases tells.many (by decide) with ⟨refused, -⟩ | ⟨found, -, short⟩
  · exact refused
  · cases (short .lenient).symm.trans read

end Arith
