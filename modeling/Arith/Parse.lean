import Arith.Expr.Dump
import Arith.Log

/-!
# Parsing

A text is read into tokens, the tokens are put into postfix order, and the expression is
built from that order. Each of these is given plainly and as a logged computation with
the same outcome.

## Main definitions

* `Arith.ofInfix` and `Arith.parse`: the expression that infix tokens or a text stand for.
* `Arith.postfixOf`: the tokens of a text in postfix order.
* `Arith.dump`: the dump of a text's expression, or why there is none.
* `Arith.Logged.parse`: the parse of a text with its log.

## Main results

* `Arith.ofInfix_eq_ok_iff`: infix tokens stand for an expression exactly when their
  postfix order does.
* `Arith.Logged.result_parse`: the logged parse has the outcome of the plain one.
-/

namespace Arith

/-- The expression that infix tokens stand for. -/
def ofInfix (config : Config) (tokens : List Token) : Except ParseError Expr :=
  (toPostfix tokens).bind (Expr.ofPostfix config.leftovers)

/-- The expression that a text stands for. -/
def parse (config : Config) (text : String) : Except ParseError Expr :=
  ofInfix config (tokenize text)

/-- Infix tokens stand for an expression exactly when their postfix order does. -/
theorem ofInfix_eq_ok_iff {config : Config} {tokens : List Token} {e : Expr} :
    ofInfix config tokens = .ok e ↔
      ∃ order, toPostfix tokens = .ok order ∧ Expr.ofPostfix config.leftovers order = .ok e := by
  unfold ofInfix
  cases toPostfix tokens <;> simp [Except.bind]

/-- Infix tokens that have no postfix order are refused for the same cause. -/
theorem ofInfix_of_error {config : Config} {tokens : List Token} {cause : ParseError}
    (h : toPostfix tokens = .error cause) : ofInfix config tokens = .error cause := by
  rw [ofInfix, h]
  rfl

/-- Infix tokens stand for what their postfix order stands for. -/
theorem ofInfix_of_ok {tokens order : List Token} (config : Config)
    (h : toPostfix tokens = .ok order) :
    ofInfix config tokens = Expr.ofPostfix config.leftovers order := by
  rw [ofInfix, h]
  rfl

/-- The tokens of a text in postfix order. -/
def postfixOf (text : String) : Except ParseError (List Token) :=
  toPostfix (tokenize text)

/-- The dump of the expression that a text stands for. -/
def dump (text : String) : Except Failure String :=
  match parse .strict text with
  | .error cause => .error { purpose := .parse, expression := text, cause }
  | .ok tree => .ok tree.render

namespace Logged

/-- The tokens of a text; each skipped character is an event. -/
def tokenize (text : String) : Logged (List Token) := do
  emit ((skips text).map Event.skipped)
  return Arith.tokenize text

/-- The tokens in postfix order, with the account of the run. -/
def toPostfix (tokens : List Token) : Logged (List Token) := do
  let (moves, balanced) := Postfix.convert tokens
  emit (moves.filterMap Event.ofMove?)
  if balanced then
    let result := Postfix.output moves
    emit [.ordered result]
    return result
  else
    ofExcept (.error .unbalancedParenthesis)

/-- The expression that tokens in postfix order stand for; dropping operands is an
event. -/
def ofPostfix (leftovers : Leftovers) (tokens : List Token) : Logged Expr := do
  if tokens.isEmpty then
    ofExcept (.error .emptyInput)
  else
    let stack ← ofExcept (Expr.reduce [] tokens)
    if leftovers = .keepTopmost ∧ 1 < stack.length then
      emit [.dropped (stack.length - 1)]
    ofExcept (Expr.settle leftovers stack)

/-- The expression that infix tokens stand for. -/
def ofInfix (config : Config) (tokens : List Token) : Logged Expr := do
  ofPostfix config.leftovers (← toPostfix tokens)

/-- The expression that a text stands for. -/
def parse (config : Config) (text : String) : Logged Expr := do
  let tree ← ofInfix config (← tokenize text)
  emit [.parsed text tree]
  return tree

/-- The tokens of a text in postfix order. -/
def postfixOf (text : String) : Logged (List Token) := do
  toPostfix (← tokenize text)

/-! ### The outcome of a logged computation is that of the plain one -/

@[simp] theorem result_tokenize (text : String) :
    (tokenize text).result = .ok (Arith.tokenize text) := rfl

@[simp] theorem result_toPostfix (tokens : List Token) :
    (toPostfix tokens).result = Arith.toPostfix tokens := by
  unfold toPostfix Arith.toPostfix
  rcases Postfix.convert tokens with ⟨moves, _ | _⟩ <;> simp [Except.bind]

@[simp] theorem result_ofPostfix (leftovers : Leftovers) (tokens : List Token) :
    (ofPostfix leftovers tokens).result = Expr.ofPostfix leftovers tokens := by
  unfold ofPostfix Expr.ofPostfix
  split
  · rfl
  · simp only [result_bind, result_ofExcept]
    cases Expr.reduce [] tokens with
    | error e => rfl
    | ok stack =>
      simp only [Except.bind]
      split <;> simp [Except.bind]

@[simp] theorem result_ofInfix (config : Config) (tokens : List Token) :
    (ofInfix config tokens).result = Arith.ofInfix config tokens := by
  simp [ofInfix, Arith.ofInfix]

/-- The logged parse has the outcome of the plain one. -/
@[simp] theorem result_parse (config : Config) (text : String) :
    (parse config text).result = Arith.parse config text := by
  unfold parse Arith.parse
  simp only [result_bind, result_tokenize, Except.bind, result_ofInfix]
  cases Arith.ofInfix config (Arith.tokenize text) <;> simp

@[simp] theorem result_postfixOf (text : String) :
    (postfixOf text).result = Arith.postfixOf text := by
  simp [postfixOf, Arith.postfixOf, Except.bind]

end Logged

end Arith
