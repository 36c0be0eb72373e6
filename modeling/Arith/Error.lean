import Arith.Text.Quoted

/-!
# Why an expression is refused

A parse error names the cause; a failure adds what was to be done and the expression it
was to be done to.

## Main definitions

* `Arith.ParseError`: the causes, with `message` for a sentence and `inspect` for
  the value written out.
* `Arith.Failure`: a cause with its purpose and expression, with `chain` for the
  sentences from the outermost in and `full` for all of them in one line.
-/

namespace Arith

/-- Why tokens do not form an expression. -/
inductive ParseError
  /-- A closing parenthesis has no opening one before it. -/
  | unbalancedParenthesis
  /-- The stack of operands held `found` operands where `expected` were needed. -/
  | incompleteExpression (expected found : Nat)
  /-- The tokens are of a form that no expression has. -/
  | malformedInput (detail : String)
  deriving DecidableEq, Repr

namespace ParseError

/-- There is neither an operand nor an operator. -/
def emptyInput : ParseError :=
  malformedInput "expression contains no operands or operators"

/-- Tokens in postfix order contain a parenthesis. -/
def parenthesisInPostfix : ParseError :=
  malformedInput "there should not be any parenthesis present in postfix input"

/-- The cause as a sentence. -/
def message : ParseError → String
  | unbalancedParenthesis => "unbalanced parenthesis: ')' has no matching '('"
  | incompleteExpression expected found =>
    "incomplete expression: expected " ++ toString expected ++
      " operand(s) on the stack, found " ++ toString found
  | malformedInput detail => "malformed input: " ++ detail

theorem message_unbalancedParenthesis :
    unbalancedParenthesis.message = "unbalanced parenthesis: ')' has no matching '('" := rfl

theorem message_incompleteExpression (expected found : Nat) :
    (incompleteExpression expected found).message = "incomplete expression: expected " ++
      toString expected ++ " operand(s) on the stack, found " ++ toString found := rfl

theorem message_malformedInput (detail : String) :
    (malformedInput detail).message = "malformed input: " ++ detail := rfl

/-- The name of the kind of cause. -/
def kind : ParseError → String
  | unbalancedParenthesis => "UnbalancedParenthesis"
  | incompleteExpression _ _ => "IncompleteExpression"
  | malformedInput _ => "MalformedInput"

/-- The cause written out with its fields. -/
def inspect (e : ParseError) : String :=
  match e with
  | unbalancedParenthesis => e.kind
  | incompleteExpression expected found =>
    e.kind ++ " \x7b expected: " ++ toString expected ++ ", found: " ++ toString found ++ " \x7d"
  | malformedInput detail => e.kind ++ "(" ++ quote detail ++ ")"

end ParseError

/-- What was to be done with an expression. -/
inductive Purpose
  /-- The expression was to become a tree. -/
  | parse
  /-- The expression was to be put into postfix order. -/
  | convert
  deriving DecidableEq, Repr

/-- A purpose given up on an expression, with the cause. -/
structure Failure where
  purpose : Purpose
  expression : String
  cause : ParseError
  deriving DecidableEq, Repr

namespace Failure

/-- The sentence that says what was given up. -/
def message (f : Failure) : String :=
  match f.purpose with
  | .parse => "could not parse expression " ++ quote f.expression
  | .convert => "could not convert " ++ quote f.expression ++ " to postfix"

/-- The sentences from the outermost in: what was given up, then why. -/
def chain (f : Failure) : List String :=
  [f.message, f.cause.message]

/-- The whole chain in one line. -/
def full (f : Failure) : String :=
  String.intercalate ": " f.chain

end Failure

end Arith
