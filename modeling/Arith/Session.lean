import Arith.Expr.Outline
import Arith.Parse

/-!
# Sessions

A session works on a stack of expressions. Its steps push what a text or a token stands
for, combine and take apart what is on top, put expressions into postfix order and read
them again, and collect dumps in a running text. A step that needs more expressions than
there are, and a step whose reading fails, leave the stack as it is.

## Main definitions

* `Arith.Session`: the stack, how strictly input is read, and the dumps collected.
* `Arith.Session.Step` and `Arith.Session.Answer`: what can be asked, and what is said.
* `Arith.Session.apply` and `Arith.Session.run`: one step, and a list of steps.

## Main results

* `Arith.Session.apply_of_underflow` and `Arith.Session.apply_of_failed`: a step that needs
  more expressions than there are, or whose reading fails, changes nothing.
-/

namespace Arith

/-- A stack of expressions with the topmost first, the configuration for reading, and the
dumps collected so far. -/
structure Session where
  stack : List Expr := []
  config : Config := .strict
  collected : String := ""

namespace Session

/-- What can be asked of a session. -/
inductive Step
  /-- Pushes the expression that a text stands for. -/
  | parse (text : String)
  /-- Pushes what a single token in postfix order stands for. -/
  | leaf (t : Token)
  /-- Combines the two topmost expressions, the upper one on the right. -/
  | binary (o : Operator)
  /-- Groups the topmost expression. -/
  | paren
  /-- Replaces the topmost expression by its operands, the right one on top. -/
  | split
  | dup
  | drop
  | swap
  /-- Asks whether the two topmost expressions are equal. -/
  | equal
  /-- Asks for the outline of the topmost expression. -/
  | outline
  /-- Reads the postfix order of all expressions, bottom first, as one, and pushes it. -/
  | join
  /-- Replaces the topmost expression by what its postfix order stands for. -/
  | rebuild
  /-- Reads the postfix order of the topmost expression as if it were infix, and pushes
  it. -/
  | reorder
  /-- Reads the dump of the topmost expression as a text, and pushes it. -/
  | reparse
  /-- Adds the dump of the topmost expression to those collected. -/
  | visit
  /-- Asks for the dumps collected, and starts anew. -/
  | finish
  /-- Reads leniently from now on. -/
  | lenient
  /-- Reads strictly from now on. -/
  | strict

/-- What a session says to a step. -/
inductive Answer
  | done
  | text (text : String)
  | verdict (holds : Bool)
  | failed (e : ParseError)
  /-- The step needs more expressions than there are. -/
  | underflow
  deriving DecidableEq, Repr

/-- Pushes an expression, or says why there is none and pushes nothing. -/
def push (s : Session) : Except ParseError Expr → Answer × Session
  | .error e => (.failed e, s)
  | .ok e => (.done, { s with stack := e :: s.stack })

/-- The answer to a step and the session after it. -/
def apply (s : Session) : Step → Answer × Session
  | .parse text => s.push (Arith.parse s.config text)
  | .leaf t => s.push (Expr.ofPostfix s.config.leftovers [t])
  | .join =>
    s.push (Expr.ofPostfix s.config.leftovers (s.stack.reverse.flatMap Expr.toPostfix))
  | .finish => (.text s.collected, { s with collected := "" })
  | .lenient => (.verdict (Config.lenient = .strict), { s with config := .lenient })
  | .strict => (.verdict (Config.strict = .strict), { s with config := .strict })
  | .binary o =>
    match s.stack with
    | right :: left :: rest => (.done, { s with stack := .binary o left right :: rest })
    | _ => (.underflow, s)
  | .swap =>
    match s.stack with
    | top :: next :: rest => (.done, { s with stack := next :: top :: rest })
    | _ => (.underflow, s)
  | .equal =>
    match s.stack with
    | top :: next :: _ => (.verdict (top = next), s)
    | _ => (.underflow, s)
  | .paren =>
    match s.stack with
    | top :: rest => (.done, { s with stack := .paren top :: rest })
    | [] => (.underflow, s)
  | .split =>
    match s.stack with
    | .binary o left right :: rest =>
      (.text o.symbol.toString, { s with stack := right :: left :: rest })
    | .paren inner :: rest => (.text "()", { s with stack := inner :: rest })
    | .leaf _ :: _ => (.done, s)
    | [] => (.underflow, s)
  | .dup =>
    match s.stack with
    | top :: rest => (.done, { s with stack := top :: top :: rest })
    | [] => (.underflow, s)
  | .drop =>
    match s.stack with
    | _ :: rest => (.done, { s with stack := rest })
    | [] => (.underflow, s)
  | .outline =>
    match s.stack with
    | top :: _ => (.text top.outline, s)
    | [] => (.underflow, s)
  | .rebuild =>
    match s.stack with
    | top :: rest =>
      match Expr.ofPostfix s.config.leftovers top.toPostfix with
      | .error e => (.failed e, s)
      | .ok e => (.done, { s with stack := e :: rest })
    | [] => (.underflow, s)
  | .reorder =>
    match s.stack with
    | top :: _ => s.push (ofInfix s.config top.toPostfix)
    | [] => (.underflow, s)
  | .reparse =>
    match s.stack with
    | top :: _ => s.push (Arith.parse s.config top.render)
    | [] => (.underflow, s)
  | .visit =>
    match s.stack with
    | top :: _ => (.done, { s with collected := top.accept Visitor.dump s.collected })
    | [] => (.underflow, s)

/-- The answers to a list of steps, each with the session after it. -/
def run (s : Session) : List Step → List (Answer × Session)
  | [] => []
  | step :: steps =>
    let next := s.apply step
    next :: run next.2 steps

/-! ### Steps that change nothing -/

variable {s : Session} {step : Step} {e : ParseError}

theorem push_of_failed {read : Except ParseError Expr} (h : (s.push read).1 = .failed e) :
    (s.push read).2 = s := by
  cases read with
  | error => rfl
  | ok tree => cases h

theorem push_ne_underflow {read : Except ParseError Expr} : (s.push read).1 ≠ .underflow := by
  cases read <;> simp [push]

/-- A step that needs more expressions than there are changes nothing. -/
theorem apply_of_underflow (h : (s.apply step).1 = .underflow) : (s.apply step).2 = s := by
  revert h
  cases step <;> simp only [apply]
  -- These steps push what they read, whatever is on the stack.
  case parse | leaf | join => exact fun h => (push_ne_underflow h).elim
  all_goals repeat' split
  all_goals simp [push_ne_underflow]

/-- A step whose reading fails changes nothing. -/
theorem apply_of_failed (h : (s.apply step).1 = .failed e) : (s.apply step).2 = s := by
  revert h
  cases step <;> simp only [apply]
  case parse | leaf | join => exact push_of_failed
  -- These two read what is on top and push it.
  case reorder | reparse =>
    split
    · exact push_of_failed
    · simp
  all_goals repeat' split
  all_goals simp

end Session

end Arith
