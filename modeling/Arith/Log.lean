import Arith.Expr.Inspect
import Arith.Expr.Postfix
import Arith.Postfix
import Arith.Token.Lexer

/-!
# The log of a parse

What happens while an expression is read can be followed in a log of events. An event is
a value; its level, its target and its message are functions of it. A logged computation
is a log with the outcome it leads to, and a failed one keeps the events before the
failure.

## Main definitions

* `Arith.Level`: how much an event matters.
* `Arith.Event`: what can happen, with `level`, `target` and `message`.
* `Arith.Logged`: a log and an outcome, with the operations of a monad.
-/

namespace Arith

/-- How much an event matters, from most to least. -/
inductive Level
  | error
  | warn
  | info
  | debug
  | trace
  deriving DecidableEq, Repr

namespace Level

/-- The place of the level, lower for what matters more. -/
def rank : Level → Nat
  | error => 1
  | warn => 2
  | info => 3
  | debug => 4
  | trace => 5

/-- The name of the level. -/
def name : Level → String
  | error => "ERROR"
  | warn => "WARN"
  | info => "INFO"
  | debug => "DEBUG"
  | trace => "TRACE"

/-- Whether events of this level are shown when those up to `limit` are. -/
def within (level limit : Level) : Bool :=
  level.rank ≤ limit.rank

end Level

/-- What can happen while an expression is read. -/
inductive Event
  /-- The command line sets out to parse a text. -/
  | started (text : String) (config : Config)
  /-- A character is no token. -/
  | skipped (skip : Skip)
  /-- An incoming operator sends a waiting one to the output. -/
  | flushed (incoming stacked : Operator)
  /-- A group was never closed. -/
  | discarded
  /-- The tokens are in postfix order. -/
  | ordered (tokens : List Token)
  /-- Operands left over are dropped. -/
  | dropped (count : Nat)
  /-- A text has become a tree. -/
  | parsed (text : String) (tree : Expr)
  deriving DecidableEq, Repr

namespace Event

/-- How much the event matters. -/
def level : Event → Level
  | started _ _ => .info
  | skipped _ | flushed _ _ | discarded => .trace
  | ordered _ | dropped _ | parsed _ _ => .debug

/-- The part of the program that the event belongs to. -/
def target : Event → String
  | started _ _ => "expression_parser"
  | skipped _ => "expression_parser::interpreter::lexer"
  | flushed _ _ | discarded => "expression_parser::interpreter::parser::infix_converter"
  | ordered _ => "expression_parser::interpreter::parser"
  | dropped _ => "expression_parser::interpreter::syntax::expression_tree"
  | parsed _ _ => "expression_parser::interpreter"

/-- The event as a sentence. -/
def message : Event → String
  | started text config => "parsing " ++ quote text ++ " with " ++ config.inspect
  | skipped skip =>
    "skipping " ++ quoteChar skip.char ++ " at position " ++ toString skip.position
  | flushed incoming stacked =>
    incoming.symbol.toString ++ " flushes " ++ stacked.symbol.toString
  | discarded => "discarding unmatched '('"
  | ordered tokens => "postfix: " ++ Token.inspectAll tokens
  | dropped count => "dropping " ++ toString count ++ " leftover operand(s)"
  | parsed text tree => "parsed " ++ quote text ++ " into " ++ tree.inspect

/-- The event that a move shows in the log, if it shows one. -/
def ofMove? : Postfix.Move → Option Event
  | .flush incoming stacked => some (flushed incoming stacked)
  | .discard => some discarded
  | .pass _ | .release _ => none

end Event

/-- A log of events with the outcome they lead to. -/
structure Logged (α : Type) where
  log : List Event
  result : Except ParseError α

namespace Logged

variable {α β : Type}

/-- Nothing happens and the value is the outcome. -/
def pure (a : α) : Logged α := ⟨[], .ok a⟩

/-- The events of `x`, and after a success those of what follows it. -/
def bind (x : Logged α) (f : α → Logged β) : Logged β :=
  match x.result with
  | .error e => ⟨x.log, .error e⟩
  | .ok a =>
    -- What follows is computed once, for its log and its outcome alike.
    let y := f a
    ⟨x.log ++ y.log, y.result⟩

instance : Monad Logged where
  pure := pure
  bind := bind

/-- The events happen. -/
def emit (events : List Event) : Logged Unit := ⟨events, .ok ()⟩

/-- The outcome is given and nothing happens. -/
def ofExcept (result : Except ParseError α) : Logged α := ⟨[], result⟩

@[simp] theorem log_pure (a : α) : (Pure.pure a : Logged α).log = [] := rfl

@[simp] theorem result_pure (a : α) : (Pure.pure a : Logged α).result = .ok a := rfl

@[simp] theorem log_emit (events : List Event) : (emit events).log = events := rfl

@[simp] theorem result_emit (events : List Event) : (emit events).result = .ok () := rfl

@[simp] theorem log_ofExcept (result : Except ParseError α) : (ofExcept result).log = [] := rfl

@[simp] theorem result_ofExcept (result : Except ParseError α) :
    (ofExcept result).result = result := rfl

@[simp] theorem result_bind (x : Logged α) (f : α → Logged β) :
    (x >>= f).result = x.result.bind fun a => (f a).result := by
  change (bind x f).result = _
  unfold bind
  cases x.result <;> rfl

theorem log_bind_of_ok {x : Logged α} {a : α} (h : x.result = .ok a) (f : α → Logged β) :
    (x >>= f).log = x.log ++ (f a).log := by
  change (bind x f).log = _
  unfold bind
  rw [h]

theorem log_bind_of_error {x : Logged α} {e : ParseError} (h : x.result = .error e)
    (f : α → Logged β) : (x >>= f).log = x.log := by
  change (bind x f).log = _
  unfold bind
  rw [h]

end Logged

end Arith
