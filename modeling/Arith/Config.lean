/-!
# How strictly input is read

Numbers are not grouped, so `12+3` leaves the operand `1` over. A configuration
says what becomes of operands left over.

## Main definitions

* `Arith.Leftovers`: refuse leftover operands or keep the topmost one.
* `Arith.Config`: how strictly input is read, strict unless said otherwise.
-/

namespace Arith

/-- What becomes of operands that no operator combines. -/
inductive Leftovers
  /-- More than one operand at the end is an error. -/
  | reject
  /-- The operand built last is the result and the others are dropped. -/
  | keepTopmost
  deriving DecidableEq, Repr

/-- How strictly input is read. -/
structure Config where
  leftovers : Leftovers := .reject
  deriving DecidableEq, Repr

namespace Config

/-- Leftover operands are refused. -/
def strict : Config := {}

/-- Of the operands left over the last one built is kept. -/
def lenient : Config := { leftovers := .keepTopmost }

/-- The configuration written out with its fields. -/
def inspect (config : Config) : String :=
  let leftovers := match config.leftovers with
    | .reject => "Reject"
    | .keepTopmost => "KeepTopmost"
  "ParserConfig \x7b leftovers: " ++ leftovers ++ " \x7d"

end Config

end Arith
