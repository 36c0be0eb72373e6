/-!
# Binary operators

The four operators of arithmetic, with their symbols and their precedences.

## Main definitions

* `Arith.Operator`: addition, subtraction, multiplication and division.
* `Arith.Operator.symbol` and `Arith.Operator.ofSymbol?`: the character of an
  operator and the way back.
* `Arith.Operator.precedence`: how tightly an operator binds.

## Main results

* `Arith.Operator.ofSymbol?_eq_some_iff`: each operator has one symbol and no other
  character is one.
-/

namespace Arith

/-- A binary operator of arithmetic. -/
inductive Operator
  | add
  | subtract
  | multiply
  | divide
  deriving DecidableEq, Repr

namespace Operator

/-- The character that stands for the operator. -/
def symbol : Operator → Char
  | add => '+'
  | subtract => '-'
  | multiply => '*'
  | divide => '/'

/-- The operator that a character stands for. -/
def ofSymbol? : Char → Option Operator
  | '+' => some add
  | '-' => some subtract
  | '*' => some multiply
  | '/' => some divide
  | _ => none

/-- The name of the operator. -/
def name : Operator → String
  | add => "Add"
  | subtract => "Subtract"
  | multiply => "Multiply"
  | divide => "Divide"

/-- How tightly the operator binds: multiplication and division bind tighter than
addition and subtraction. -/
def precedence : Operator → Nat
  | add | subtract => 0
  | multiply | divide => 1

@[simp] theorem ofSymbol?_symbol (o : Operator) : ofSymbol? o.symbol = some o := by
  cases o <;> rfl

/-- A character stands for an operator exactly when it is the operator's symbol. -/
theorem ofSymbol?_eq_some_iff {c : Char} {o : Operator} : ofSymbol? c = some o ↔ c = o.symbol := by
  constructor
  · intro h
    unfold ofSymbol? at h
    split at h <;> cases h <;> rfl
  · rintro rfl
    exact ofSymbol?_symbol o

/-- Different operators have different symbols. -/
theorem symbol_injective {o o' : Operator} (h : o.symbol = o'.symbol) : o = o' := by
  have := ofSymbol?_symbol o
  rw [h, ofSymbol?_symbol] at this
  exact (Option.some.inj this).symm

theorem precedence_le_one (o : Operator) : o.precedence ≤ 1 := by
  cases o <;> decide

end Operator

end Arith
