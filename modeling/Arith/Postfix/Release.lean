import Arith.Token.Balance

/-!
# Where an operator is released

The order in which operators leave the stack can be read off the infix tokens alone. An
operator waits until the first later token, in its own group, that closes the group or is
an operator binding no tighter, and to the end of the list if there is none. An operand
does not wait.

## Main definitions

* `Arith.Postfix.EndsWait`: the tokens that end the wait of an operator.
* `Arith.Postfix.Releases`: a later position ends the wait of an operator.
* `Arith.Postfix.releasePoint`: the first such position.
* `Arith.Postfix.emission`: the position at which a token enters the output.
* `Arith.Postfix.Precedes`: the order in which positions enter the output.
-/

namespace Arith

namespace Postfix

/-- The token ends the wait of the operator `o`: it closes a group, or is an operator that
binds no tighter than `o`. -/
def EndsWait (o : Operator) : Token → Prop
  | .rparen => True
  | .operator o' => o'.precedence ≤ o.precedence
  | .operand _ | .lparen => False

instance (o : Operator) (t : Token) : Decidable (EndsWait o t) :=
  match t with
  | .rparen => inferInstanceAs (Decidable True)
  | .operator o' => inferInstanceAs (Decidable (o'.precedence ≤ o.precedence))
  | .operand _ | .lparen => inferInstanceAs (Decidable False)

/-- Position `j` ends the wait of the operator `o` at position `i`: it stands in the same
group and its token ends the wait. -/
def Releases (tokens : List Token) (o : Operator) (i j : Nat) : Prop :=
  i < j ∧ Token.Balanced ((tokens.take j).drop (i + 1)) ∧ ∃ t ∈ tokens[j]?, EndsWait o t

instance (tokens : List Token) (o : Operator) (i j : Nat) : Decidable (Releases tokens o i j) :=
  inferInstanceAs (Decidable (_ ∧ _ ∧ _))

/-- The first position that ends the wait of the operator `o` at position `i`, or the
length of the list if there is none. -/
def releasePoint (tokens : List Token) (o : Operator) (i : Nat) : Nat :=
  ((List.range tokens.length).find? fun j => Releases tokens o i j).getD tokens.length

/-- The position at which the token at position `i` enters the output: its own for an
operand and the release point for an operator. Parentheses never enter it. -/
def emission (tokens : List Token) (i : Nat) : Option Nat :=
  match tokens[i]? with
  | some (.operand _) => some i
  | some (.operator o) => some (releasePoint tokens o i)
  | _ => none

/-- The token at position `i` enters the output before the one at position `j`: at an
earlier position, or at the same one and `i` is the later of the two. -/
def Precedes (tokens : List Token) (i j : Nat) : Prop :=
  ∃ k ∈ emission tokens i, ∃ k' ∈ emission tokens j, k < k' ∨ k = k' ∧ j < i

instance (tokens : List Token) (i j : Nat) : Decidable (Precedes tokens i j) :=
  inferInstanceAs (Decidable (∃ _, _ ∧ _))

end Postfix

end Arith
