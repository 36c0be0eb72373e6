import Arith.Operator
import Arith.Text.Alphabetic
import Arith.Text.Quoted

/-!
# Tokens

A token of an expression is one character with a meaning: an operand, an operator
or a parenthesis. An operand carries its character, and nothing looks at that
character again once the token exists, so a token may hold any character; those
that reading a text can give are called lexical.

## Main definitions

* `Arith.Operand`: a literal or a variable with its character.
* `Arith.Token`: an operand, an operator or a parenthesis.
* `Arith.Token.ofChar?`: the token that a character stands for.
* `Arith.Token.text`: tokens written one after the other.
* `Arith.Token.operands` and `Arith.Token.operators`: the operands and the operators of a
  list of tokens.
* `Arith.Token.Lexical`: the tokens that characters stand for.

## Main results

* `Arith.Token.ofChar?_eq_some_iff`: a character stands for a token exactly when it
  is the token's character and the token is lexical.
* `Arith.Token.eq_of_char_eq`: lexical tokens are told apart by their characters.
-/

namespace Arith

/-- An operand of an expression: a literal or a variable, with its character. -/
inductive Operand
  | lit (c : Char)
  | var (c : Char)
  deriving DecidableEq, Repr

namespace Operand

/-- The character of the operand. -/
def char : Operand → Char
  | lit c => c
  | var c => c

/-- The operand written out with its kind. -/
def inspect : Operand → String
  | lit c => "Literal(" ++ quoteChar c ++ ")"
  | var c => "Variable(" ++ quoteChar c ++ ")"

/-- Literals hold an ASCII digit and variables an alphabetic character. -/
def Lexical : Operand → Prop
  | lit c => c.isDigit = true
  | var c => isAlphabetic c = true

instance (a : Operand) : Decidable a.Lexical :=
  match a with
  | lit c => inferInstanceAs (Decidable (c.isDigit = true))
  | var c => inferInstanceAs (Decidable (isAlphabetic c = true))

end Operand

/-- A token of an expression. -/
inductive Token
  | operand (a : Operand)
  | operator (o : Operator)
  | lparen
  | rparen
  deriving DecidableEq, Repr

namespace Token

/-- The token that a character stands for: a parenthesis, an ASCII digit, an
alphabetic character or an operator symbol. Every other character has none. -/
def ofChar? (c : Char) : Option Token :=
  if c = '(' then some lparen
  else if c = ')' then some rparen
  else if c.isDigit then some (operand (.lit c))
  else if isAlphabetic c then some (operand (.var c))
  else (Operator.ofSymbol? c).map operator

/-- The character of the token. -/
def char : Token → Char
  | operand a => a.char
  | operator o => o.symbol
  | lparen => '('
  | rparen => ')'

/-- The tokens written one after the other, with nothing between them. -/
def text (tokens : List Token) : String :=
  String.ofList (tokens.map char)

/-- The token written out with its kind. -/
def inspect : Token → String
  | operand a => a.inspect
  | operator o => "Operator(" ++ o.name ++ ")"
  | lparen => "LeftParenthesis"
  | rparen => "RightParenthesis"

/-- The tokens written out with their kinds, in brackets and with commas. -/
def inspectAll (tokens : List Token) : String :=
  "[" ++ String.intercalate ", " (tokens.map inspect) ++ "]"

/-- The operand of the token, if it is one. -/
def operand? : Token → Option Operand
  | operand a => some a
  | _ => none

/-- The operator of the token, if it is one. -/
def operator? : Token → Option Operator
  | operator o => some o
  | _ => none

/-- The token with `f` applied to its operand or `g` to its operator. -/
def map (f : Operand → Operand) (g : Operator → Operator) : Token → Token
  | operand a => operand (f a)
  | operator o => operator (g o)
  | lparen => lparen
  | rparen => rparen

/-- The operands among the tokens, in their order. -/
def operands (tokens : List Token) : List Operand :=
  tokens.filterMap operand?

/-- The operators among the tokens, in their order. -/
def operators (tokens : List Token) : List Operator :=
  tokens.filterMap operator?

/-- The tokens that a character stands for. -/
def Lexical : Token → Prop
  | operand a => a.Lexical
  | _ => True

instance (t : Token) : Decidable t.Lexical :=
  match t with
  | operand a => inferInstanceAs (Decidable a.Lexical)
  | operator _ | lparen | rparen => inferInstanceAs (Decidable True)

/-! ### Reading one character -/

theorem toNat_of_isDigit {c : Char} (h : c.isDigit = true) : 0x30 ≤ c.toNat ∧ c.toNat ≤ 0x39 := by
  obtain ⟨low, high⟩ := Bool.and_eq_true_iff.mp h
  exact ⟨of_decide_eq_true low, of_decide_eq_true high⟩

/-- Operator symbols are neither digits nor alphabetic nor parentheses. -/
theorem ofChar?_symbol (o : Operator) : ofChar? o.symbol = some (operator o) := by
  cases o <;> decide

/-- A character stands for a token exactly when it is the token's character and the
token is lexical. -/
theorem ofChar?_eq_some_iff {c : Char} {t : Token} :
    ofChar? c = some t ↔ c = t.char ∧ t.Lexical := by
  constructor
  · -- Each branch of the reading yields the character's own token.
    intro h
    unfold ofChar? at h
    split at h
    · cases h
      exact ⟨‹_›, trivial⟩
    · split at h
      · cases h
        exact ⟨‹_›, trivial⟩
      · split at h
        · cases h
          exact ⟨rfl, ‹_›⟩
        · split at h
          · cases h
            exact ⟨rfl, ‹_›⟩
          · obtain ⟨o, symbol, rfl⟩ := Option.map_eq_some_iff.mp h
            exact ⟨Operator.ofSymbol?_eq_some_iff.mp symbol, trivial⟩
  · -- Digits lie above the parentheses and below the letters, so no branch before the
    -- right one takes them.
    rintro ⟨rfl, lexical⟩
    cases t with
    | operand a =>
      cases a with
      | lit c =>
        have range := toNat_of_isDigit lexical
        have open_ne : c ≠ '(' := by
          rintro rfl
          exact absurd range.1 (by decide)
        have close_ne : c ≠ ')' := by
          rintro rfl
          exact absurd range.1 (by decide)
        have digit : c.isDigit = true := lexical
        simp [ofChar?, char, Operand.char, open_ne, close_ne, digit]
      | var c =>
        have letter : isAlphabetic c = true := lexical
        have low : 0x41 ≤ c.toNat := by
          refine Nat.le_of_not_lt fun below => ?_
          rw [isAlphabetic_eq_false_of_lt below] at letter
          exact Bool.false_ne_true letter
        have open_ne : c ≠ '(' := by
          rintro rfl
          exact absurd low (by decide)
        have close_ne : c ≠ ')' := by
          rintro rfl
          exact absurd low (by decide)
        have digit : ¬ c.isDigit = true := fun digit => by
          have := toNat_of_isDigit digit
          omega
        simp [ofChar?, char, Operand.char, open_ne, close_ne, digit, letter]
    | operator o => exact ofChar?_symbol o
    | lparen => rfl
    | rparen => rfl

/-- A token is read back from its character exactly when it is lexical. -/
theorem ofChar?_char_iff {t : Token} : ofChar? t.char = some t ↔ t.Lexical := by
  simp [ofChar?_eq_some_iff]

/-- Lexical tokens are told apart by their characters. -/
theorem eq_of_char_eq {t t' : Token} (lexical : t.Lexical) (lexical' : t'.Lexical)
    (same : t.char = t'.char) : t = t' := by
  have read := ofChar?_char_iff.mpr lexical
  rw [same, ofChar?_char_iff.mpr lexical'] at read
  exact (Option.some.inj read).symm

/-! ### Operands and operators of a list -/

section Parts

variable (a : Operand) (o : Operator) (tokens tokens' : List Token)

@[simp] theorem operands_nil : operands [] = [] := rfl

@[simp] theorem operands_cons_operand : operands (operand a :: tokens) = a :: operands tokens := rfl

@[simp] theorem operands_cons_operator : operands (operator o :: tokens) = operands tokens := rfl

@[simp] theorem operands_cons_lparen : operands (lparen :: tokens) = operands tokens := rfl

@[simp] theorem operands_cons_rparen : operands (rparen :: tokens) = operands tokens := rfl

@[simp] theorem operands_append :
    operands (tokens ++ tokens') = operands tokens ++ operands tokens' :=
  List.filterMap_append

@[simp] theorem operators_nil : operators [] = [] := rfl

@[simp] theorem operators_cons_operand : operators (operand a :: tokens) = operators tokens := rfl

@[simp] theorem operators_cons_operator :
    operators (operator o :: tokens) = o :: operators tokens := rfl

@[simp] theorem operators_cons_lparen : operators (lparen :: tokens) = operators tokens := rfl

@[simp] theorem operators_cons_rparen : operators (rparen :: tokens) = operators tokens := rfl

@[simp] theorem operators_append :
    operators (tokens ++ tokens') = operators tokens ++ operators tokens' :=
  List.filterMap_append

end Parts

theorem mem_operands_iff {a : Operand} {tokens : List Token} :
    a ∈ operands tokens ↔ operand a ∈ tokens := by
  induction tokens with
  | nil => simp
  | cons t tokens ih => cases t <;> simp [ih]

theorem mem_operators_iff {o : Operator} {tokens : List Token} :
    o ∈ operators tokens ↔ operator o ∈ tokens := by
  induction tokens with
  | nil => simp
  | cons t tokens ih => cases t <;> simp [ih]

/-! ### Writing tokens -/

@[simp] theorem text_nil : text [] = "" := rfl

@[simp] theorem toList_text (tokens : List Token) : (text tokens).toList = tokens.map char := by
  simp [text]

end Token

end Arith
