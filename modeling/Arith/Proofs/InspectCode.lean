import Arith.Expr.Inspect
import Arith.Proofs.QuotedText

/-!
# Values written out are uniquely decodable

A token, a list of tokens or an expression that is written out with the names of its kinds and
fields can be read back from left to right. The first letters tell the kind; a quoted character ends
where its quotes do, whatever character it is; and what is behind a part is looked at only when the
part has come to its own end. So a leaf may hold a comma, a bracket or a brace without harm.

## Main results

* `Arith.Token.eq_of_inspect_append`: a token that is written out is told, and so is its end.
* `Arith.Token.inspectAll_injective`: lists of tokens are told by what is written for them.
* `Arith.Expr.eq_of_inspect_append`: an expression that is written out is told, and so is its end.
* `Arith.Expr.inspect_injective`: expressions are told by what is written for them.
-/

namespace Arith

variable {rest rest' : List Char}

/-- The name of an operator tells it, and where the name ends. -/
theorem Operator.eq_of_name_append {o o' : Operator}
    (h : o.name.toList ++ rest = o'.name.toList ++ rest') : o = o' ∧ rest = rest' := by
  cases o <;> cases o' <;> simp [name] at h <;> exact ⟨rfl, h⟩

/-- An operand that is written out is told, and so is its end. -/
theorem Operand.eq_of_inspect_append {a a' : Operand}
    (h : a.inspect.toList ++ rest = a'.inspect.toList ++ rest') : a = a' ∧ rest = rest' := by
  cases a with
  | lit c =>
    cases a' with
    | lit c' =>
      simp only [inspect, String.toList_append, List.append_assoc, List.append_cancel_left_eq] at h
      obtain ⟨rfl, closing⟩ := eq_of_quoteChar_append h
      exact ⟨rfl, List.append_cancel_left closing⟩
    | var c' => simp [inspect] at h
  | var c =>
    cases a' with
    | lit c' => simp [inspect] at h
    | var c' =>
      simp only [inspect, String.toList_append, List.append_assoc, List.append_cancel_left_eq] at h
      obtain ⟨rfl, closing⟩ := eq_of_quoteChar_append h
      exact ⟨rfl, List.append_cancel_left closing⟩

namespace Token

/-- A token that is written out is told, and so is its end. -/
theorem eq_of_inspect_append {t t' : Token}
    (h : t.inspect.toList ++ rest = t'.inspect.toList ++ rest') : t = t' ∧ rest = rest' := by
  -- Tokens of different kinds differ in their first letters.
  cases t with
  | operand a =>
    cases t' with
    | operand a' =>
      obtain ⟨rfl, behind⟩ := Operand.eq_of_inspect_append h
      exact ⟨rfl, behind⟩
    | operator o' => cases a <;> simp [inspect, Operand.inspect] at h
    | lparen => cases a <;> simp [inspect, Operand.inspect] at h
    | rparen => cases a <;> simp [inspect, Operand.inspect] at h
  | operator o =>
    cases t' with
    | operand a' => cases a' <;> simp [inspect, Operand.inspect] at h
    | operator o' =>
      simp only [inspect, String.toList_append, List.append_assoc, List.append_cancel_left_eq] at h
      obtain ⟨rfl, closing⟩ := Operator.eq_of_name_append h
      exact ⟨rfl, List.append_cancel_left closing⟩
    | lparen => simp [inspect] at h
    | rparen => simp [inspect] at h
  | lparen =>
    cases t' with
    | operand a' => cases a' <;> simp [inspect, Operand.inspect] at h
    | operator o' => simp [inspect] at h
    | lparen => exact ⟨rfl, List.append_cancel_left h⟩
    | rparen => simp [inspect] at h
  | rparen =>
    cases t' with
    | operand a' => cases a' <;> simp [inspect, Operand.inspect] at h
    | operator o' => simp [inspect] at h
    | lparen => simp [inspect] at h
    | rparen => exact ⟨rfl, List.append_cancel_left h⟩

/-! ### Lists of tokens -/

/-- The characters of the tokens behind the first one, each behind a comma. -/
def inspectLater (tokens : List Token) : List Char :=
  tokens.flatMap fun t => ", ".toList ++ t.inspect.toList

theorem toList_inspectAll_nil : (inspectAll []).toList = ['[', ']'] := by
  simp [inspectAll]

/-- Of several tokens the first one stands behind the bracket and the others behind commas. -/
theorem toList_inspectAll_cons (t : Token) (tokens : List Token) :
    (inspectAll (t :: tokens)).toList =
      '[' :: (t.inspect.toList ++ (inspectLater tokens ++ [']'])) := by
  have separated : ((", ").intercalate ((t :: tokens).map inspect)).toList =
      t.inspect.toList ++ inspectLater tokens := by
    induction tokens generalizing t with
    | nil => simp [inspectLater]
    | cons next tokens ih =>
      rw [List.map_cons, List.map_cons, String.intercalate_cons_cons, ← List.map_cons,
        String.toList_append, ih]
      simp [inspectLater]
  rw [inspectAll, String.toList_append, String.toList_append, separated]
  simp

/-- The tokens behind commas come apart again, and they are over at the bracket. -/
theorem eq_of_inspectLater_append {tokens tokens' : List Token}
    (h : inspectLater tokens ++ ']' :: rest = inspectLater tokens' ++ ']' :: rest') :
    tokens = tokens' ∧ rest = rest' := by
  -- Where one list is over before the other, a bracket would be the other's comma.
  induction tokens generalizing tokens' with
  | nil =>
    cases tokens' with
    | nil => exact ⟨rfl, (List.cons.inj h).2⟩
    | cons t' tokens' => simp [inspectLater] at h
  | cons t tokens ih =>
    cases tokens' with
    | nil => simp [inspectLater] at h
    | cons t' tokens' =>
      simp only [inspectLater, List.flatMap_cons, List.append_assoc,
        List.append_cancel_left_eq] at h
      obtain ⟨rfl, later⟩ := eq_of_inspect_append h
      obtain ⟨rfl, behind⟩ := ih later
      exact ⟨rfl, behind⟩

/-- No token is written beginning with a bracket. -/
theorem inspect_append_ne_bracket (t : Token) (rest rest' : List Char) :
    t.inspect.toList ++ rest ≠ ']' :: rest' := by
  cases t with
  | operand a => cases a <;> simp [inspect, Operand.inspect]
  | operator o => simp [inspect]
  | lparen => simp [inspect]
  | rparen => simp [inspect]

/-- Lists of tokens are told by what is written for them. -/
theorem inspectAll_injective {tokens tokens' : List Token}
    (h : inspectAll tokens = inspectAll tokens') : tokens = tokens' := by
  have written := congrArg String.toList h
  cases tokens with
  | nil =>
    cases tokens' with
    | nil => rfl
    | cons t' tokens' =>
      rw [toList_inspectAll_nil, toList_inspectAll_cons] at written
      exact absurd (List.cons.inj written).2.symm (inspect_append_ne_bracket t' _ _)
  | cons t tokens =>
    cases tokens' with
    | nil =>
      rw [toList_inspectAll_nil, toList_inspectAll_cons] at written
      exact absurd (List.cons.inj written).2 (inspect_append_ne_bracket t _ _)
    | cons t' tokens' =>
      rw [toList_inspectAll_cons, toList_inspectAll_cons] at written
      obtain ⟨rfl, later⟩ := eq_of_inspect_append (List.cons.inj written).2
      obtain ⟨rfl, -⟩ := eq_of_inspectLater_append later
      rfl

end Token

namespace Expr

/-! ### Expressions -/

theorem toList_inspect_binary_append (o : Operator) (l r : Expr) (rest : List Char) :
    (binary o l r).inspect.toList ++ rest =
      "Binary \x7b operator: ".toList ++ (o.name.toList ++ (", left_operand: ".toList ++
        (l.inspect.toList ++ (", right_operand: ".toList ++
          (r.inspect.toList ++ (" \x7d".toList ++ rest)))))) := by
  rw [inspect_binary]
  simp only [String.toList_append, List.append_assoc]

theorem toList_inspect_paren_append (inner : Expr) (rest : List Char) :
    (paren inner).inspect.toList ++ rest =
      "Paren(".toList ++ (inner.inspect.toList ++ (")".toList ++ rest)) := by
  rw [inspect_paren]
  simp only [String.toList_append, List.append_assoc]

/-- An expression that is written out is told, and so is its end. -/
theorem eq_of_inspect_append {e e' : Expr}
    (h : e.inspect.toList ++ rest = e'.inspect.toList ++ rest') : e = e' ∧ rest = rest' := by
  -- The text behind is arbitrary, since a part is followed by the rest of the whole.
  induction e generalizing e' rest rest' with
  | leaf a =>
    rw [inspect_leaf] at h
    cases e' with
    | leaf a' =>
      rw [inspect_leaf] at h
      obtain ⟨rfl, behind⟩ := Operand.eq_of_inspect_append h
      exact ⟨rfl, behind⟩
    | binary o' l' r' => cases a <;> simp [inspect_binary, Operand.inspect] at h
    | paren inner' => cases a <;> simp [inspect_paren, Operand.inspect] at h
  | binary o l r ihl ihr =>
    cases e' with
    | leaf a' => cases a' <;> simp [inspect_leaf, inspect_binary, Operand.inspect] at h
    | binary o' l' r' =>
      rw [toList_inspect_binary_append, toList_inspect_binary_append] at h
      obtain ⟨rfl, from_left⟩ := Operator.eq_of_name_append (List.append_cancel_left h)
      -- The left operand ends where its own text does, so the names of the fields stand together.
      obtain ⟨rfl, from_right⟩ := ihl (List.append_cancel_left from_left)
      obtain ⟨rfl, from_closing⟩ := ihr (List.append_cancel_left from_right)
      exact ⟨rfl, List.append_cancel_left from_closing⟩
    | paren inner' => simp [inspect_binary, inspect_paren] at h
  | paren inner ih =>
    cases e' with
    | leaf a' => cases a' <;> simp [inspect_leaf, inspect_paren, Operand.inspect] at h
    | binary o' l' r' => simp [inspect_binary, inspect_paren] at h
    | paren inner' =>
      rw [toList_inspect_paren_append, toList_inspect_paren_append] at h
      obtain ⟨rfl, from_closing⟩ := ih (List.append_cancel_left h)
      exact ⟨rfl, List.append_cancel_left from_closing⟩

/-- Expressions are told by what is written for them. -/
theorem inspect_injective {e e' : Expr} (h : e.inspect = e'.inspect) : e = e' := by
  have written : e.inspect.toList ++ [] = e'.inspect.toList ++ [] := by rw [h]
  exact (eq_of_inspect_append written).1

end Expr

end Arith
