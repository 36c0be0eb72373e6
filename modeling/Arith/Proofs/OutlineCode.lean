import Arith.Expr.Outline

/-!
# Outlines are uniquely decodable

The line of a node begins with one character that tells its kind, provided that the leaves
hold what a text can give them: a digit or an alphabetic character is neither an operator
symbol nor a parenthesis. What stands before that character is known from the lines above, and
so is what stands before each line below it. An outline is therefore read from its beginning,
node by node, and it ends where its last node does.

## Main definitions

* `Arith.Expr.mark`: the token that the line of a node begins with.
* `Arith.Expr.branches`: the characters of an outline below a given indentation.

## Main results

* `Arith.Expr.toList_outlineFrom`: an outline is written as its characters behind the text so
  far.
* `Arith.Expr.eq_of_branches_append`: the lines tell the expression and where they end.
* `Arith.Expr.eq_of_outline_eq`: expressions with lexical leaves are told by their outlines.
-/

namespace Arith

namespace Expr

/-- The token whose character is the first one behind the indentation in the root's line. -/
def mark : Expr → Token
  | leaf a => .operand a
  | binary o _ _ => .operator o
  | paren _ => .lparen

/-- The characters of the lines of an expression. The root's line starts with `first` and the
lines below it with `rest`, which every level extends by its branches. -/
def branches (first rest : List Char) : Expr → List Char
  | leaf a => first ++ a.char :: '\n' :: []
  | binary o left right =>
    first ++ o.symbol :: '\n' ::
      (left.branches (rest ++ "├─ ".toList) (rest ++ "│  ".toList) ++
        right.branches (rest ++ "└─ ".toList) (rest ++ "   ".toList))
  | paren inner =>
    first ++ '(' :: ')' :: '\n' ::
      inner.branches (rest ++ "└─ ".toList) (rest ++ "   ".toList)

variable {e e' : Expr} {first rest tail tail' : List Char}

/-- The outline is written behind the text so far. -/
theorem toList_outlineFrom (e : Expr) (first rest text : String) :
    (e.outlineFrom first rest text).toList =
      text.toList ++ e.branches first.toList rest.toList := by
  induction e generalizing first rest text with
  | leaf a => simp [outlineFrom, label, branches]
  | binary o l r ihl ihr => simp [outlineFrom, label, branches, ihl, ihr]
  | paren inner ih => simp [outlineFrom, label, branches, ih]

theorem toList_outline (e : Expr) :
    e.outline.toList = "expression\n".toList ++ e.branches "└─ ".toList "   ".toList :=
  toList_outlineFrom e _ _ _

/-- Behind the indentation stands the character of the mark. -/
theorem exists_branches_eq (e : Expr) (first rest : List Char) :
    ∃ below, e.branches first rest = first ++ e.mark.char :: below := by
  cases e with
  | leaf a => exact ⟨_, rfl⟩
  | binary o l r => exact ⟨_, rfl⟩
  | paren inner => exact ⟨_, rfl⟩

theorem lexical_mark (lexical : ∀ a ∈ e.leaves, a.Lexical) : e.mark.Lexical := by
  cases e with
  | leaf a => exact lexical a List.mem_cons_self
  | binary o l r => trivial
  | paren inner => trivial

/-- Lines that begin alike have the same mark. -/
theorem mark_eq_of_branches_append (lexical : ∀ a ∈ e.leaves, a.Lexical)
    (lexical' : ∀ a ∈ e'.leaves, a.Lexical)
    (h : e.branches first rest ++ tail = e'.branches first rest ++ tail') : e.mark = e'.mark := by
  obtain ⟨below, line⟩ := exists_branches_eq e first rest
  obtain ⟨below', line'⟩ := exists_branches_eq e' first rest
  rw [line, line', List.append_assoc, List.append_assoc, List.append_cancel_left_eq] at h
  exact Token.eq_of_char_eq (lexical_mark lexical) (lexical_mark lexical') (List.cons.inj h).1

/-- The lines tell the expression that they begin with, and where its last line ends. -/
theorem eq_of_branches_append (lexical : ∀ a ∈ e.leaves, a.Lexical)
    (lexical' : ∀ a ∈ e'.leaves, a.Lexical)
    (h : e.branches first rest ++ tail = e'.branches first rest ++ tail') :
    e = e' ∧ tail = tail' := by
  induction e generalizing e' first rest tail tail' with
  | leaf a =>
    have same := mark_eq_of_branches_append lexical lexical' h
    cases e' with
    | leaf a' =>
      obtain rfl := Token.operand.inj same
      exact ⟨rfl, List.append_cancel_left h⟩
    | binary o' l' r' => cases same
    | paren inner' => cases same
  | binary o l r ihl ihr =>
    have same := mark_eq_of_branches_append lexical lexical' h
    cases e' with
    | leaf a' => cases same
    | binary o' l' r' =>
      obtain rfl := Token.operator.inj same
      obtain ⟨lexical_left, lexical_right⟩ := List.forall_mem_append.mp lexical
      obtain ⟨lexical_left', lexical_right'⟩ := List.forall_mem_append.mp lexical'
      -- The lines of the left operand end where those of the right one begin.
      simp only [branches, List.append_assoc, List.cons_append, List.append_cancel_left_eq,
        List.cons.injEq, true_and] at h
      obtain ⟨rfl, from_right⟩ := ihl lexical_left lexical_left' h
      obtain ⟨rfl, behind⟩ := ihr lexical_right lexical_right' from_right
      exact ⟨rfl, behind⟩
    | paren inner' => cases same
  | paren inner ih =>
    have same := mark_eq_of_branches_append lexical lexical' h
    cases e' with
    | leaf a' => cases same
    | binary o' l' r' => cases same
    | paren inner' =>
      simp only [branches, List.append_assoc, List.cons_append, List.append_cancel_left_eq,
        List.cons.injEq, true_and] at h
      have lexical_inner' : ∀ a ∈ inner'.leaves, a.Lexical := lexical'
      obtain ⟨rfl, behind⟩ := ih lexical lexical_inner' h
      exact ⟨rfl, behind⟩

/-- Expressions whose leaves are lexical are told by their outlines. -/
theorem eq_of_outline_eq (lexical : ∀ a ∈ e.leaves, a.Lexical)
    (lexical' : ∀ a ∈ e'.leaves, a.Lexical) (h : e.outline = e'.outline) : e = e' := by
  have written := congrArg String.toList h
  rw [toList_outline, toList_outline, List.append_cancel_left_eq] at written
  have lines : e.branches "└─ ".toList "   ".toList ++ [] =
      e'.branches "└─ ".toList "   ".toList ++ [] := by rw [written]
  exact (eq_of_branches_append lexical lexical' lines).1

end Expr

end Arith
