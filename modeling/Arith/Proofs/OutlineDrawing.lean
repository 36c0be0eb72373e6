import Arith.Expr.Sketch
import Arith.Proofs.OutlineCode

/-!
# Outlines tell what they were drawn for

The visitor that sketches an expression closes every item that it opens, so a visit leaves the
items that were open as they were, with one more below the last of them. Drawn, that item is
the outline of the expression, whatever stands in front of its lines. Each node has a line of
its own, and there is one more for the title; no leaf that a text can give breaks a line in two.

## Main definitions

* `Arith.Expr.item`: the item that an expression is sketched as.
* `Arith.Expr.lines`: the lines of an expression below a given indentation.

## Main results

* `Arith.Expr.accept_sketcher`: a visit hangs the item of the expression below the open one.
* `Arith.Expr.drawing_eq_outline`: the drawing is the outline.
* `Arith.outline_tells_expression`: expressions with lexical leaves are told by their outlines,
  which have a line for each node and one for the title.
-/

namespace Arith

/-- A lexical token does not break a line. -/
theorem Token.Lexical.char_ne_newline {t : Token} (lexical : t.Lexical) : t.char ≠ '\n' := by
  intro newline
  have read := ofChar?_char_iff.mpr lexical
  rw [newline] at read
  have unread : ofChar? '\n' = none := by decide
  cases unread.symm.trans read

namespace Expr

/-! ### The sketch of an expression -/

/-- The item that the expression is sketched as. -/
def item : Expr → Item
  | leaf a => .node (leaf a).label []
  | binary o l r => .node (binary o l r).label [l.item, r.item]
  | paren e => .node (paren e).label [e.item]

/-- A visit leaves the same items open, with the item of the expression below the last one. -/
theorem accept_sketcher (e : Expr) (sketch : Sketch) :
    e.accept Visitor.sketcher sketch = { sketch with current := sketch.current.add e.item } := by
  induction e generalizing sketch with
  | leaf a =>
    cases a with
    | lit c => exact accept_lit Visitor.sketcher sketch c
    | var c => exact accept_var Visitor.sketcher sketch c
  | binary o l r ihl ihr =>
    have visited : (binary o l r).accept Visitor.sketcher sketch =
        (r.accept Visitor.sketcher
          (l.accept Visitor.sketcher (sketch.beginChild o.symbol.toString))).endChild := by
      rw [accept_binary]
      rfl
    -- The item opened for the node is current again when it is closed.
    rw [visited, ihl, ihr]
    rfl
  | paren e ih =>
    have visited : (paren e).accept Visitor.sketcher sketch =
        (e.accept Visitor.sketcher (sketch.beginChild "()")).endChild := by
      rw [accept_paren]
      rfl
    rw [visited, ih]
    rfl

/-- The item of an expression is drawn as the lines of its outline. -/
theorem draw_item (e : Expr) (first rest text : String) :
    e.item.draw first rest text = e.outlineFrom first rest text := by
  induction e generalizing first rest text with
  | leaf a => rfl
  | binary o l r ihl ihr =>
    rw [item, Item.draw, Item.drawBelow, Item.drawBelow, ihl, ihr]
    rfl
  | paren e ih =>
    rw [item, Item.draw, Item.drawBelow, ih]
    rfl

/-- The drawing of an expression is its outline. -/
theorem drawing_eq_outline (e : Expr) : e.drawing = e.outline := by
  rw [drawing, accept_sketcher]
  exact e.draw_item "└─ " "   " "expression\n"

/-! ### The lines of an outline -/

/-- The lines of an expression, without their ends. The root's line starts with `first` and the
lines below it with `rest`, which every level extends by its branches. -/
def lines (first rest : List Char) : Expr → List (List Char)
  | leaf a => [first ++ [a.char]]
  | binary o left right =>
    (first ++ [o.symbol]) ::
      (left.lines (rest ++ "├─ ".toList) (rest ++ "│  ".toList) ++
        right.lines (rest ++ "└─ ".toList) (rest ++ "   ".toList))
  | paren inner =>
    (first ++ ['(', ')']) :: inner.lines (rest ++ "└─ ".toList) (rest ++ "   ".toList)

variable {e : Expr} {first rest : List Char}

/-- An outline is made of its lines. -/
theorem branches_eq_flatMap_lines (e : Expr) (first rest : List Char) :
    e.branches first rest = (e.lines first rest).flatMap (· ++ ['\n']) := by
  induction e generalizing first rest with
  | leaf a => simp [branches, lines]
  | binary o l r ihl ihr => simp [branches, lines, ihl, ihr]
  | paren inner ih => simp [branches, lines, ih]

/-- Every node has a line. -/
theorem length_lines (e : Expr) (first rest : List Char) :
    (e.lines first rest).length = e.size := by
  induction e generalizing first rest with
  | leaf a => rfl
  | binary o l r ihl ihr => simp [lines, size, ihl, ihr]
  | paren inner ih => simp [lines, size, ih]

/-- No line of an expression with lexical leaves is broken in two. -/
theorem newline_not_mem_lines (lexical : ∀ a ∈ e.leaves, a.Lexical) (whole : '\n' ∉ first)
    (whole' : '\n' ∉ rest) : ∀ line ∈ e.lines first rest, '\n' ∉ line := by
  induction e generalizing first rest with
  | leaf a =>
    have here : a.char ≠ '\n' := (lexical_mark lexical).char_ne_newline
    simp [lines, whole, here.symm]
  | binary o l r ihl ihr =>
    obtain ⟨lexical_left, lexical_right⟩ := List.forall_mem_append.mp lexical
    have here : o.symbol ≠ '\n' := (lexical_mark lexical).char_ne_newline
    refine List.forall_mem_cons.mpr ⟨by simp [whole, here.symm], List.forall_mem_append.mpr
      ⟨ihl lexical_left ?_ ?_, ihr lexical_right ?_ ?_⟩⟩
    -- The branches that a level adds are unbroken too.
    all_goals exact List.not_mem_append whole' (by decide)
  | paren inner ih =>
    refine List.forall_mem_cons.mpr ⟨by simp [whole], ih lexical ?_ ?_⟩
    all_goals exact List.not_mem_append whole' (by decide)

/-- An outline has a line for the title and one for each node. -/
theorem exists_lines_outline (lexical : ∀ a ∈ e.leaves, a.Lexical) :
    ∃ lines : List (List Char), e.outline.toList = lines.flatMap (· ++ ['\n']) ∧
      (∀ line ∈ lines, '\n' ∉ line) ∧ lines.length = e.size + 1 := by
  refine ⟨"expression".toList :: e.lines "└─ ".toList "   ".toList, ?_, ?_, ?_⟩
  · rw [toList_outline, branches_eq_flatMap_lines, List.flatMap_cons]
    rfl
  · exact List.forall_mem_cons.mpr
      ⟨by decide, newline_not_mem_lines lexical (by decide) (by decide)⟩
  · rw [List.length_cons, length_lines]

end Expr

/-- The outline of an expression tells it. It is what the visitor that sketches expressions has
drawn. Two expressions whose literals hold a digit and whose variables hold an alphabetic
character are equal if their outlines are; and such an outline consists of whole lines, one
for the title and one for each node. -/
theorem outline_tells_expression :
    (∀ e : Expr, e.drawing = e.outline) ∧
    (∀ e e' : Expr, (∀ a ∈ e.leaves, a.Lexical) → (∀ a ∈ e'.leaves, a.Lexical) →
      e.drawing = e'.drawing → e = e') ∧
    ∀ e : Expr, (∀ a ∈ e.leaves, a.Lexical) →
      ∃ lines : List (List Char), e.drawing.toList = lines.flatMap (· ++ ['\n']) ∧
        (∀ line ∈ lines, '\n' ∉ line) ∧ lines.length = e.size + 1 := by
  refine ⟨Expr.drawing_eq_outline, ?_, ?_⟩
  · intro e e' lexical lexical' same
    rw [e.drawing_eq_outline, e'.drawing_eq_outline] at same
    exact Expr.eq_of_outline_eq lexical lexical' same
  · intro e lexical
    rw [e.drawing_eq_outline]
    exact Expr.exists_lines_outline lexical

/-- The outline of a grouped sum has five lines, and no other expression that a text can give
has it. A variable that held a digit would be drawn like the literal. -/
theorem outline_tells_expression_grouped :
    ∃ e : Expr, e = .paren (.binary .add (.leaf (.var 'a')) (.leaf (.lit '1'))) ∧
      (∀ a ∈ e.leaves, a.Lexical) ∧
      (∃ lines : List (List Char), e.drawing.toList = lines.flatMap (· ++ ['\n']) ∧
        (∀ line ∈ lines, '\n' ∉ line) ∧ lines.length = 5) ∧
      (∀ e' : Expr, (∀ a ∈ e'.leaves, a.Lexical) → e.drawing = e'.drawing → e = e') ∧
      (Expr.leaf (.var '1')).drawing = (Expr.leaf (.lit '1')).drawing := by
  have lexical : ∀ a ∈ [Operand.var 'a', .lit '1'], a.Lexical := by decide
  obtain ⟨drawn, tells, lines⟩ := outline_tells_expression
  refine ⟨_, rfl, lexical, lines _ lexical, fun e' => tells _ e' lexical, ?_⟩
  rw [drawn, drawn]
  rfl

end Arith
