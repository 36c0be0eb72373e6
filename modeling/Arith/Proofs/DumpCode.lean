import Arith.Proofs.SpineWalk

/-!
# Dumps are uniquely decodable

The characters of the leaves stand in a dump as they are, so a dump may hold parentheses and
operator symbols that belong to no node. It can be decoded all the same, from left to right:
the first letter tells the kind of the node, a leaf takes exactly one character, and an
expression is read to its own end before the symbol or the parenthesis behind it is looked
at. No dump is therefore the beginning of another one, and dumps written back to back come
apart again.

## Main results

* `Arith.Expr.eq_of_spelling_append`: a spelling tells the expression and where it ends.
* `Arith.Expr.dump_uniquely_decodable`: dumps with anything behind them, and dumps of several
  expressions, tell what was dumped.
-/

namespace Arith

namespace Expr

/-! ### Dumps as lists of characters -/

@[simp] theorem toList_render (e : Expr) : e.render.toList = e.spelling.toList := by
  rw [render_eq_spelling]

/-- Several expressions are spelled one behind the other. -/
theorem toList_renderAll (es : List Expr) :
    (renderAll es).toList = es.flatMap (·.spelling.toList) := by
  have written (text : String) :
      (es.foldl (fun text e => e.accept Visitor.dump text) text).toList =
        text.toList ++ es.flatMap (·.spelling.toList) := by
    induction es generalizing text with
    | nil => simp
    | cons e es ih =>
      rw [List.foldl_cons, ih, accept_dump, String.toList_append, List.flatMap_cons,
        List.append_assoc]
  rw [renderAll, written]
  simp

/-! ### A spelling tells what is spelled -/

variable {rest rest' : List Char}

theorem spelling_binary_append (o : Operator) (l r : Expr) (rest : List Char) :
    (binary o l r).spelling.toList ++ rest =
      "Binary(".toList ++
        (l.spelling.toList ++ o.symbol :: (r.spelling.toList ++ ')' :: rest)) := by
  simp [spelling]

theorem spelling_paren_append (inner : Expr) (rest : List Char) :
    (paren inner).spelling.toList ++ rest =
      "Paren(".toList ++ (inner.spelling.toList ++ ')' :: rest) := by
  simp [spelling]

/-- A leaf takes one character, whichever it is. -/
theorem eq_of_spelling_leaf_append {a a' : Operand}
    (h : (leaf a).spelling.toList ++ rest = (leaf a').spelling.toList ++ rest') :
    a = a' ∧ rest = rest' := by
  cases a with
  | lit c =>
    cases a' with
    | lit c' => simpa [spelling] using h
    | var c' => simp [spelling] at h
  | var c =>
    cases a' with
    | lit c' => simp [spelling] at h
    | var c' => simpa [spelling] using h

/-- The text tells the expression that it begins with, and where its spelling ends. -/
theorem eq_of_spelling_append {e e' : Expr}
    (h : e.spelling.toList ++ rest = e'.spelling.toList ++ rest') : e = e' ∧ rest = rest' := by
  induction e generalizing e' rest rest' with
  | leaf a =>
    cases e' with
    | leaf a' =>
      obtain ⟨rfl, same⟩ := eq_of_spelling_leaf_append h
      exact ⟨rfl, same⟩
    | binary o' l' r' => cases a <;> simp [spelling] at h
    | paren inner' => cases a <;> simp [spelling] at h
  | binary o l r ihl ihr =>
    cases e' with
    | leaf a' => cases a' <;> simp [spelling] at h
    | binary o' l' r' =>
      -- The left operand ends where its own spelling does, so the symbols stand together.
      rw [spelling_binary_append, spelling_binary_append] at h
      obtain ⟨rfl, from_symbol⟩ := ihl (List.append_cancel_left h)
      obtain ⟨symbol, from_right⟩ := List.cons.inj from_symbol
      obtain ⟨rfl, from_closing⟩ := ihr from_right
      obtain rfl := Operator.symbol_injective symbol
      exact ⟨rfl, (List.cons.inj from_closing).2⟩
    | paren inner' => simp [spelling] at h
  | paren inner ih =>
    cases e' with
    | leaf a' => cases a' <;> simp [spelling] at h
    | binary o' l' r' => simp [spelling] at h
    | paren inner' =>
      rw [spelling_paren_append, spelling_paren_append] at h
      obtain ⟨rfl, from_closing⟩ := ih (List.append_cancel_left h)
      exact ⟨rfl, (List.cons.inj from_closing).2⟩

/-- Expressions are told by their dumps. -/
theorem eq_of_render_eq {e e' : Expr} (h : e.render = e'.render) : e = e' := by
  have spelled := congrArg String.toList h
  rw [toList_render, toList_render] at spelled
  have alone : e.spelling.toList ++ [] = e'.spelling.toList ++ [] := by rw [spelled]
  exact (eq_of_spelling_append alone).1

theorem spelling_ne_empty (e : Expr) : e.spelling ≠ "" := by
  cases e with
  | leaf a => cases a <;> simp [spelling]
  | binary o l r => simp [spelling]
  | paren inner => simp [spelling]

/-- Spellings written back to back come apart again. -/
theorem eq_of_flatMap_spelling {es es' : List Expr}
    (h : es.flatMap (·.spelling.toList) = es'.flatMap (·.spelling.toList)) : es = es' := by
  induction es generalizing es' with
  | nil =>
    cases es' with
    | nil => rfl
    | cons e' es' => simp [spelling_ne_empty] at h
  | cons e es ih =>
    cases es' with
    | nil => simp [spelling_ne_empty] at h
    | cons e' es' =>
      rw [List.flatMap_cons, List.flatMap_cons] at h
      obtain ⟨rfl, behind⟩ := eq_of_spelling_append h
      rw [ih behind]

/-- Dumps are uniquely decodable, whatever characters the leaves hold: a dump with a text
behind it tells the expression and that text, and the dumps of several expressions, written
by one visitor back to back, tell the list of them. -/
theorem dump_uniquely_decodable :
    (∀ (e e' : Expr) (rest rest' : String),
      e.render ++ rest = e'.render ++ rest' ↔ e = e' ∧ rest = rest') ∧
    ∀ es es' : List Expr, renderAll es = renderAll es' ↔ es = es' := by
  constructor
  · intro e e' rest rest'
    constructor
    · intro h
      have spelled := congrArg String.toList h
      rw [String.toList_append, String.toList_append, toList_render, toList_render] at spelled
      obtain ⟨same, behind⟩ := eq_of_spelling_append spelled
      exact ⟨same, String.toList_inj.mp behind⟩
    · rintro ⟨rfl, rfl⟩
      rfl
  · intro es es'
    constructor
    · intro h
      have spelled := congrArg String.toList h
      rw [toList_renderAll, toList_renderAll] at spelled
      exact eq_of_flatMap_spelling spelled
    · rintro rfl
      rfl

end Expr

end Arith
