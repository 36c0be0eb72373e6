import Arith.Expr.Outline
import Arith.Expr.Visitor

/-!
# The outline drawn by a visitor

A visitor can put the outline together. It works on a sketch, in which items are open, each of
them below the one opened before it. A leaf hangs below the item opened last; an inner node
opens an item of its own, has its operands visited and closes the item again. The finished
sketch is drawn with one line for each item, behind branches that lead to it from above.

## Main definitions

* `Arith.Item` and `Arith.Item.draw`: texts that hang below one another, and their drawing.
* `Arith.Sketch`: the items that are open, with `beginChild`, `addEmptyChild`, `endChild` and
  `finish`.
* `Arith.Visitor.sketcher`: the visitor, whose state is the sketch.
* `Arith.Expr.drawing`: the sketch of an expression below the title `expression`, drawn.
-/

namespace Arith

/-- A text with the items that hang below it, from top to bottom. -/
inductive Item
  | node (text : String) (below : List Item)

namespace Item

mutual

/-- Writes the lines of an item behind `text`. Its own line starts with `first` and the lines
below it with `rest`, which every level extends by its branches. -/
def draw (first rest : String) : Item → String → String
  | .node label below, text => drawBelow rest below (text ++ first ++ label ++ "\n")

/-- Writes the lines of items that hang below one another's neighbour. The last of them has no
branch that goes on. -/
def drawBelow (rest : String) : List Item → String → String
  | [], text => text
  | [last], text => last.draw (rest ++ "└─ ") (rest ++ "   ") text
  | item :: next :: items, text =>
    drawBelow rest (next :: items) (item.draw (rest ++ "├─ ") (rest ++ "│  ") text)

end

/-- The item with one more below it, at the bottom. -/
def add : Item → Item → Item
  | .node text below, item => .node text (below ++ [item])

end Item

/-- An outline in the making: the item opened last, and the open items above it from the
nearest one up. -/
structure Sketch where
  current : Item
  above : List Item

namespace Sketch

/-- Only the title is open. -/
def titled (title : String) : Sketch := ⟨.node title [], []⟩

/-- Hangs a text with nothing below it under the item opened last. -/
def addEmptyChild (text : String) (sketch : Sketch) : Sketch :=
  { sketch with current := sketch.current.add (.node text []) }

/-- Opens an item below the one opened last. -/
def beginChild (text : String) (sketch : Sketch) : Sketch :=
  ⟨.node text [], sketch.current :: sketch.above⟩

/-- Closes the item opened last, which then hangs below the one above it. The title stays
open. -/
def endChild (sketch : Sketch) : Sketch :=
  match sketch.above with
  | [] => sketch
  | parent :: above => ⟨parent.add sketch.current, above⟩

/-- The topmost item, once all that are open are closed. -/
def finish (sketch : Sketch) : Item :=
  sketch.above.foldl (fun item parent => parent.add item) sketch.current

end Sketch

/-- Hangs each visited expression below the item opened last. -/
def Visitor.sketcher : Visitor Sketch where
  lit c sketch := sketch.addEmptyChild c.toString
  var c sketch := sketch.addEmptyChild c.toString
  binary o left right visit sketch :=
    (walkBinary o left right visit (sketch.beginChild o.symbol.toString)).endChild
  paren inner visit sketch := (walkParen inner visit (sketch.beginChild "()")).endChild

/-- The expression sketched below the title `expression`, and drawn. -/
def Expr.drawing (e : Expr) : String :=
  (e.accept Visitor.sketcher (.titled "expression")).finish.draw "" "" ""

end Arith
