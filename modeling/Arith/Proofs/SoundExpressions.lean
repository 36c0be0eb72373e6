import Arith.Proofs.LexicalText
import Arith.Session

/-!
# Only sound expressions are obtained

Texts give lexical operands and no grouping nodes, and none of the ways in which expressions
give rise to others adds anything to what a text gave: written in postfix order a sound
expression is a list of lexical tokens, and whatever is read from lexical tokens, as they stand
or as infix tokens, is sound again. What an expression is shown as may be read as a text like
any other. So however the steps are interleaved, every expression they arrive at is sound, and
its postfix order is read back from what it writes.

A session is such a sequence of steps, as long as no step of it makes a node by hand.

## Main definitions

* `Arith.Session.Step.Works`: the steps that make no node by hand.

## Main results

* `Arith.Obtained.sound`: every expression obtained is sound.
* `Arith.Session.obtained_of_apply` and `Arith.Session.obtained_of_run`: what lies on the stack
  of a session has been obtained.
* `Arith.obtained_sound`: what is obtained is sound and is read back from its postfix order.
-/

namespace Arith

namespace Expr

/-- The postfix order of a sound expression is read back from what it writes. -/
theorem Sound.tokenize_text_toPostfix {e : Expr} (sound : e.Sound) :
    tokenize (Token.text e.toPostfix) = e.toPostfix :=
  tokenize_text (lexical_toPostfix sound.2)

/-- Sound expressions written one after the other are lexical. -/
theorem lexical_flatMap_toPostfix {es : List Expr} (sound : ∀ e ∈ es, e.Sound) :
    ∀ t ∈ es.flatMap toPostfix, t.Lexical := by
  intro t mem
  obtain ⟨e, part, mem⟩ := List.mem_flatMap.mp mem
  exact lexical_toPostfix (sound e part).2 t mem

end Expr

/-- Every expression obtained is sound. -/
theorem Obtained.sound {e : Expr} (h : Obtained e) : e.Sound := by
  induction h with
  | parse read => exact sound_of_parse read
  | join _ read ih => exact Expr.sound_of_ofPostfix (Expr.lexical_flatMap_toPostfix ih) read
  | reorder _ read ih => exact sound_of_ofInfix (Expr.lexical_toPostfix ih.2) read
  | binary _ _ ihl ihr => exact Expr.sound_binary_iff.mpr ⟨ihl, ihr⟩
  | left _ ih => exact (Expr.sound_binary_iff.mp ih).1
  | right _ ih => exact (Expr.sound_binary_iff.mp ih).2
  | inner _ ih => exact ih.1.elim

/-! ### Sessions obtain expressions -/

namespace Session

variable {s : Session} {step : Step} {steps : List Step}

/-- The step makes no node by hand: it neither groups an expression nor takes a token for one. -/
def Step.Works : Step → Prop
  | .leaf _ | .paren => False
  | _ => True

/-- A step that reads something pushes what it reads. -/
theorem obtained_of_push {read : Except ParseError Expr} (before : ∀ e ∈ s.stack, Obtained e)
    (obtained : ∀ e, read = .ok e → Obtained e) : ∀ e ∈ (s.push read).2.stack, Obtained e := by
  cases read with
  | error cause => exact before
  | ok e => exact List.forall_mem_cons.mpr ⟨obtained e rfl, before⟩

/-- After a step the stack holds expressions that have been obtained, if it did before. -/
theorem obtained_of_apply (works : step.Works) (before : ∀ e ∈ s.stack, Obtained e) :
    ∀ e ∈ (s.apply step).2.stack, Obtained e := by
  obtain ⟨stack, config, collected⟩ := s
  cases step with
  | leaf t => exact works.elim
  | paren => exact works.elim
  | parse text => exact obtained_of_push before fun e read => .parse read
  | join =>
    refine obtained_of_push before fun e read => .join (fun part mem => ?_) read
    exact before part (List.mem_reverse.mp mem)
  | finish => exact before
  | lenient => exact before
  | strict => exact before
  | binary o =>
    match stack with
    | [] | [_] => exact before
    | right :: left :: rest =>
      obtain ⟨of_right, before⟩ := List.forall_mem_cons.mp before
      obtain ⟨of_left, before⟩ := List.forall_mem_cons.mp before
      exact List.forall_mem_cons.mpr ⟨.binary of_left of_right, before⟩
  | swap =>
    match stack with
    | [] | [_] => exact before
    | top :: next :: rest => exact fun e mem => before e ((List.Perm.swap _ _ _).mem_iff.mp mem)
  | equal =>
    match stack with
    | [] | [_] => exact before
    | top :: next :: rest => exact before
  | split =>
    match stack with
    | [] => exact before
    | .leaf a :: rest => exact before
    | .binary o left right :: rest =>
      obtain ⟨whole, before⟩ := List.forall_mem_cons.mp before
      exact List.forall_mem_cons.mpr ⟨.right whole, List.forall_mem_cons.mpr ⟨.left whole, before⟩⟩
    | .paren inner :: rest =>
      obtain ⟨whole, before⟩ := List.forall_mem_cons.mp before
      exact List.forall_mem_cons.mpr ⟨.inner whole, before⟩
  | dup =>
    match stack with
    | [] => exact before
    | top :: rest => exact List.forall_mem_cons.mpr ⟨before top List.mem_cons_self, before⟩
  | drop =>
    match stack with
    | [] => exact before
    | top :: rest => exact (List.forall_mem_cons.mp before).2
  | outline =>
    match stack with
    | [] => exact before
    | top :: rest => exact before
  | rebuild =>
    match stack with
    | [] => exact before
    | top :: rest =>
      obtain ⟨of_top, of_rest⟩ := List.forall_mem_cons.mp before
      simp only [apply]
      cases read : Expr.ofPostfix config.leftovers top.toPostfix with
      | error cause => exact before
      | ok e =>
        -- This is the joining of a single expression.
        rw [← List.flatMap_singleton Expr.toPostfix] at read
        exact List.forall_mem_cons.mpr ⟨.join (by simpa using of_top) read, of_rest⟩
  | reorder =>
    match stack with
    | [] => exact before
    | top :: rest =>
      exact obtained_of_push before fun e read => .reorder (before top List.mem_cons_self) read
  | reparse =>
    match stack with
    | [] => exact before
    | top :: rest => exact obtained_of_push before fun e read => .parse read
  | visit =>
    match stack with
    | [] => exact before
    | top :: rest => exact before

/-- After every step of a session the stack holds expressions that have been obtained, if it
did at first. -/
theorem obtained_of_run (works : ∀ step ∈ steps, step.Works)
    (before : ∀ e ∈ s.stack, Obtained e) :
    ∀ next ∈ s.run steps, ∀ e ∈ next.2.stack, Obtained e := by
  induction steps generalizing s with
  | nil => simp [run]
  | cons step steps ih =>
    obtain ⟨here, later⟩ := List.forall_mem_cons.mp works
    have after := obtained_of_apply here before
    exact List.forall_mem_cons.mpr ⟨after, ih later after⟩

end Session

/-- Whatever texts are read, in whatever order expressions are joined, read again, combined and
taken apart, every expression obtained is sound, and the tokens of its postfix order are read
back from what they write. So it is with every expression on the stack of a session that starts
with none and makes no node by hand, after each of its steps. -/
theorem obtained_sound :
    (∀ e : Expr, Obtained e → e.Sound ∧ tokenize (Token.text e.toPostfix) = e.toPostfix) ∧
    ∀ steps : List Session.Step, (∀ step ∈ steps, step.Works) →
      ∀ next ∈ Session.run {} steps, ∀ e ∈ next.2.stack,
        e.Sound ∧ tokenize (Token.text e.toPostfix) = e.toPostfix := by
  have of_obtained (e : Expr) (obtained : Obtained e) :
      e.Sound ∧ tokenize (Token.text e.toPostfix) = e.toPostfix :=
    ⟨obtained.sound, obtained.sound.tokenize_text_toPostfix⟩
  refine ⟨of_obtained, fun steps works next mem e on_stack => ?_⟩
  exact of_obtained e (Session.obtained_of_run works (by simp) next mem e on_stack)

/-- The postfix order of `(a+1)*b`, read as if it were infix, gives `a+1*b`, and taking that apart
leaves `1*b`; a session does the same in three steps. -/
theorem obtained_sound_regrouped :
    ∃ e, e = .binary .multiply (.leaf (.lit '1')) (.leaf (.var 'b')) ∧ Obtained e ∧
      (e.Sound ∧ tokenize (Token.text e.toPostfix) = e.toPostfix) ∧
      (∀ step ∈ [.parse "(a+1)*b", .reorder, .split], Session.Step.Works step) ∧
      ∃ next ∈ Session.run {} [.parse "(a+1)*b", .reorder, .split], e ∈ next.2.stack ∧
        (e.Sound ∧ tokenize (Token.text e.toPostfix) = e.toPostfix) := by
  let part := Expr.binary .multiply (.leaf (.lit '1')) (.leaf (.var 'b'))
  let product := Expr.binary .multiply (.binary .add (.leaf (.var 'a')) (.leaf (.lit '1')))
    (.leaf (.var 'b'))
  have read : parse .strict "(a+1)*b" = .ok product := by decide
  have reordered : ofInfix .strict product.toPostfix =
      .ok (.binary .add (.leaf (.var 'a')) part) := by
    simp only [product, Expr.toPostfix_binary, Expr.toPostfix_leaf]
    rfl
  have obtained : Obtained part := .right (.reorder (.parse read) reordered)
  have works : ∀ step ∈ [.parse "(a+1)*b", .reorder, .split], Session.Step.Works step := by
    simp [Session.Step.Works]
  have ran : (.text "+", { stack := [part, .leaf (.var 'a'), product] }) ∈
      Session.run {} [.parse "(a+1)*b", .reorder, .split] := by
    simp only [Session.run, Session.apply, Session.push, read, reordered]
    exact List.mem_of_getElem? (i := 2) rfl
  exact ⟨part, rfl, obtained, obtained_sound.1 part obtained, works, _, ran, List.mem_cons_self,
    obtained_sound.2 _ works _ ran part List.mem_cons_self⟩

end Arith
