import Mathlib.Data.List.TFAE
import Mathlib.Tactic.TFAE
import Arith.CommandLine
import Arith.Proofs.DumpCode
import Arith.Proofs.LexicalText
import Arith.Proofs.OutlineCode

/-!
# The output formats carry the same information

An expression is printed as its dump, as its outline or as its tokens in postfix order, and
each of the three tells it. The dump spells the kind of every node. The outline leaves out
whether a leaf is a literal or a variable, and postfix order written out leaves out the
structure and whatever would keep the tokens apart; but the leaves come from a text, so their
characters tell the kind and the tokens are read back one by one.

## Main definitions

* `Arith.CommandLine.View.print`: what is printed for an expression in a given form.

## Main results

* `Arith.Expr.Sound.tfae_formats`: sound expressions are told by each of the formats.
* `Arith.CommandLine.stdout_outcome`: the program prints the expression in the form asked for.
* `Arith.output_formats_agree`: two texts differ in one of the outputs exactly when they differ
  in all three.
-/

namespace Arith

namespace Expr

variable {e e' : Expr}

/-- Sound expressions are told by what their postfix orders write. -/
theorem Sound.eq_of_text_toPostfix_eq (sound : e.Sound) (sound' : e'.Sound)
    (h : Token.text e.toPostfix = Token.text e'.toPostfix) : e = e' := by
  have order : e.toPostfix = e'.toPostfix :=
    Token.eq_of_text_eq (lexical_toPostfix sound.2) (lexical_toPostfix sound'.2) h
  have erased := toPostfix_eq_iff.mp order
  rwa [erase_eq_self_iff.mpr sound.1, erase_eq_self_iff.mpr sound'.1] at erased

/-- Sound expressions are told by their dumps, by their outlines and by what their postfix
orders write. -/
theorem Sound.tfae_formats (sound : e.Sound) (sound' : e'.Sound) :
    List.TFAE [e = e', e.render = e'.render, e.outline = e'.outline,
      Token.text e.toPostfix = Token.text e'.toPostfix] := by
  tfae_have 1 → 2 := congrArg render
  tfae_have 1 → 3 := congrArg outline
  tfae_have 1 → 4 := congrArg fun e : Expr => Token.text e.toPostfix
  tfae_have 2 → 1 := eq_of_render_eq
  tfae_have 3 → 1 := eq_of_outline_eq sound.2 sound'.2
  tfae_have 4 → 1 := sound.eq_of_text_toPostfix_eq sound'
  tfae_finish

end Expr

/-- A text that is read with nothing left over has the postfix order of its expression. -/
theorem postfixOf_of_parse_strict {text : String} {t : Expr} (read : parse .strict text = .ok t) :
    postfixOf text = .ok t.toPostfix :=
  (Postfix.toPostfix_of_ofInfix_strict read).1

namespace CommandLine

/-- What is printed for an expression in the given form. -/
def View.print : View → Expr → String
  | dump, e => e.render ++ "\n"
  | outline, e => e.outline
  | postorder, e => Token.text e.toPostfix ++ "\n"

/-- What is printed tells a sound expression, whatever the form. -/
theorem View.print_eq_iff {e e' : Expr} (sound : e.Sound) (sound' : e'.Sound) (view : View) :
    view.print e = view.print e' ↔ e = e' := by
  have formats := sound.tfae_formats sound'
  cases view with
  | dump =>
    rw [View.print, View.print, String.append_left_inj]
    exact formats.out 1 0
  | outline => exact formats.out 2 0
  | postorder =>
    rw [View.print, View.print, String.append_left_inj]
    exact formats.out 3 0

/-- For a text that is read with nothing left over the program prints the expression in the
form asked for. -/
theorem stdout_outcome {text : String} {t : Expr} (read : parse .strict text = .ok t)
    (view : View) (limit : Option Level) :
    (Request.mk text view .strict limit).outcome.stdout = view.print t := by
  cases view with
  | dump =>
    have parsed := (result_announcedParse ⟨text, .dump, .strict, limit⟩).trans read
    exact congrArg Outcome.stdout (report_of_ok parsed)
  | outline =>
    have parsed := (result_announcedParse ⟨text, .outline, .strict, limit⟩).trans read
    exact congrArg Outcome.stdout (report_of_ok parsed)
  | postorder =>
    have ordered := (Logged.result_postfixOf text).trans (postfixOf_of_parse_strict read)
    exact congrArg Outcome.stdout (report_of_ok ordered)

end CommandLine

open CommandLine (Request View)

/-- The output formats carry the same information. If two texts are read with nothing left
over, both have a postfix order; their expressions are equal exactly when the dumps are, when
the outlines are, and when the postfix orders write the same. So the texts differ in one of
the three outputs of the program exactly when they differ in all of them. -/
theorem output_formats_agree {text text' : String} {t t' : Expr}
    (read : parse .strict text = .ok t) (read' : parse .strict text' = .ok t') :
    (∃ order order', postfixOf text = .ok order ∧ postfixOf text' = .ok order' ∧
      List.TFAE [t = t', t.render = t'.render, t.outline = t'.outline,
        Token.text order = Token.text order']) ∧
    ∀ (view : View) (limit limit' : Option Level),
      (Request.mk text view .strict limit).outcome.stdout =
        (Request.mk text' view .strict limit').outcome.stdout ↔ t = t' := by
  have sound := sound_of_parse read
  have sound' := sound_of_parse read'
  constructor
  · exact ⟨_, _, postfixOf_of_parse_strict read, postfixOf_of_parse_strict read',
      sound.tfae_formats sound'⟩
  · intro view limit limit'
    rw [CommandLine.stdout_outcome read, CommandLine.stdout_outcome read']
    exact View.print_eq_iff sound sound' view

/-- `(a+1)*b` and `a+1*b` have the same leaves and are printed differently in every form. An
outer pair of parentheses leaves no trace in any of them. -/
theorem output_formats_agree_regrouped :
    (∃ t t', parse .strict "(a+1)*b" = .ok t ∧ parse .strict "a+1*b" = .ok t' ∧
      t.leaves = t'.leaves ∧
      t.render ≠ t'.render ∧ t.outline ≠ t'.outline ∧
      ∀ view : View, (Request.mk "(a+1)*b" view .strict none).outcome.stdout ≠
        (Request.mk "a+1*b" view .strict none).outcome.stdout) ∧
    ∀ view : View, (Request.mk "((a+1)*b)" view .strict none).outcome.stdout =
      (Request.mk "(a+1)*b" view .strict none).outcome.stdout := by
  have product : parse .strict "(a+1)*b" = .ok
      (.binary .multiply (.binary .add (.leaf (.var 'a')) (.leaf (.lit '1')))
        (.leaf (.var 'b'))) := by decide
  have sum : parse .strict "a+1*b" = .ok
      (.binary .add (.leaf (.var 'a')) (.binary .multiply (.leaf (.lit '1'))
        (.leaf (.var 'b')))) := by decide
  have wrapped : parse .strict "((a+1)*b)" = parse .strict "(a+1)*b" := by decide
  obtain ⟨⟨_, _, -, -, formats⟩, outputs⟩ := output_formats_agree product sum
  refine ⟨⟨_, _, product, sum, rfl, ?_, ?_, ?_⟩, ?_⟩
  · intro same
    cases (formats.out 1 0).mp same
  · intro same
    cases (formats.out 2 0).mp same
  · intro view same
    cases (outputs view _ _).mp same
  · intro view
    exact ((output_formats_agree (wrapped.trans product) product).2 view _ _).mpr rfl

end Arith
