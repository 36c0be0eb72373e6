import Mathlib
import Arith.CommandLine
import Arith.Proofs.InspectCode

/-!
# Messages tell what they report

The sentences of the program are put together from fixed words, quoted texts, values written out and
numbers. No two kinds of sentence begin with the same words, and what is put between the words
comes to its own end. So whoever reads the message of an event, or the sentence for a cause, knows
which one it was, and the report of a failure tells what was given up, on which expression, and why.

## Main results

* `Arith.ParseError.message_injective`: no two causes read alike.
* `Arith.Event.message_injective`: no two events read alike.
* `Arith.CommandLine.failureReport_injective`: no two failures read alike.
-/

namespace Arith

/-- A number has no blank in it. -/
theorem blank_not_mem_toString (n : Nat) : ' ' ∉ (toString n).toList := by
  intro mem
  rw [Nat.toString_eq_repr, Nat.toList_repr] at mem
  exact absurd (Nat.isDigit_of_mem_toDigits (by decide) (by decide) mem) (by decide)

/-! ### Causes -/

namespace ParseError

/-- The numbers of operands are told by the sentence. -/
theorem eq_of_message_incompleteExpression {expected found expected' found' : Nat}
    (h : (incompleteExpression expected found).message =
      (incompleteExpression expected' found').message) : expected = expected' ∧ found = found' := by
  have written := congrArg String.toList h
  simp only [message_incompleteExpression, String.toList_append, List.append_assoc,
    List.append_cancel_left_eq] at written
  -- The first number is over at the blank.
  obtain ⟨first, later⟩ := eq_of_append_cons (blank_not_mem_toString expected)
    (blank_not_mem_toString expected') written
  refine ⟨Nat.repr_injective (String.toList_inj.mp first), ?_⟩
  exact Nat.repr_injective (String.toList_inj.mp (List.append_cancel_left later))

/-- No two causes read alike. -/
theorem message_injective : Function.Injective message := by
  intro cause cause' h
  have written := congrArg String.toList h
  cases cause with
  | unbalancedParenthesis =>
    cases cause' with
    | unbalancedParenthesis => rfl
    | incompleteExpression expected' found' =>
      simp [message_unbalancedParenthesis, message_incompleteExpression] at written
    | malformedInput detail' =>
      simp [message_unbalancedParenthesis, message_malformedInput] at written
  | incompleteExpression expected found =>
    cases cause' with
    | unbalancedParenthesis =>
      simp [message_unbalancedParenthesis, message_incompleteExpression] at written
    | incompleteExpression expected' found' =>
      obtain ⟨rfl, rfl⟩ := eq_of_message_incompleteExpression h
      rfl
    | malformedInput detail' =>
      simp [message_incompleteExpression, message_malformedInput] at written
  | malformedInput detail =>
    cases cause' with
    | unbalancedParenthesis =>
      simp [message_unbalancedParenthesis, message_malformedInput] at written
    | incompleteExpression expected' found' =>
      simp [message_incompleteExpression, message_malformedInput] at written
    | malformedInput detail' => exact congrArg _ ((String.append_right_inj _).mp h)

end ParseError

/-! ### Events -/

theorem Config.inspect_injective {config config' : Config} (h : config.inspect = config'.inspect) :
    config = config' := by
  match config, config' with
  | ⟨.reject⟩, ⟨.reject⟩ => rfl
  | ⟨.reject⟩, ⟨.keepTopmost⟩ => exact absurd h (by decide)
  | ⟨.keepTopmost⟩, ⟨.reject⟩ => exact absurd h (by decide)
  | ⟨.keepTopmost⟩, ⟨.keepTopmost⟩ => rfl

namespace Event

theorem eq_of_message_started {text text' : String} {config config' : Config}
    (h : (started text config).message = (started text' config').message) :
    text = text' ∧ config = config' := by
  have written := congrArg String.toList h
  simp only [message, String.toList_append, List.append_assoc,
    List.append_cancel_left_eq] at written
  obtain ⟨rfl, later⟩ := eq_of_quote_append written
  exact ⟨rfl, Config.inspect_injective (String.toList_inj.mp (List.append_cancel_left later))⟩

theorem eq_of_message_skipped {skip skip' : Skip}
    (h : (skipped skip).message = (skipped skip').message) : skip = skip' := by
  obtain ⟨position, c⟩ := skip
  obtain ⟨position', c'⟩ := skip'
  have written := congrArg String.toList h
  simp only [message, String.toList_append, List.append_assoc,
    List.append_cancel_left_eq] at written
  obtain ⟨rfl, later⟩ := eq_of_quoteChar_append written
  obtain rfl := Nat.repr_injective (String.toList_inj.mp (List.append_cancel_left later))
  rfl

theorem eq_of_message_flushed {incoming stacked incoming' stacked' : Operator}
    (h : (flushed incoming stacked).message = (flushed incoming' stacked').message) :
    incoming = incoming' ∧ stacked = stacked' := by
  have written := congrArg String.toList h
  simp only [message, String.toList_append, String.toList_singleton, Char.toString,
    List.cons_append] at written
  obtain ⟨first, later⟩ := List.cons.inj written
  have second := (List.cons.inj (List.append_cancel_left later)).1
  exact ⟨Operator.symbol_injective first, Operator.symbol_injective second⟩

theorem eq_of_message_parsed {text text' : String} {tree tree' : Expr}
    (h : (parsed text tree).message = (parsed text' tree').message) :
    text = text' ∧ tree = tree' := by
  have written := congrArg String.toList h
  simp only [message, String.toList_append, List.append_assoc,
    List.append_cancel_left_eq] at written
  obtain ⟨rfl, later⟩ := eq_of_quote_append written
  exact ⟨rfl, Expr.inspect_injective (String.toList_inj.mp (List.append_cancel_left later))⟩

/-- No two events read alike. -/
theorem message_injective : Function.Injective message := by
  intro event event' h
  have written := congrArg String.toList h
  -- The first words tell the kind. Those of a flush are known once its first symbol is.
  cases event with
  | started text config =>
    cases event' with
    | started text' config' =>
      obtain ⟨rfl, rfl⟩ := eq_of_message_started h
      rfl
    | flushed incoming' _ => cases incoming' <;> simp [message, Operator.symbol] at written
    | skipped _ | discarded | ordered _ | dropped _ | parsed _ _ => simp [message] at written
  | skipped skip =>
    cases event' with
    | skipped skip' => rw [eq_of_message_skipped h]
    | flushed incoming' _ => cases incoming' <;> simp [message, Operator.symbol] at written
    | started _ _ | discarded | ordered _ | dropped _ | parsed _ _ => simp [message] at written
  | flushed incoming stacked =>
    cases event' with
    | flushed incoming' stacked' =>
      obtain ⟨rfl, rfl⟩ := eq_of_message_flushed h
      rfl
    | started _ _ | skipped _ | discarded | ordered _ | dropped _ | parsed _ _ =>
      cases incoming <;> simp [message, Operator.symbol] at written
  | discarded =>
    cases event' with
    | discarded => rfl
    | flushed incoming' _ => cases incoming' <;> simp [message, Operator.symbol] at written
    | started _ _ | skipped _ | ordered _ | dropped _ | parsed _ _ => simp [message] at written
  | ordered tokens =>
    cases event' with
    | ordered tokens' =>
      rw [Token.inspectAll_injective ((String.append_right_inj _).mp h)]
    | flushed incoming' _ => cases incoming' <;> simp [message, Operator.symbol] at written
    | started _ _ | skipped _ | discarded | dropped _ | parsed _ _ => simp [message] at written
  | dropped count =>
    cases event' with
    | dropped count' =>
      -- The number stands between the same words.
      have numbers := (String.append_right_inj _).mp ((String.append_left_inj _).mp h)
      rw [Nat.repr_injective numbers]
    | flushed incoming' _ => cases incoming' <;> simp [message, Operator.symbol] at written
    | started _ _ | skipped _ | discarded | ordered _ | parsed _ _ => simp [message] at written
  | parsed text tree =>
    cases event' with
    | parsed text' tree' =>
      obtain ⟨rfl, rfl⟩ := eq_of_message_parsed h
      rfl
    | flushed incoming' _ => cases incoming' <;> simp [message, Operator.symbol] at written
    | started _ _ | skipped _ | discarded | ordered _ | dropped _ => simp [message] at written

end Event

/-! ### Failures -/

namespace CommandLine

/-- A quoted text, words and a cause on the rest of the line tell the text and the cause. -/
theorem eq_of_quote_append_cause {text text' : String} {cause cause' : ParseError}
    {words : List Char}
    (h : (quote text).toList ++ (words ++ (cause.message.toList ++ ['\n'])) =
      (quote text').toList ++ (words ++ (cause'.message.toList ++ ['\n']))) :
    text = text' ∧ cause = cause' := by
  -- The text may hold the words too, but not beyond its closing quote.
  obtain ⟨same, later⟩ := eq_of_quote_append h
  have causes := List.append_cancel_right (List.append_cancel_left later)
  exact ⟨same, ParseError.message_injective (String.toList_inj.mp causes)⟩

/-- No two failures read alike: the report tells what was given up, on which expression, and
why. -/
theorem failureReport_injective : Function.Injective failureReport := by
  rintro ⟨purpose, text, cause⟩ ⟨purpose', text', cause'⟩ h
  have written := congrArg String.toList h
  cases purpose with
  | parse =>
    cases purpose' with
    | parse =>
      simp only [failureReport_parse, String.toList_append, List.append_assoc,
        List.append_cancel_left_eq] at written
      obtain ⟨rfl, rfl⟩ := eq_of_quote_append_cause written
      rfl
    | convert => simp [failureReport_parse, failureReport_convert] at written
  | convert =>
    cases purpose' with
    | parse => simp [failureReport_parse, failureReport_convert] at written
    | convert =>
      simp only [failureReport_convert, String.toList_append, List.append_assoc,
        List.append_cancel_left_eq] at written
      obtain ⟨rfl, rfl⟩ := eq_of_quote_append_cause written
      rfl

end CommandLine

end Arith
