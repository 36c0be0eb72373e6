import Arith.Proofs.Conservation
import Arith.Provenance

/-!
# What a text can give

Every token that is read from a text stands for its own character, so tokens written one
after the other are read back if each of them could have been read in the first place. The
leaves of an expression that a text stands for are operands of the text, and so they hold a
digit or an alphabetic character, as their kind has it.

## Main results

* `Arith.lexical_of_mem_tokenize`: the tokens of a text are lexical.
* `Arith.tokenize_text`: lexical tokens are read back from what they write.
* `Arith.sound_of_parse`: the expression of a text is sound.
-/

namespace Arith

/-- The tokens of a text are lexical. -/
theorem lexical_of_mem_tokenize {text : String} {t : Token} (mem : t ∈ tokenize text) :
    t.Lexical := by
  obtain ⟨c, -, read⟩ := List.mem_filterMap.mp mem
  exact (Token.ofChar?_eq_some_iff.mp read).2

/-- Lexical tokens are read back from what they write. -/
theorem tokenize_text {tokens : List Token} (lexical : ∀ t ∈ tokens, t.Lexical) :
    tokenize (Token.text tokens) = tokens := by
  rw [tokenize, Token.toList_text]
  induction tokens with
  | nil => rfl
  | cons t tokens ih =>
    obtain ⟨here, later⟩ := List.forall_mem_cons.mp lexical
    rw [List.map_cons, List.filterMap_cons_some (Token.ofChar?_char_iff.mpr here), ih later]

/-- Lexical tokens are told by what they write. -/
theorem Token.eq_of_text_eq {tokens tokens' : List Token} (lexical : ∀ t ∈ tokens, t.Lexical)
    (lexical' : ∀ t ∈ tokens', t.Lexical) (same : text tokens = text tokens') :
    tokens = tokens' := by
  rw [← tokenize_text lexical, same, tokenize_text lexical']

/-! ### Expressions read from lexical tokens -/

/-- Only operands can fail to be lexical. -/
theorem Token.forall_lexical_iff {tokens : List Token} :
    (∀ t ∈ tokens, t.Lexical) ↔ ∀ a ∈ operands tokens, a.Lexical := by
  constructor
  · intro lexical a mem
    exact lexical (operand a) (mem_operands_iff.mp mem)
  · intro lexical t mem
    cases t with
    | operand a => exact lexical a (mem_operands_iff.mpr mem)
    | operator o => trivial
    | lparen => trivial
    | rparen => trivial

/-- The postfix order of an expression is lexical if its leaves are. -/
theorem Expr.lexical_toPostfix {e : Expr} (lexical : ∀ a ∈ e.leaves, a.Lexical) :
    ∀ t ∈ e.toPostfix, t.Lexical :=
  Token.forall_lexical_iff.mpr (by rwa [operands_toPostfix])

/-- The expression that lexical tokens in postfix order stand for is sound. -/
theorem Expr.sound_of_ofPostfix {leftovers : Leftovers} {order : List Token} {e : Expr}
    (lexical : ∀ t ∈ order, t.Lexical) (read : ofPostfix leftovers order = .ok e) : e.Sound := by
  obtain ⟨parenless, before, rfl, -⟩ := exists_append_of_ofPostfix read
  refine ⟨parenless, ?_⟩
  rw [← operands_toPostfix]
  exact Token.forall_lexical_iff.mp fun t mem => lexical t (List.mem_append_right _ mem)

/-- The expression that lexical infix tokens stand for is sound. -/
theorem sound_of_ofInfix {config : Config} {tokens : List Token} {e : Expr}
    (lexical : ∀ t ∈ tokens, t.Lexical) (read : ofInfix config tokens = .ok e) : e.Sound := by
  obtain ⟨order, ordered, read⟩ := ofInfix_eq_ok_iff.mp read
  refine Expr.sound_of_ofPostfix (Token.forall_lexical_iff.mpr ?_) read
  rw [Postfix.operands_of_toPostfix ordered]
  exact Token.forall_lexical_iff.mp lexical

/-- The expression of a text is sound. -/
theorem sound_of_parse {config : Config} {text : String} {e : Expr}
    (h : parse config text = .ok e) : e.Sound :=
  sound_of_ofInfix (fun _ => lexical_of_mem_tokenize) h

end Arith
