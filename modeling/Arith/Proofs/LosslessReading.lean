import Mathlib.Tactic.TFAE
import Arith.Proofs.LexicalText

/-!
# Reading a text loses nothing

The tokens of a text and the characters skipped in it, with their positions, tell the text. Tokens
stand for their own characters, and a position counts the bytes of everything before it, so as the
text is put together again from the left, the position reached says whether a token or a skipped
character comes next.

What the tokens write is the text without the characters at those positions, and reading it again
gives the same tokens. So the lists that can be read from a text are those that are read back from
what they write, and these are the lexical ones.

## Main definitions

* `Arith.weave`: the characters that tokens and skipped characters make up.
* `Arith.deleteFrom`: characters with those at given positions left out.

## Main results

* `Arith.weave_skipsFrom`: characters are put together again from what is read in them.
* `Arith.deleteFrom_eq`: what the tokens write is what is left when the skipped characters go.
* `Arith.reading_loses_nothing`: what the tokens and the skipped characters say about a text.
-/

namespace Arith

/-- The characters that tokens and skipped characters make up from a position on: a skipped
character where the next one has its position, and elsewhere that of the next token. -/
def weave : Nat → List Token → List Skip → List Char
  | _, tokens, [] => tokens.map Token.char
  | position, tokens, skip :: skips =>
    if skip.position = position then skip.char :: weave (position + skip.char.utf8Size) tokens skips
    else
      match tokens with
      | [] => []
      | t :: tokens => t.char :: weave (position + t.char.utf8Size) tokens (skip :: skips)
  termination_by _ tokens skips => tokens.length + skips.length

/-- The characters without those that stand at a position in `gone`, where the first one stands at
`position`. -/
def deleteFrom (gone : List Nat) : (position : Nat) → List Char → List Char
  | _, [] => []
  | position, c :: cs =>
    if position ∈ gone then deleteFrom gone (position + c.utf8Size) cs
    else c :: deleteFrom gone (position + c.utf8Size) cs

variable {position : Nat} {c : Char} {cs : List Char} {tokens : List Token}

/-- Behind a character everything is skipped at a later position. -/
theorem lt_position_of_mem_skipsFrom {skip : Skip}
    (mem : skip ∈ skipsFrom (position + c.utf8Size) cs) : position < skip.position :=
  Nat.lt_of_lt_of_le (Nat.lt_add_of_pos_right c.utf8Size_pos) (le_position_of_mem_skipsFrom mem)

/-- The positions of the skipped characters increase. -/
theorem pairwise_skipsFrom (position : Nat) (cs : List Char) :
    (skipsFrom position cs).Pairwise fun skip skip' => skip.position < skip'.position := by
  induction cs generalizing position with
  | nil => exact .nil
  | cons c cs ih =>
    cases read : Token.ofChar? c with
    | none =>
      rw [skipsFrom_cons_of_none read]
      exact .cons (fun _ mem => lt_position_of_mem_skipsFrom mem) (ih _)
    | some t =>
      rw [skipsFrom_cons_of_some read]
      exact ih _

/-! ### Putting the text together again -/

/-- A character that is skipped at the position reached comes next. -/
theorem weave_cons_skip (tokens : List Token) (skips : List Skip) :
    weave position tokens (⟨position, c⟩ :: skips) =
      c :: weave (position + c.utf8Size) tokens skips := by
  cases tokens <;> simp [weave]

/-- Before the next skipped character stands that of the next token. -/
theorem weave_cons_of_lt {t : Token} {skips : List Skip}
    (later : ∀ skip ∈ skips, position < skip.position) :
    weave position (t :: tokens) skips =
      t.char :: weave (position + t.char.utf8Size) tokens skips := by
  cases skips with
  | nil => simp [weave]
  | cons skip skips => rw [weave, if_neg (Nat.ne_of_gt (later skip List.mem_cons_self))]

/-- Characters are put together again from the tokens and the skipped characters among them. -/
theorem weave_skipsFrom (position : Nat) (cs : List Char) :
    weave position (cs.filterMap Token.ofChar?) (skipsFrom position cs) = cs := by
  induction cs generalizing position with
  | nil => simp [skipsFrom, weave]
  | cons c cs ih =>
    cases read : Token.ofChar? c with
    | none =>
      rw [List.filterMap_cons_none read, skipsFrom_cons_of_none read, weave_cons_skip, ih]
    | some t =>
      have same := (Token.ofChar?_eq_some_iff.mp read).1
      rw [List.filterMap_cons_some read, skipsFrom_cons_of_some read,
        weave_cons_of_lt fun _ mem => lt_position_of_mem_skipsFrom mem, ← same, ih]

/-- A text is put together again from its tokens and the characters skipped in it. -/
theorem weave_tokenize (text : String) : weave 0 (tokenize text) (skips text) = text.toList :=
  weave_skipsFrom 0 text.toList

/-! ### What the tokens write -/

/-- What the tokens write is what is left of the characters when the skipped ones are gone. Which
positions before the first character are gone does not matter. -/
theorem deleteFrom_eq {gone : List Nat}
    (same : ∀ n, position ≤ n →
      (n ∈ gone ↔ n ∈ (skipsFrom position cs).map Skip.position)) :
    deleteFrom gone position cs = (cs.filterMap Token.ofChar?).map Token.char := by
  induction cs generalizing position with
  | nil => rfl
  | cons c cs ih =>
    have here := same position (Nat.le_refl position)
    have first_lt := Nat.lt_add_of_pos_right (n := position) c.utf8Size_pos
    cases read : Token.ofChar? c with
    | none =>
      rw [skipsFrom_cons_of_none read] at same here
      rw [deleteFrom, if_pos (here.mpr (by simp)), List.filterMap_cons_none read]
      apply ih
      -- Behind the first character its own position does not count.
      intro n behind
      have other : n ≠ position := by omega
      rw [same n (by omega)]
      simp only [List.map_cons, List.mem_cons, other, false_or]
    | some t =>
      rw [skipsFrom_cons_of_some read] at same here
      have kept : position ∉ gone := by
        intro mem
        obtain ⟨skip, mem, there⟩ := List.mem_map.mp (here.mp mem)
        exact Nat.ne_of_gt (lt_position_of_mem_skipsFrom mem) there
      rw [deleteFrom, if_neg kept, List.filterMap_cons_some read, List.map_cons,
        ← (Token.ofChar?_eq_some_iff.mp read).1]
      congr 1
      exact ih fun n behind => same n (by omega)

/-- Tokens are lexical if their literals hold digits and their variables letters. -/
theorem Token.forall_lexical_iff_lit_var :
    (∀ t ∈ tokens, t.Lexical) ↔ (∀ c, operand (.lit c) ∈ tokens → c.isDigit = true) ∧
      ∀ c, operand (.var c) ∈ tokens → isAlphabetic c = true := by
  constructor
  · intro lexical
    exact ⟨fun c mem => lexical _ mem, fun c mem => lexical _ mem⟩
  · rintro ⟨digits, letters⟩
    refine forall_lexical_iff.mpr fun a mem => ?_
    cases a with
    | lit c => exact digits c (mem_operands_iff.mp mem)
    | var c => exact letters c (mem_operands_iff.mp mem)

/-- Reading a text loses nothing. The tokens and the skipped characters tell the text. The skipped
characters are those that stand for no token, in increasing positions, and the position of each is
the number of bytes of the text before it. Tokens are read back from what they write exactly if
every literal holds a digit and every variable an alphabetic character, and these are the lists of
tokens that some text has. What the tokens of a text write is the text without the skipped
characters. -/
theorem reading_loses_nothing :
    Function.Injective (fun text => (tokenize text, skips text)) ∧
    (∀ text : String, (skips text).Pairwise fun skip skip' => skip.position < skip'.position) ∧
    (∀ (text : String) (skip : Skip), skip ∈ skips text ↔
      ∃ before behind : String, text = before ++ skip.char.toString ++ behind ∧
        Token.ofChar? skip.char = none ∧ skip.position = before.utf8ByteSize) ∧
    (∀ tokens : List Token, List.TFAE [tokenize (Token.text tokens) = tokens,
      (∀ c, .operand (.lit c) ∈ tokens → c.isDigit = true) ∧
        ∀ c, .operand (.var c) ∈ tokens → isAlphabetic c = true,
      ∃ text, tokenize text = tokens]) ∧
    ∀ text : String, Token.text (tokenize text) =
      String.ofList (deleteFrom ((skips text).map Skip.position) 0 text.toList) := by
  refine ⟨?_, ?_, ?_, ?_, ?_⟩
  · intro text text' same
    obtain ⟨same_tokens, same_skips⟩ := Prod.mk.inj same
    apply String.toList_inj.mp
    rw [← weave_tokenize text, same_tokens, same_skips, weave_tokenize]
  · intro text
    exact pairwise_skipsFrom 0 text.toList
  · intro text skip
    exact mem_skips_iff
  · intro tokens
    rw [← Token.forall_lexical_iff_lit_var]
    tfae_have 1 → 3 := fun same => ⟨_, same⟩
    tfae_have 3 → 2 := by
      rintro ⟨text, rfl⟩ t mem
      exact lexical_of_mem_tokenize mem
    tfae_have 2 → 1 := tokenize_text
    tfae_finish
  · intro text
    rw [skips, deleteFrom_eq fun _ _ => Iff.rfl]
    rfl

/-- The first letter takes two bytes. -/
example : tokenize "é + b" = [.operand (.var 'é'), .operator .add, .operand (.var 'b')] ∧
    skips "é + b" = [⟨2, ' '⟩, ⟨4, ' '⟩] := by decide

end Arith
