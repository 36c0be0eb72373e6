import Arith.Token.Basic

/-!
# Reading tokens from a text

Each character of a text is a token or is skipped; nothing is grouped, so `12` is
two literals. A skipped character is remembered with its position, the number of
bytes that the characters before it take in UTF-8.

## Main definitions

* `Arith.tokenize`: the tokens of a text.
* `Arith.Skip` and `Arith.skips`: the characters of a text that are no token, with
  their positions.
* `Arith.utf8Length`: the number of bytes that characters take.

## Main results

* `Arith.tokenize_append` and `Arith.skipsFrom_append`: reading goes from left to
  right, and only the positions depend on what came before.
* `Arith.mem_skips_iff`: the skipped characters and where they stand.
-/

namespace Arith

/-- The tokens of a text, one for each character that stands for one. -/
def tokenize (text : String) : List Token :=
  text.toList.filterMap Token.ofChar?

/-- The number of bytes that the characters take in UTF-8. -/
def utf8Length : List Char → Nat
  | [] => 0
  | c :: cs => c.utf8Size + utf8Length cs

/-- A character that is no token, with its byte position in UTF-8. -/
structure Skip where
  position : Nat
  char : Char
  deriving DecidableEq, Repr

/-- The characters that are no token, where the first character stands at byte
`position`. -/
def skipsFrom (position : Nat) : List Char → List Skip
  | [] => []
  | c :: cs =>
    if (Token.ofChar? c).isSome then skipsFrom (position + c.utf8Size) cs
    else ⟨position, c⟩ :: skipsFrom (position + c.utf8Size) cs

/-- The characters of a text that are no token. -/
def skips (text : String) : List Skip :=
  skipsFrom 0 text.toList

@[simp] theorem utf8Length_nil : utf8Length [] = 0 := rfl

@[simp] theorem utf8Length_cons (c : Char) (cs : List Char) :
    utf8Length (c :: cs) = c.utf8Size + utf8Length cs := rfl

@[simp] theorem utf8Length_append (cs cs' : List Char) :
    utf8Length (cs ++ cs') = utf8Length cs + utf8Length cs' := by
  induction cs with
  | nil => simp
  | cons c cs ih => simp only [List.cons_append, utf8Length_cons, ih, Nat.add_assoc]

/-- The bytes of a text are those of its characters. -/
theorem utf8Length_toList (text : String) : utf8Length text.toList = text.utf8ByteSize := by
  have written (cs : List Char) : (String.ofList cs).utf8ByteSize = utf8Length cs := by
    induction cs with
    | nil => rfl
    | cons c cs ih =>
      rw [String.ofList_cons, String.utf8ByteSize_append, String.utf8ByteSize_singleton, ih,
        utf8Length_cons]
  rw [← written, String.ofList_toList]

@[simp] theorem tokenize_empty : tokenize "" = [] := rfl

/-- The tokens of what is put together are put together. -/
theorem tokenize_append (text text' : String) :
    tokenize (text ++ text') = tokenize text ++ tokenize text' := by
  simp [tokenize]

/-- Behind `cs` the positions go on from the bytes that `cs` takes. -/
theorem skipsFrom_append (position : Nat) (cs cs' : List Char) :
    skipsFrom position (cs ++ cs') =
      skipsFrom position cs ++ skipsFrom (position + utf8Length cs) cs' := by
  induction cs generalizing position with
  | nil => simp [skipsFrom]
  | cons c cs ih =>
    simp only [List.cons_append, skipsFrom, ih, utf8Length_cons, ← Nat.add_assoc]
    split <;> rfl

variable {position : Nat} {c : Char} {cs : List Char} {skip : Skip}

theorem skipsFrom_cons_of_some {t : Token} (read : Token.ofChar? c = some t) :
    skipsFrom position (c :: cs) = skipsFrom (position + c.utf8Size) cs := by
  rw [skipsFrom, read]
  rfl

theorem skipsFrom_cons_of_none (read : Token.ofChar? c = none) :
    skipsFrom position (c :: cs) = ⟨position, c⟩ :: skipsFrom (position + c.utf8Size) cs := by
  rw [skipsFrom, read]
  rfl

/-- What is skipped are the characters that are no token, each at the position behind the
characters before it. -/
theorem mem_skipsFrom_iff :
    skip ∈ skipsFrom position cs ↔
      ∃ before behind, cs = before ++ skip.char :: behind ∧ Token.ofChar? skip.char = none ∧
        skip.position = position + utf8Length before := by
  constructor
  · intro mem
    induction cs generalizing position with
    | nil => cases mem
    | cons c cs ih =>
      have later (mem : skip ∈ skipsFrom (position + c.utf8Size) cs) :
          ∃ before behind, c :: cs = before ++ skip.char :: behind ∧
            Token.ofChar? skip.char = none ∧ skip.position = position + utf8Length before := by
        obtain ⟨before, behind, rfl, read, there⟩ := ih mem
        refine ⟨c :: before, behind, rfl, read, ?_⟩
        rw [there, utf8Length_cons, Nat.add_assoc]
      cases read : Token.ofChar? c with
      | none =>
        rw [skipsFrom_cons_of_none read] at mem
        rcases List.mem_cons.mp mem with rfl | mem
        · exact ⟨[], cs, rfl, read, rfl⟩
        · exact later mem
      | some t =>
        rw [skipsFrom_cons_of_some read] at mem
        exact later mem
  · rintro ⟨before, behind, rfl, read, there⟩
    rw [skipsFrom_append, skipsFrom_cons_of_none read, ← there]
    exact List.mem_append_right _ List.mem_cons_self

/-- What is skipped in a text are its characters that are no token, each at the position that the
text before it takes in bytes. -/
theorem mem_skips_iff {text : String} :
    skip ∈ skips text ↔
      ∃ before behind : String, text = before ++ skip.char.toString ++ behind ∧
        Token.ofChar? skip.char = none ∧ skip.position = before.utf8ByteSize := by
  rw [skips, mem_skipsFrom_iff]
  constructor
  · rintro ⟨before, behind, split, read, there⟩
    refine ⟨String.ofList before, String.ofList behind, ?_, read, ?_⟩
    · apply String.toList_inj.mp
      simpa using split
    · rw [there, ← utf8Length_toList, String.toList_ofList, Nat.zero_add]
  · rintro ⟨before, behind, rfl, read, there⟩
    refine ⟨before.toList, behind.toList, by simp, read, ?_⟩
    rw [there, utf8Length_toList, Nat.zero_add]

/-- Whatever is skipped stands at the first position or behind it. -/
theorem le_position_of_mem_skipsFrom (mem : skip ∈ skipsFrom position cs) :
    position ≤ skip.position := by
  obtain ⟨before, behind, -, -, there⟩ := mem_skipsFrom_iff.mp mem
  omega

end Arith
