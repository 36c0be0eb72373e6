import Mathlib.Data.List.Basic
import Mathlib.Tactic.SplitIfs
import Arith.Text.Quoted

/-!
# Quoted text is uniquely decodable

Between quotes a character is written in one of three ways: as it is, as a backslash with one
letter, or as a backslash with its number in braces. The backslash itself is not written as it is,
so the first character tells the first way from the others, and the letter `u` tells the third from
the second. A number is over at the closing brace, since no digit is one. So characters come apart
again that are written one behind the other. The quote that encloses them is not written as it is
either, which is why the text is over at the first one that no backslash stands before.

## Main definitions

* `Arith.shortEscapes`: the characters that are written as a backslash with a letter.

## Main results

* `Arith.toDigits_injective`: a number is told by its hexadecimal digits.
* `Arith.toList_escape_cases`: the three ways to write a character.
* `Arith.eq_of_escape_append`: what is written tells the character and where it ends.
* `Arith.eq_of_quote_append` and `Arith.eq_of_quoteChar_append`: so does a quoted text, and a quoted
  character.
* `Arith.quote_of_ascii`: a text of printable ASCII characters is quoted as it is.
-/

namespace Arith

/-! ### Hexadecimal numbers -/

/-- Lists that are over at the first `c` come apart again from what stands behind it. -/
theorem eq_of_append_cons {α : Type} {c : α} {l l' rest rest' : List α} (free : c ∉ l)
    (free' : c ∉ l') (h : l ++ c :: rest = l' ++ c :: rest') : l = l' ∧ rest = rest' := by
  -- Where one list is over before the other, `c` stands in the other one.
  induction l generalizing l' with
  | nil =>
    cases l' with
    | nil => exact ⟨rfl, (List.cons.inj h).2⟩
    | cons a' l' => exact absurd ((List.cons.inj h).1 ▸ List.mem_cons_self) free'
  | cons a l ih =>
    cases l' with
    | nil => exact absurd ((List.cons.inj h).1 ▸ List.mem_cons_self) free
    | cons a' l' =>
      rw [List.mem_cons, not_or] at free free'
      obtain ⟨rfl, later⟩ := List.cons.inj h
      obtain ⟨rfl, behind⟩ := ih free.2 free'.2 later
      exact ⟨rfl, behind⟩

theorem digitChar_injective :
    ∀ d < 16, ∀ d' < 16, Nat.digitChar d = Nat.digitChar d' → d = d' := by decide

theorem digitChar_ne_brace : ∀ d < 16, Nat.digitChar d ≠ '\x7d' := by decide

/-- Numbers are told by their hexadecimal digits. -/
theorem toDigits_injective {n n' : Nat} (h : Nat.toDigits 16 n = Nat.toDigits 16 n') : n = n' := by
  induction n using Nat.strongRecOn generalizing n' with
  | ind n ih =>
    rw [Nat.toDigits_eq_if (by decide), Nat.toDigits_eq_if (b := 16) (n := n') (by decide)] at h
    split at h
    · rename_i small
      split at h
      · rename_i small'
        exact digitChar_injective n small n' small' (List.cons.inj h).1
      · -- A single digit against several.
        have lengths := congrArg List.length h
        have some_digit := Nat.length_toDigits_pos (b := 16) (n := n' / 16)
        simp only [List.length_append, List.length_singleton] at lengths
        omega
    · rename_i large
      split at h
      · have lengths := congrArg List.length h
        have some_digit := Nat.length_toDigits_pos (b := 16) (n := n / 16)
        simp only [List.length_append, List.length_singleton] at lengths
        omega
      · -- All digits but the last are those of the quotient.
        obtain ⟨first, last⟩ := List.append_inj' h rfl
        have quotients := ih (n / 16) (Nat.div_lt_self (by omega) (by decide)) first
        have remainders := digitChar_injective _ (Nat.mod_lt n (by decide)) _
          (Nat.mod_lt n' (by decide)) (List.cons.inj last).1
        omega

/-- A hexadecimal number has no closing brace in it. -/
theorem brace_not_mem_toDigits (n : Nat) : '\x7d' ∉ Nat.toDigits 16 n := by
  induction n using Nat.strongRecOn with
  | ind n ih =>
    rw [Nat.toDigits_eq_if (by decide)]
    split
    · rename_i small
      rw [List.mem_singleton]
      exact (digitChar_ne_brace n small).symm
    · rename_i large
      rw [List.mem_append, List.mem_singleton, not_or]
      exact ⟨ih (n / 16) (Nat.div_lt_self (by omega) (by decide)),
        (digitChar_ne_brace _ (Nat.mod_lt n (by decide))).symm⟩

/-! ### One character -/

/-- The characters that are written as a backslash with a letter between two quotes `mark`. -/
def shortEscapes (mark : Char) : List (Char × Char) :=
  [('\x00', '0'), ('\t', 't'), ('\r', 'r'), ('\n', 'n'), ('\\', '\\'), (mark, mark)]

variable {mark c c' : Char} {rest rest' : List Char}

/-- A character is written as it is, or as a backslash with a letter, or as its number. -/
theorem toList_escape_cases (mark c : Char) :
    (escape mark c).toList = [c] ∧ c ≠ '\\' ∧ c ≠ mark ∨
      (∃ letter, (escape mark c).toList = ['\\', letter] ∧ (c, letter) ∈ shortEscapes mark) ∨
      (escape mark c).toList = "\\u\x7b".toList ++ Nat.toDigits 16 c.toNat ++ ['\x7d'] := by
  unfold escape
  split_ifs with nul tab back newline reserved unmarked
  · exact .inr (.inl ⟨'0', rfl, by simp [shortEscapes, nul]⟩)
  · exact .inr (.inl ⟨'t', rfl, by simp [shortEscapes, tab]⟩)
  · exact .inr (.inl ⟨'r', rfl, by simp [shortEscapes, back]⟩)
  · exact .inr (.inl ⟨'n', rfl, by simp [shortEscapes, newline]⟩)
  · refine .inr (.inl ⟨c, by simp, ?_⟩)
    rcases reserved with rfl | rfl <;> simp [shortEscapes]
  · exact .inr (.inr (by simp))
  · exact .inl ⟨by simp, not_or.mp reserved⟩

/-- A letter behind a backslash stands for one character, and none is the letter that announces a
number. -/
theorem shortEscapes_unique (quotes : mark = '"' ∨ mark = '\'') :
    ∀ p ∈ shortEscapes mark, p.2 ≠ 'u' ∧ ∀ p' ∈ shortEscapes mark, p.2 = p'.2 → p = p' := by
  rcases quotes with rfl | rfl
  · decide
  · decide

/-- What is written tells the character that it begins with, and where that ends. -/
theorem eq_of_escape_append (quotes : mark = '"' ∨ mark = '\'')
    (h : (escape mark c).toList ++ rest = (escape mark c').toList ++ rest') :
    c = c' ∧ rest = rest' := by
  rcases toList_escape_cases mark c with ⟨plain, free, -⟩ | ⟨letter, short, mem⟩ | number
  · -- What is written as it is does not begin with a backslash.
    rcases toList_escape_cases mark c' with ⟨plain', -, -⟩ | ⟨letter', short', -⟩ | number'
    · rw [plain, plain'] at h
      simpa using h
    · rw [plain, short'] at h
      exact absurd (List.cons.inj h).1 free
    · rw [plain, number'] at h
      exact absurd (List.cons.inj h).1 free
  · -- Behind the backslash the letter decides.
    obtain ⟨announced, unique⟩ := shortEscapes_unique quotes _ mem
    rcases toList_escape_cases mark c' with ⟨plain', free', -⟩ | ⟨letter', short', mem'⟩ | number'
    · rw [short, plain'] at h
      exact absurd (List.cons.inj h).1.symm free'
    · rw [short, short'] at h
      obtain ⟨-, letters⟩ := List.cons.inj h
      obtain ⟨rfl, behind⟩ := List.cons.inj letters
      exact ⟨congrArg Prod.fst (unique _ mem' rfl), behind⟩
    · rw [short, number'] at h
      exact absurd (List.cons.inj (List.cons.inj h).2).1 announced
  · rcases toList_escape_cases mark c' with ⟨plain', free', -⟩ | ⟨letter', short', mem'⟩ | number'
    · rw [number, plain'] at h
      exact absurd (List.cons.inj h).1.symm free'
    · rw [number, short'] at h
      have announced := (shortEscapes_unique quotes _ mem').1
      exact absurd (List.cons.inj (List.cons.inj h).2).1.symm announced
    · -- The digits are over at the brace.
      rw [number, number'] at h
      simp only [List.append_assoc, List.append_cancel_left_eq, List.singleton_append] at h
      obtain ⟨digits, behind⟩ := eq_of_append_cons (brace_not_mem_toDigits _)
        (brace_not_mem_toDigits _) h
      exact ⟨Char.toNat_inj.mp (toDigits_injective digits), behind⟩

/-- What is written never begins with the quote that encloses it. -/
theorem exists_escape_eq_cons (quotes : mark = '"' ∨ mark = '\'') (c : Char) :
    ∃ first later, (escape mark c).toList = first :: later ∧ first ≠ mark := by
  have reserved : '\\' ≠ mark := by rcases quotes with rfl | rfl <;> decide
  rcases toList_escape_cases mark c with ⟨plain, -, free⟩ | ⟨letter, short, -⟩ | number
  · exact ⟨c, [], plain, free⟩
  · exact ⟨'\\', [letter], short, reserved⟩
  · exact ⟨'\\', _, number, reserved⟩

/-! ### Texts in quotes -/

/-- A quoted text is its characters as they are written, between the quotes. -/
theorem toList_quote (text : String) :
    (quote text).toList = '"' :: text.toList.flatMap (fun c => (escape '"' c).toList) ++ ['"'] := by
  have written (cs : List Char) (out : String) :
      (cs.foldl (fun out c => out ++ escape '"' c) out).toList =
        out.toList ++ cs.flatMap fun c => (escape '"' c).toList := by
    induction cs generalizing out with
    | nil => simp
    | cons c cs ih =>
      rw [List.foldl_cons, ih, String.toList_append, List.flatMap_cons, List.append_assoc]
  rw [quote, String.foldl_eq_foldl_toList, String.toList_push, written]
  rfl

theorem toList_quoteChar (c : Char) :
    (quoteChar c).toList = '\'' :: (escape '\'' c).toList ++ ['\''] := by
  simp [quoteChar]

/-- Characters written one behind the other come apart again, and they are over at the quote. -/
theorem eq_of_flatMap_escape_append (quotes : mark = '"' ∨ mark = '\'') {cs cs' : List Char}
    (h : cs.flatMap (fun c => (escape mark c).toList) ++ mark :: rest =
      cs'.flatMap (fun c => (escape mark c).toList) ++ mark :: rest') :
    cs = cs' ∧ rest = rest' := by
  -- Where one text is over before the other, a character of the other would begin with the quote.
  induction cs generalizing cs' with
  | nil =>
    cases cs' with
    | nil => exact ⟨rfl, (List.cons.inj h).2⟩
    | cons c' cs' =>
      obtain ⟨first, later, written, free⟩ := exists_escape_eq_cons quotes c'
      rw [List.flatMap_cons, written] at h
      exact absurd (List.cons.inj h).1.symm free
  | cons c cs ih =>
    cases cs' with
    | nil =>
      obtain ⟨first, later, written, free⟩ := exists_escape_eq_cons quotes c
      rw [List.flatMap_cons, written] at h
      exact absurd (List.cons.inj h).1 free
    | cons c' cs' =>
      rw [List.flatMap_cons, List.flatMap_cons, List.append_assoc, List.append_assoc] at h
      obtain ⟨rfl, later⟩ := eq_of_escape_append quotes h
      obtain ⟨rfl, behind⟩ := ih later
      exact ⟨rfl, behind⟩

/-- A quoted text tells the text, and where it ends. -/
theorem eq_of_quote_append {text text' : String}
    (h : (quote text).toList ++ rest = (quote text').toList ++ rest') :
    text = text' ∧ rest = rest' := by
  rw [toList_quote, toList_quote, List.append_assoc, List.append_assoc] at h
  obtain ⟨same, behind⟩ := eq_of_flatMap_escape_append (.inl rfl) (List.cons.inj h).2
  exact ⟨String.toList_inj.mp same, behind⟩

/-- A quoted character tells the character, and where it ends. -/
theorem eq_of_quoteChar_append
    (h : (quoteChar c).toList ++ rest = (quoteChar c').toList ++ rest') :
    c = c' ∧ rest = rest' := by
  rw [toList_quoteChar, toList_quoteChar, List.append_assoc, List.append_assoc] at h
  obtain ⟨rfl, later⟩ := eq_of_escape_append (.inr rfl) (List.cons.inj h).2
  exact ⟨rfl, (List.cons.inj later).2⟩

/-! ### Text that is quoted as it is -/

/-- A printable ASCII character other than the quote and the backslash is written as it is. -/
theorem escape_of_ascii (low : 0x20 ≤ c.toNat) (high : c.toNat < 0x7F) (plain : c ≠ '\\')
    (free : c ≠ mark) : escape mark c = c.toString := by
  have marked := isUnmarked_eq_false_of_ascii low high
  have control (c' : Char) (below : c'.toNat < 0x20) : c ≠ c' := by
    rintro rfl
    omega
  unfold escape
  rw [if_neg (control '\x00' (by decide)), if_neg (control '\t' (by decide)),
    if_neg (control '\r' (by decide)), if_neg (control '\n' (by decide)),
    if_neg (not_or.mpr ⟨plain, free⟩), marked]
  rfl

/-- A text of such characters is quoted as it is. -/
theorem quote_of_ascii {text : String} (ascii : ∀ c ∈ text.toList, 0x20 ≤ c.toNat ∧ c.toNat < 0x7F)
    (plain : '\\' ∉ text.toList) (free : '"' ∉ text.toList) :
    quote text = "\"" ++ text ++ "\"" := by
  have written : ∀ c ∈ text.toList, (escape '"' c).toList = [c] := by
    intro c mem
    rw [escape_of_ascii (ascii c mem).1 (ascii c mem).2 (ne_of_mem_of_not_mem mem plain)
      (ne_of_mem_of_not_mem mem free)]
    simp
  apply String.toList_inj.mp
  rw [toList_quote, List.flatMap_congr written]
  simp

end Arith
