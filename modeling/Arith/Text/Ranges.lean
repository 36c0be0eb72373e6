/-!
# Sets of code points given by ranges

A character class of the Unicode standard is a list of inclusive ranges of code
points in increasing order. Membership walks the list and stops at the first
range that starts above the code point.

## Main definitions

* `Arith.Ranges`: inclusive ranges of code points.
* `Arith.Ranges.contains`: membership, by a walk that stops early.
* `Arith.Ranges.Increasing`: each range starts and ends before the next one starts.

## Main results

* `Arith.Ranges.contains_iff`: on increasing ranges the walk finds a code point
  exactly when some range holds it.
-/

namespace Arith

/-- Inclusive ranges of code points, each with its first and last member. -/
abbrev Ranges := List (Nat × Nat)

namespace Ranges

/-- Whether some range holds the code point `n`. The walk stops at the first
range that starts above `n`. -/
def contains : Ranges → Nat → Bool
  | [], _ => false
  | (first, last) :: rest, n =>
    if n < first then false else if n ≤ last then true else contains rest n

/-- The range `r` starts and ends before `r'` starts. -/
def Before (r r' : Nat × Nat) : Prop :=
  r.1 < r'.1 ∧ r.2 < r'.1

instance (r r' : Nat × Nat) : Decidable (Before r r') :=
  inferInstanceAs (Decidable (_ ∧ _))

/-- Each range starts and ends before the next one starts. -/
def Increasing : Ranges → Prop
  | [] => True
  | [_] => True
  | r :: r' :: rest => Before r r' ∧ Increasing (r' :: rest)

instance decidableIncreasing : (ranges : Ranges) → Decidable (Increasing ranges)
  | [] | [_] => inferInstanceAs (Decidable True)
  | r :: r' :: rest =>
    have := decidableIncreasing (r' :: rest)
    inferInstanceAs (Decidable (Before r r' ∧ Increasing (r' :: rest)))

variable {ranges : Ranges} {n : Nat}

theorem Before.trans {r r' r'' : Nat × Nat} (h : Before r r') (h' : Before r' r'') :
    Before r r'' :=
  ⟨Nat.lt_trans h.1 h'.1, Nat.lt_trans h.2 h'.1⟩

/-- The first of increasing ranges lies before all others, and these are increasing. -/
theorem Increasing.of_cons {r : Nat × Nat} (h : Increasing (r :: ranges)) :
    (∀ r' ∈ ranges, Before r r') ∧ Increasing ranges := by
  induction ranges generalizing r with
  | nil => exact ⟨by simp, trivial⟩
  | cons next ranges ih =>
    obtain ⟨first, increasing⟩ := h
    refine ⟨List.forall_mem_cons.mpr ⟨first, fun r' mem => ?_⟩, increasing⟩
    exact first.trans ((ih increasing).1 r' mem)

/-- A code point below the first range is in none. -/
theorem contains_cons_of_lt {r : Nat × Nat} (h : n < r.1) : contains (r :: ranges) n = false := by
  simp [contains, h]

/-- A code point of the first range is found. -/
theorem contains_cons_of_le_of_le {r : Nat × Nat} (low : r.1 ≤ n) (high : n ≤ r.2) :
    contains (r :: ranges) n = true := by
  simp [contains, Nat.not_lt.mpr low, high]

/-- A code point above the first range is sought in the others. -/
theorem contains_cons_of_le_of_lt {r : Nat × Nat} (low : r.1 ≤ n) (high : r.2 < n) :
    contains (r :: ranges) n = contains ranges n := by
  simp [contains, Nat.not_lt.mpr low, Nat.not_le.mpr high]

/-- On increasing ranges the walk finds exactly the members of the ranges. -/
theorem contains_iff (h : Increasing ranges) :
    contains ranges n = true ↔ ∃ r ∈ ranges, r.1 ≤ n ∧ n ≤ r.2 := by
  induction ranges with
  | nil => simp [contains]
  | cons r rest ih =>
    obtain ⟨first, last⟩ := r
    obtain ⟨below, increasing⟩ := h.of_cons
    have step := ih increasing
    simp only [contains, List.mem_cons, exists_eq_or_imp]
    split
    · -- The code point lies below the first range, hence below all of them.
      refine ⟨by simp, ?_⟩
      rintro (⟨low, high⟩ | ⟨r, mem, low, high⟩)
      · omega
      · have later := (below r mem).1
        omega
    · split
      · simp; omega
      · rw [step]
        constructor
        · exact Or.inr
        · rintro (⟨low, high⟩ | found)
          · omega
          · exact found

end Ranges

end Arith
