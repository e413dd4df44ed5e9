/-
  SqlClauses.Text.Ranges — sets of characters, given by ranges of code points.

  A range holds both of its ends. Whether a character is in a set does not depend on the
  order of the ranges; the tables of this library are in ascending order all the same, and
  no two ranges in them touch, so that each set has one table.

  Main statements: `covers_iff`, a character is in a set when it is in one of the ranges;
  `covers_eq_false_of_gap`, a set whose ranges leave out a gap holds no character in it.
-/

namespace SqlClauses.Text

/-- The character is in one of the ranges. -/
def covers (rs : List (Nat × Nat)) (c : Char) : Bool := rs.any fun r => decide (r.1 ≤ c.toNat ∧ c.toNat ≤ r.2)

/-- Every range begins after the one before it, with a gap between them. -/
def ascending (rs : List (Nat × Nat)) : Bool :=
  rs.all (fun r => decide (r.1 ≤ r.2)) && (rs.zip rs.tail).all fun p => decide (p.1.2 + 1 < p.2.1)

/-- How many code points there are in ranges that do not overlap. -/
def codePointCount : List (Nat × Nat) → Nat
  | [] => 0
  | (low, high) :: rs => high + 1 - low + codePointCount rs

theorem covers_iff {rs : List (Nat × Nat)} {c : Char} :
    covers rs c = true ↔ ∃ r ∈ rs, r.1 ≤ c.toNat ∧ c.toNat ≤ r.2 := by
  simp [covers]

theorem covers_eq_false_of_gap {rs : List (Nat × Nat)} {c : Char} {low high : Nat}
    (gap : ∀ r ∈ rs, r.2 < low ∨ high < r.1) (hl : low ≤ c.toNat) (hh : c.toNat ≤ high) :
    covers rs c = false := by
  rw [← Bool.not_eq_true, covers_iff]
  rintro ⟨r, hr, h⟩
  have := gap r hr
  omega

end SqlClauses.Text
