/-
  SqlClauses.Text.Blank — white space, and what is left of a text without it.

  White space is the Unicode property White_Space: 25 characters in ten ranges. The
  zero-width space, the byte order mark and the control characters U+001C to U+001F do
  not have it, so a name made of those is not blank.

  Main statements: `isBlank_of_isWhitespace`, the ASCII white space of core is among
  them; `trimEnd_append`, a text that does not end in white space protects what stands
  before it.
-/

import SqlClauses.Text.Ranges

namespace SqlClauses.Text

/-- White space as inclusive ranges of code points, lowest first. -/
def blankRanges : List (Nat × Nat) :=
  [(0x09, 0x0D), (0x20, 0x20), (0x85, 0x85), (0xA0, 0xA0), (0x1680, 0x1680), (0x2000, 0x200A),
   (0x2028, 0x2029), (0x202F, 0x202F), (0x205F, 0x205F), (0x3000, 0x3000)]

def isBlank (c : Char) : Bool := covers blankRanges c

/-- Nothing but white space, or nothing at all. -/
def Blank (s : String) : Prop := ∀ c ∈ s.toList, isBlank c = true

instance (s : String) : Decidable (Blank s) := decidable_of_iff (s.toList.all isBlank = true) List.all_eq_true

def dropBlankEnd (cs : List Char) : List Char := (cs.reverse.dropWhile isBlank).reverse

/-- Without the white space at its end. -/
def trimEnd (s : String) : String := String.ofList (dropBlankEnd s.toList)

/-- Without the white space at both ends. -/
def trim (s : String) : String := String.ofList (dropBlankEnd (s.toList.dropWhile isBlank))

/-! ## Characters -/

theorem isBlank_iff {c : Char} : isBlank c = true ↔ ∃ r ∈ blankRanges, r.1 ≤ c.toNat ∧ c.toNat ≤ r.2 :=
  covers_iff

theorem isBlank_of_isWhitespace {c : Char} (h : c.isWhitespace = true) : isBlank c = true := by
  simp only [Char.isWhitespace, Bool.or_eq_true, decide_eq_true_eq] at h
  rcases h with ((rfl | rfl) | rfl) | rfl <;> decide

example : ascending blankRanges ∧ codePointCount blankRanges = 25 := by decide

/-! ## Ends -/

@[simp] theorem dropBlankEnd_nil : dropBlankEnd [] = [] := rfl

/-- A last character that is not white space stays, and so does all before it. -/
theorem dropBlankEnd_append_singleton {cs : List Char} {c : Char} (h : isBlank c = false) :
    dropBlankEnd (cs ++ [c]) = cs ++ [c] := by
  simp [dropBlankEnd, h]

theorem trimEnd_append {s : String} {c : Char} (h : isBlank c = false) :
    trimEnd (s ++ String.singleton c) = s ++ String.singleton c := by
  simp [trimEnd, dropBlankEnd_append_singleton h]

end SqlClauses.Text
