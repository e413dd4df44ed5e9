/-
  SqlClauses.Text.Unsigned — reading unsigned decimal numbers.

  A number is one or more ASCII digits, with a plus sign before them or not. Leading zeros
  are allowed; signs other than one plus, spaces and other digits are not.

  Main statement: `readUnsigned?_eq_some_iff`, which texts are read, and as which numbers.
-/

namespace SqlClauses.Text

/-- The number with these decimal digits. -/
def ofDigits (ds : List Char) : Nat := ds.foldl (fun n d => 10 * n + (d.toNat - '0'.toNat)) 0

/-- The digits of a number, without the plus sign that may stand before them. -/
def unsignedDigits : List Char → List Char
  | '+' :: ds => ds
  | ds => ds

/-- The number, if it is written rightly and below `bound`. -/
def readUnsigned? (bound : Nat) (cs : List Char) : Option Nat :=
  let ds := unsignedDigits cs
  if ds ≠ [] ∧ ds.all Char.isDigit ∧ ofDigits ds < bound then some (ofDigits ds) else none

/-- The text is one or more digits of a number below `bound`, with a plus sign before them or not. -/
def Spells (bound : Nat) (s : String) (n : Nat) : Prop :=
  n < bound ∧ ∃ ds, (s.toList = ds ∨ s.toList = '+' :: ds) ∧ ds ≠ [] ∧ (∀ d ∈ ds, d.isDigit = true) ∧
    Nat.ofDigitChars 10 ds 0 = n

theorem eq_or_eq_cons_unsignedDigits (cs : List Char) : cs = unsignedDigits cs ∨ cs = '+' :: unsignedDigits cs := by
  unfold unsignedDigits
  split
  · exact .inr rfl
  · exact .inl rfl

theorem unsignedDigits_of_isDigit {ds : List Char} (h : ∀ d ∈ ds, d.isDigit = true) : unsignedDigits ds = ds := by
  unfold unsignedDigits
  split
  · exact absurd (h '+' (List.mem_cons_self ..)) (by decide)
  · rfl

theorem readUnsigned?_eq_some_iff {bound n : Nat} {s : String} :
    readUnsigned? bound s.toList = some n ↔ Spells bound s n := by
  simp only [readUnsigned?, Option.ite_none_right_eq_some, Option.some.injEq, List.all_eq_true]
  constructor
  · intro ⟨⟨hne, hdigits, hlt⟩, hn⟩
    subst hn
    exact ⟨hlt, _, eq_or_eq_cons_unsignedDigits _, hne, hdigits, rfl⟩
  · intro ⟨hlt, ds, hs, hne, hdigits, hn⟩
    have hds : unsignedDigits s.toList = ds := by
      rcases hs with hs | hs
      · rw [hs, unsignedDigits_of_isDigit hdigits]
      · rw [hs, unsignedDigits]
    subst hn
    rw [hds]
    exact ⟨⟨hne, hdigits, hlt⟩, rfl⟩

example : readUnsigned? 65536 "+05432".toList = some 5432 := by decide +kernel

example : readUnsigned? 65536 "+".toList = none := by decide +kernel

end SqlClauses.Text
