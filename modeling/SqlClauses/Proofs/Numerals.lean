/-
  SqlClauses.Proofs.Numerals — every number is written as a numeral.

  Whole numbers and floats alike: maybe a minus sign, digits, and maybe a point with more
  digits after it. There is no exponent, however large or small the number is.

  Main statements: `isNumeral_toString_int` and `isNumeral_text`, for whole numbers and
  floats; `toString_nat_inj`, a natural number is known from its numeral.
-/

import SqlClauses.Double
import SqlClauses.Proofs.Lexer

namespace SqlClauses

open Lexer

theorem isUnsigned_of_digits {ds : List Char} (hne : ds ≠ []) (hd : ∀ d ∈ ds, d.isDigit = true) : IsUnsigned ds :=
  ⟨ds, [], by simp, hne, hd, .inl rfl⟩

theorem isUnsigned_fraction {ds fs : List Char} (hne : ds ≠ []) (hd : ∀ d ∈ ds, d.isDigit = true) (hf : fs ≠ [])
    (hfd : ∀ d ∈ fs, d.isDigit = true) : IsUnsigned (ds ++ '.' :: fs) :=
  ⟨ds, '.' :: fs, rfl, hne, hd, .inr ⟨fs, rfl, hf, hfd⟩⟩

/-! ## Whole numbers -/

theorem isDigit_of_mem_toDigits {n : Nat} {d : Char} (h : d ∈ Nat.toDigits 10 n) : d.isDigit = true :=
  Nat.isDigit_of_mem_toDigits (by omega) (by omega) h

theorem isUnsigned_toString (n : Nat) : IsUnsigned (toString n).toList := by
  rw [Nat.toString_eq_ofList_toDigits, String.toList_ofList]
  exact isUnsigned_of_digits Nat.toDigits_ne_nil fun d hd => isDigit_of_mem_toDigits hd

theorem toString_int_eq (n : Int) : toString n = if 0 ≤ n then toString n.toNat else "-" ++ toString (-n).toNat := by
  rw [Int.toString_eq_repr, Int.repr_eq_if]
  rfl

theorem isNumeral_toString_int (n : Int) : IsNumeral (toString n).toList := by
  rw [toString_int_eq]
  split
  · exact .inl (isUnsigned_toString _)
  · exact .inr ⟨_, by rw [String.toList_append]; rfl, isUnsigned_toString _⟩

/-! ## Floats -/

theorem isDigit_of_mem_zeros {n : Nat} {d : Char} (h : d ∈ List.replicate n '0') : d.isDigit = true := by
  rw [(List.mem_replicate.mp h).2]
  rfl

theorem isUnsigned_positional (d : Decimal) : IsUnsigned d.positional.toList := by
  have hd : ∀ c ∈ Nat.toDigits 10 d.digits, c.isDigit = true := fun c hc => isDigit_of_mem_toDigits hc
  rw [Decimal.positional, String.toList_ofList]
  unfold Decimal.positionalChars
  dsimp only
  split
  · refine isUnsigned_of_digits (by simp [Nat.toDigits_ne_nil]) fun c hc => ?_
    rcases List.mem_append.mp hc with hc | hc
    · exact hd c hc
    · exact isDigit_of_mem_zeros hc
  split
  · next hneg hlt =>
    have hpos : 0 < (-d.exponent).toNat := by omega
    refine isUnsigned_fraction ?_ (fun c hc => hd c (List.mem_of_mem_take hc)) ?_ fun c hc => hd c (List.mem_of_mem_drop hc)
    · intro h
      have := congrArg List.length h
      simp only [List.length_take, List.length_nil] at this
      omega
    · intro h
      have := congrArg List.length h
      simp only [List.length_drop, List.length_nil] at this
      omega
  · have hzero : ∀ d ∈ ['0'], d.isDigit = true := by simp
    refine isUnsigned_fraction (by simp) hzero (by simp [Nat.toDigits_ne_nil]) fun c hc => ?_
    rcases List.mem_append.mp hc with hc | hc
    · exact isDigit_of_mem_zeros hc
    · exact hd c hc

theorem isNumeral_text (x : Double) : IsNumeral x.text.toList := by
  have h : IsUnsigned (if x.isZero then "0" else x.cell.shortest.positional).toList := by
    split
    · exact isUnsigned_of_digits (by simp) (by simp)
    · exact isUnsigned_positional _
  rw [Double.text, String.toList_append]
  split
  · exact .inr ⟨_, rfl, h⟩
  · exact .inl h

/-! ## Numbers from their numerals -/

theorem toString_nat_inj {m n : Nat} (h : toString m = toString n) : m = n := by
  rw [Nat.toString_eq_ofList_toDigits, Nat.toString_eq_ofList_toDigits, String.ofList_inj] at h
  rw [← Nat.ofDigitChars_ten_toDigits (n := m), h, Nat.ofDigitChars_ten_toDigits]

end SqlClauses
