/-
  SqlClauses.Double — floating-point numbers as their 64 bits.

  A sign bit, eleven bits of exponent and 52 bits of fraction. Keeping the bits makes
  every fact about a number one about natural numbers. The exponent 2047 marks what is
  no number: the infinities and, with a fraction, NaN. A finite number is
  `significand · 2^exponent`, negative if the sign bit is set.

  `same` is the comparison of numbers, not of bits: NaN is not equal to itself, and the
  two zeros are equal.
-/

import SqlClauses.Decimal.Shortest

namespace SqlClauses

structure Double where
  bits : UInt64
  deriving DecidableEq, Repr

namespace Double

variable (x : Double)

def isNegative : Bool := decide (Nat.pow 2 63 ≤ x.bits.toNat)

def exponentField : Nat := x.bits.toNat / Nat.pow 2 52 % Nat.pow 2 11

def fraction : Nat := x.bits.toNat % Nat.pow 2 52

def isFinite : Bool := x.exponentField != 2047

def isNaN : Bool := x.exponentField == 2047 && x.fraction != 0

def isZero : Bool := x.exponentField == 0 && x.fraction == 0

def significand : Nat := if x.exponentField = 0 then x.fraction else Nat.pow 2 52 + x.fraction

def exponent : Int := (max x.exponentField 1 : Nat) - 1075

/-- The reals that round to the absolute value. The neighbour below a power of two is half as
far as the one above, and a tie goes to the even significand. -/
def cell : Decimal.Cell :=
  let m := 4 * x.significand
  let gap := if x.fraction = 0 ∧ 1 < x.exponentField then 1 else 2
  ⟨m - gap, m, m + 2, x.exponent - 2, x.significand % 2 == 0⟩

/-- The text of a finite number: the fewest digits that read back, written out in full. -/
def text : String :=
  (if x.isNegative then "-" else "") ++ if x.isZero then "0" else x.cell.shortest.positional

def same (y : Double) : Bool :=
  !x.isNaN && !y.isNaN && (x.bits == y.bits || x.isZero && y.isZero)

/-- The number with the given 32 bits: eight of exponent and 23 of fraction. -/
def ofSingle (bits : UInt32) : Double :=
  let sign := bits.toNat / Nat.pow 2 31 * Nat.pow 2 63
  let e := bits.toNat / Nat.pow 2 23 % Nat.pow 2 8
  let f := bits.toNat % Nat.pow 2 23
  let magnitude :=
    if e = 255 then 2047 * Nat.pow 2 52 + f * Nat.pow 2 29
    else if e = 0 then
      -- a number below the normal range of 32 bits is normal in 64: its leading bit moves out of the fraction
      if f = 0 then 0 else (f.log2 + 874) * Nat.pow 2 52 + (f - Nat.pow 2 f.log2) * Nat.pow 2 (52 - f.log2)
    else (e + 896) * Nat.pow 2 52 + f * Nat.pow 2 29
  ⟨(sign + magnitude).toUInt64⟩

example : (Double.mk 0x3fb999999999999a).text = "0.1" := by decide +kernel

example : (Double.mk 0x8000000000000000).text = "-0" := by decide +kernel

example : (Double.mk 0x444b1ae4d6e2ef50).text = "1000000000000000000000" := by decide +kernel

example : Double.ofSingle 0x3fc00000 = ⟨0x3ff8000000000000⟩ := by decide +kernel

end Double

end SqlClauses
