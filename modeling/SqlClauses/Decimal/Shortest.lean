/-
  SqlClauses.Decimal.Shortest — the shortest decimal that reads back as a binary number.

  A binary number stands for a whole cell of reals: those nearer to it than to its
  neighbours. Any decimal in the cell reads back as the number. The shortest one is found
  on the coarsest decimal grid that meets the cell: the grid of `10^k` for the largest
  `k`. If two points of that grid next to the number are in the cell, the nearer one is
  taken, and the upper one at an exact tie. All comparisons are exact, on natural numbers.

  Main statements: `reads_of_onGrid?`, what is found reads back; `onGrid?_eq_none_iff`, a
  grid is passed over only if neither neighbour of the number on it reads back.
-/

import SqlClauses.Decimal.Positional

namespace SqlClauses.Decimal

/-- The reals that read as `value · 2^exponent`: those from `low · 2^exponent` to
`high · 2^exponent`, the ends included if `closed`. -/
structure Cell where
  low : Nat
  value : Nat
  high : Nat
  exponent : Int
  closed : Bool
  deriving Repr

namespace Cell

variable (c : Cell) (k : Int)

/-- `x · 2^exponent` over the common denominator of the cell and the grid of `10^k`. -/
def binary (x : Nat) : Nat := x * Nat.pow 2 c.exponent.toNat * Nat.pow 10 (-k).toNat

/-- `d · 10^k` over that same denominator. -/
def decimal (d : Nat) : Nat := d * Nat.pow 10 k.toNat * Nat.pow 2 (-c.exponent).toNat

/-- Whether `d · 10^k` lies in the cell. -/
def reads (d : Nat) : Bool :=
  if c.closed then decide (c.binary k c.low ≤ c.decimal k d ∧ c.decimal k d ≤ c.binary k c.high)
  else decide (c.binary k c.low < c.decimal k d ∧ c.decimal k d < c.binary k c.high)

/-- The last point of the grid of `10^k` that is not above the number. -/
def below : Nat := c.binary k c.value / c.decimal k 1

/-- The point of the grid of `10^k` to write, if one of the two next to the number is in the cell. -/
def onGrid? : Option Nat :=
  let d := c.below k
  if c.reads k d then
    if c.reads k (d + 1) ∧ c.decimal k (2 * d + 1) ≤ 2 * c.binary k c.value then some (d + 1) else some d
  else if c.reads k (d + 1) then some (d + 1)
  else none

/-- The grids on which a 64-bit binary number may be written, coarsest first: no such number
exceeds `10^309`, and their cells are all wider than `10^(-324)`. -/
def grids : List Int := (List.range 633).map fun i : Nat => (308 : Int) - i

def shortest : Decimal := (grids.findSome? fun k => (c.onGrid? k).map (Decimal.mk · k)).getD ⟨0, 0⟩

/-! ## What a grid offers -/

variable {c k}

theorem reads_of_onGrid? {d : Nat} (h : c.onGrid? k = some d) : c.reads k d = true := by
  simp only [onGrid?] at h
  split at h
  · next hd =>
    split at h
    · next hu => cases h; exact hu.1
    · cases h; exact hd
  · split at h
    · next hu => cases h; exact hu
    · cases h

theorem onGrid?_eq_none_iff :
    c.onGrid? k = none ↔ c.reads k (c.below k) = false ∧ c.reads k (c.below k + 1) = false := by
  simp only [onGrid?]
  split
  · next hd => split <;> simp [hd]
  · next hd => split <;> simp_all

end Cell

end SqlClauses.Decimal
