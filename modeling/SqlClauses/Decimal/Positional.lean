/-
  SqlClauses.Decimal.Positional — decimal numbers written out in full.

  A decimal is `digits · 10^exponent`. Written positionally it has no exponent, however
  large or small it is: zeros are put after the digits or between the point and the
  digits, and there is a point only where a fraction follows.
-/

namespace SqlClauses

structure Decimal where
  digits : Nat
  exponent : Int
  deriving DecidableEq, Repr

namespace Decimal

def positionalChars (d : Decimal) : List Char :=
  let ds := Nat.toDigits 10 d.digits
  let places := (-d.exponent).toNat
  if 0 ≤ d.exponent then ds ++ List.replicate d.exponent.toNat '0'
  else if places < ds.length then ds.take (ds.length - places) ++ '.' :: ds.drop (ds.length - places)
  else '0' :: '.' :: List.replicate (places - ds.length) '0' ++ ds

def positional (d : Decimal) : String := String.ofList d.positionalChars

example : (Decimal.mk 15 (-1)).positional = "1.5" := by decide +kernel

example : (Decimal.mk 5 (-3)).positional = "0.005" := by decide +kernel

example : (Decimal.mk 12 3).positional = "12000" := by decide +kernel

end Decimal

end SqlClauses
