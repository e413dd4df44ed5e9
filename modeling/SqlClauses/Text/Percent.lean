/-
  SqlClauses.Text.Percent — percent-encoded texts.

  A percent sign and two hexadecimal digits stand for one byte, everything else for
  itself. A percent sign without two digits after it is just a percent sign. The bytes
  need not be those of a text.

  Main statement: `percentBytes_of_not_mem`, without percent signs nothing is encoded.
-/

import SqlClauses.Text.Bytes

namespace SqlClauses.Text

def hexValue? (c : Char) : Option UInt8 :=
  if '0' ≤ c ∧ c ≤ '9' then some (c.toNat - '0'.toNat).toUInt8
  else if 'a' ≤ c ∧ c ≤ 'f' then some (c.toNat - 'a'.toNat + 10).toUInt8
  else if 'A' ≤ c ∧ c ≤ 'F' then some (c.toNat - 'A'.toNat + 10).toUInt8
  else none

/-- The bytes that a percent-encoded text stands for. -/
def percentBytes : List Char → List UInt8
  | '%' :: a :: b :: r =>
    match hexValue? a, hexValue? b with
    | some x, some y => (16 * x + y) :: percentBytes r
    | _, _ => String.utf8EncodeChar '%' ++ percentBytes (a :: b :: r)
  | c :: r => String.utf8EncodeChar c ++ percentBytes r
  | [] => []

/-- The percent-encoded text, if the bytes are those of one. -/
def percentDecode? (cs : List Char) : Option String := ofUtf8? (percentBytes cs)

theorem percentBytes_of_not_mem {cs : List Char} (h : '%' ∉ cs) : percentBytes cs = utf8Bytes cs := by
  induction cs with
  | nil => rfl
  | cons c cs ih =>
    have hc : c ≠ '%' := fun e => h (e ▸ List.mem_cons_self)
    have hr := ih fun hm => h (List.mem_cons_of_mem _ hm)
    rw [percentBytes, hr, utf8Bytes, utf8Bytes, List.flatMap_cons]
    exact fun _ _ _ e => absurd e hc

example : percentDecode? "a%20%C3%a9%4".toList = some "a é%4" := by
  rw [percentDecode?, ofUtf8?_eq_some_iff]; decide +kernel

end SqlClauses.Text
