/-
  SqlClauses.Limit — LIMIT.

  A limit has an offset and an amount. Either may be left open while a query is being
  built, but only both or neither can be written.

  Main statement: `exists_sql_eq_ok_iff`, which limits can be written.
-/

import SqlClauses.Error

namespace SqlClauses

structure Limit where
  offset : Option UInt64
  amount : Option UInt64
  deriving DecidableEq, Repr

namespace Limit

def defaultOffset : UInt64 := 0

def defaultAmount : UInt64 := 25

/-- The first 25 rows. -/
def firstPage : Limit := ⟨some defaultOffset, some defaultAmount⟩

/-- An amount of zero is refused. -/
def ofParts (offset amount : Option UInt64) : Except Error Limit :=
  if amount = some 0 then .error .zeroAmount else .ok ⟨offset, amount⟩

def page (offset amount : UInt64) : Except Error Limit := ofParts (some offset) (some amount)

def sql : Limit → Except Error String
  | ⟨some offset, some amount⟩ => .ok ("LIMIT " ++ toString offset.toNat ++ ", " ++ toString amount.toNat)
  | ⟨none, some _⟩ => .error .amountWithoutOffset
  | ⟨some _, none⟩ => .error .offsetWithoutAmount
  | ⟨none, none⟩ => .ok ""

/-- The LIMIT clause, empty if there is no limit. -/
def clause : Option Limit → Except Error String
  | some l => l.sql
  | none => .ok ""

@[simp] theorem clause_none : clause none = .ok "" := rfl

@[simp] theorem clause_some (l : Limit) : clause (some l) = l.sql := rfl

theorem exists_sql_eq_ok_iff {l : Limit} : (∃ s, l.sql = .ok s) ↔ (l.offset.isSome = l.amount.isSome) := by
  rcases l with ⟨_ | _, _ | _⟩ <;> simp [sql]

end Limit

end SqlClauses
