/-
  SqlClauses.Value — values that stand in a statement.

  A value is written as a literal: numbers in decimal, texts quoted, and a float that is
  no number as `NULL`. Raw SQL is written as it is; that is the only way to put text into
  a statement unquoted.

  Main statements: `isNull_iff`, which values are null; `isNull_ofDouble`, what a float
  that is no number becomes when it is taken in.
-/

import SqlClauses.Double
import SqlClauses.Literal

namespace SqlClauses

inductive Value where
  | null
  | bool (b : Bool)
  | int (n : Int64)
  | uint (n : UInt64)
  | float (x : Double)
  | text (s : String)
  | raw (sql : String)
  deriving DecidableEq, Repr

namespace Value

/-- The time at which the server runs the statement. -/
def now : Value := .raw "CURRENT_TIMESTAMP"

/-- A float that is no number is taken in as null. -/
def ofDouble (x : Double) : Value := if x.isFinite then .float x else .null

def ofSingle (bits : UInt32) : Value := ofDouble (.ofSingle bits)

def ofOption (v : Option Value) : Value := v.getD .null

/-- Null, or a float that has no literal. -/
def isNull : Value → Bool
  | .null => true
  | .float x => !x.isFinite
  | _ => false

/-- As written in SQL. -/
def sql : Value → String
  | .null => "NULL"
  | .bool b => if b then "TRUE" else "FALSE"
  | .int n => toString n.toInt
  | .uint n => toString n.toNat
  | .float x => if x.isFinite then x.text else "NULL"
  | .text s => Literal.quote s
  | .raw sql => sql

/-- Equality of values, floats compared as numbers. -/
def same : Value → Value → Bool
  | .float x, .float y => x.same y
  | v, w => v == w

theorem isNull_iff {v : Value} : v.isNull = true ↔ v = .null ∨ ∃ x, v = .float x ∧ x.isFinite = false := by
  cases v <;> simp [isNull]

theorem isNull_ofDouble {x : Double} : (ofDouble x).isNull = !x.isFinite := by
  cases h : x.isFinite <;> simp [ofDouble, isNull, h]

theorem sql_of_isNull {v : Value} (h : v.isNull = true) : v.sql = "NULL" := by
  rcases isNull_iff.mp h with rfl | ⟨x, rfl, hx⟩
  · rfl
  · simp [sql, hx]

end Value

end SqlClauses
