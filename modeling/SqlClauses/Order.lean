/-
  SqlClauses.Order — ORDER BY.

  An order is a run of columns, each with its own direction. The orders of a query are
  written one after the other, so an earlier column takes precedence over a later one.

  Main statement: `ofLists_eq_ok_iff`, which lists make an order, and which order.
-/

import SqlClauses.Column
import SqlClauses.Error

namespace SqlClauses

inductive Direction where
  | asc
  | desc
  deriving DecidableEq, Repr

def Direction.all : List Direction := [.asc, .desc]

def Direction.sql : Direction → String
  | .asc => "ASC"
  | .desc => "DESC"

structure Order where
  terms : List (Column × Direction)
  deriving DecidableEq, Repr

namespace Order

/-- One column. Any column will do, an empty one included. -/
def single (column : Column) (direction : Direction) : Order := ⟨[(column, direction)]⟩

/-- Columns and directions in parallel, as many of the one as of the other. -/
def ofLists (columns : List Column) (directions : List Direction) : Except Error Order :=
  if columns.length ≠ directions.length then .error (.arityMismatch columns.length directions.length)
  else if ∃ c ∈ columns, c.Partial then .error (.emptyIdentifier "order key")
  else .ok ⟨columns.zip directions⟩

def columns (o : Order) : List Column := o.terms.map (·.1)

def directions (o : Order) : List Direction := o.terms.map (·.2)

def termSql (t : Column × Direction) : String := t.1.quoted ++ " " ++ t.2.sql

/-- The ORDER BY clause of a list of orders, empty if they hold no column. -/
def clause (os : List Order) : String :=
  let terms := os.flatMap (·.terms)
  if terms.isEmpty then "" else "ORDER BY " ++ ", ".intercalate (terms.map termSql)

@[simp] theorem clause_nil : clause [] = "" := rfl

theorem ofLists_eq_ok_iff {cs : List Column} {ds : List Direction} {o : Order} :
    ofLists cs ds = .ok o ↔
      cs.length = ds.length ∧ (∀ c ∈ cs, ¬ c.Partial) ∧ o.columns = cs ∧ o.directions = ds := by
  unfold ofLists columns directions
  split
  · next h => simp [h]
  · next h =>
    have hl : cs.length = ds.length := by simpa using h
    split
    · next hp => simp only [reduceCtorEq, false_iff]; grind
    · next hp =>
      constructor
      · intro ho
        cases ho
        refine ⟨hl, by simpa using hp, ?_, ?_⟩
        · simp [List.map_fst_zip, hl]
        · simp [List.map_snd_zip, hl]
      · rintro ⟨_, _, rfl, rfl⟩
        simp [List.zip_map', List.map_id']

end Order

end SqlClauses
