/-
  SqlClauses.Join — JOIN clauses.

  A join compares a column of the joined table with a target. A bare column belongs to
  the joined table, a bare target to the table of the statement, never to that of an
  earlier join.
-/

import SqlClauses.Column
import SqlClauses.Operator

namespace SqlClauses

inductive JoinSide where
  | left
  | right
  | inner
  deriving DecidableEq, Repr

def JoinSide.all : List JoinSide := [.left, .right, .inner]

def JoinSide.sql : JoinSide → String
  | .left => "LEFT"
  | .right => "RIGHT"
  | .inner => "INNER"

structure Join where
  side : JoinSide
  table : String
  column : Column
  target : Column
  operator : Operator := .eq
  deriving DecidableEq, Repr

namespace Join

/-- As written in a statement on the table `base`. -/
def sql (base : String) (j : Join) : String :=
  j.side.sql ++ " JOIN " ++ Identifier.quote j.table ++ " ON " ++ (j.column.qualify j.table).quoted ++ " " ++
    j.operator.sql ++ " " ++ (j.target.qualify base).quoted

def clause (base : String) (js : List Join) : String := " ".intercalate (js.map (sql base))

@[simp] theorem clause_nil (base : String) : clause base [] = "" := rfl

end Join

end SqlClauses
