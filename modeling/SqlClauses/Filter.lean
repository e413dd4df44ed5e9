/-
  SqlClauses.Filter — the WHERE clause.

  A filter is a predicate and how it is linked to the ones before it. The first filter
  and each `or` filter open a group, an `and` filter joins the group before it. Groups
  stand in parentheses: the predicates in a group are joined by AND, the groups by OR.
-/

import SqlClauses.Column
import SqlClauses.Operator
import SqlClauses.Search
import SqlClauses.Value

namespace SqlClauses

inductive Predicate where
  /-- The operator is kept as given; what is written for null is decided when it is written. -/
  | compare (column : Column) (operator : Operator) (value : Value)
  | between (column : Column) (min max : Int64)
  | search (s : Search)
  deriving DecidableEq, Repr

namespace Predicate

def sql : Predicate → String
  | .compare column operator value =>
    column.quoted ++ " " ++ (if value.isNull then operator.sqlForNull else operator.sql) ++ " " ++ value.sql
  | .between column lo hi =>
    column.quoted ++ " BETWEEN " ++ toString lo.toInt ++ " AND " ++ toString hi.toInt
  | .search s => s.sql

/-- The word between the sides of the predicate. -/
def keyword : Predicate → String
  | .compare _ operator _ => operator.sql
  | .between .. => "BETWEEN"
  | .search _ => "MATCH"

end Predicate

/-- How a filter is linked to those before it. -/
inductive Link where
  | first
  | or
  | and
  deriving DecidableEq, Repr

def Link.all : List Link := [.first, .or, .and]

def Link.opensGroup : Link → Bool
  | .first | .or => true
  | .and => false

structure Filter where
  link : Link
  predicate : Predicate
  deriving DecidableEq, Repr

namespace Filter

/-- Cut before every filter that opens a group. -/
def groups (fs : List Filter) : List (List Filter) := fs.splitBy fun _ next => !next.link.opensGroup

def groupSql (g : List Filter) : String := "(" ++ " AND ".intercalate (g.map (·.predicate.sql)) ++ ")"

/-- The WHERE clause of a list of filters, empty if there are none. -/
def clause (fs : List Filter) : String :=
  if fs.isEmpty then "" else "WHERE " ++ " OR ".intercalate ((groups fs).map groupSql)

@[simp] theorem clause_nil : clause [] = "" := rfl

@[simp] theorem groups_nil : groups [] = [] := rfl

end Filter

end SqlClauses
