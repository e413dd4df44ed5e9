/-
  SqlClauses.StatementKind — the kinds of statement and the functions of a select list.
-/

namespace SqlClauses

inductive StatementKind where
  | select
  | insert
  | update
  | delete
  | truncate
  deriving DecidableEq, Repr

def StatementKind.all : List StatementKind := [.select, .insert, .update, .delete, .truncate]

def StatementKind.text : StatementKind → String
  | .select => "SELECT"
  | .insert => "INSERT"
  | .update => "UPDATE"
  | .delete => "DELETE"
  | .truncate => "TRUNCATE"

/-- What a selected key computes from the rows: an aggregate of a column, or how well a search matches. -/
inductive KeyFunction where
  | count
  | avg
  | sum
  | fulltext
  deriving DecidableEq, Repr

def KeyFunction.all : List KeyFunction := [.count, .avg, .sum, .fulltext]

/-- The name of the result where the caller gives none. -/
def KeyFunction.defaultName : KeyFunction → String
  | .count => "count"
  | .avg => "avg"
  | .sum => "sum"
  | .fulltext => "score"

inductive Aggregate where
  | count
  | avg
  | sum
  deriving DecidableEq, Repr

def Aggregate.all : List Aggregate := [.count, .avg, .sum]

def Aggregate.sql : Aggregate → String
  | .count => "COUNT"
  | .avg => "AVG"
  | .sum => "SUM"

def Aggregate.function : Aggregate → KeyFunction
  | .count => .count
  | .avg => .avg
  | .sum => .sum

end SqlClauses
