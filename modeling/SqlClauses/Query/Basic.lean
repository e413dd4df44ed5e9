/-
  SqlClauses.Query.Basic — a query while it is being put together.

  A query holds the clauses given so far, each kind in call order, and the head of one
  statement once that is known. A select list may hold other queries, to any depth.
  `stored` is the SQL that was last prepared; it says nothing about clauses added since.
-/

import SqlClauses.Filter
import SqlClauses.Join
import SqlClauses.Limit
import SqlClauses.Order
import SqlClauses.StatementKind

namespace SqlClauses

mutual

/-- A column of the result. Everything but a plain column has a name of its own. -/
inductive Key where
  | column (ref : Reference) (name : Option String)
  | aggregate (f : Aggregate) (ref : Reference) (name : String)
  | fulltext (s : Search) (name : String)
  | subquery (query : Query) (name : String)

/-- The head of a statement, with what its kind needs. -/
inductive Statement where
  | select (table : String) (keys : List Key)
  | insert (table : String) (columns : List Column) (values : List Value)
  | update (table : String) (assignments : List (Column × Value))
  | delete (table : String)
  | truncate (table : String)

structure Query where
  statement : Option Statement := none
  filters : List Filter := []
  joins : List Join := []
  orders : List Order := []
  limit : Option Limit := none
  stored : Option String := none

end

namespace Key

def function : Key → Option KeyFunction
  | .aggregate f _ _ => some f.function
  | .fulltext _ _ => some .fulltext
  | .column _ _ | .subquery _ _ => none

/-- The column that the key reads, if it reads one. -/
def reference : Key → Option Reference
  | .column ref _ | .aggregate _ ref _ => some ref
  | .fulltext _ _ | .subquery _ _ => none

def name? : Key → Option String
  | .column _ name => name
  | .aggregate _ _ name | .fulltext _ name | .subquery _ name => some name

/-- Plain columns of `table`; the i-th takes the i-th name, if there is one. -/
def columns (table : String) : List String → List String → List Key
  | [], _ => []
  | key :: keys, names => .column ((Column.ofText key).qualify table) names.head? :: columns table keys names.tail

end Key

namespace Statement

def kind : Statement → StatementKind
  | .select .. => .select
  | .insert .. => .insert
  | .update .. => .update
  | .delete .. => .delete
  | .truncate .. => .truncate

def table : Statement → String
  | .select table _ | .insert table _ _ | .update table _ | .delete table | .truncate table => table

end Statement

namespace Query

instance : EmptyCollection Query := ⟨Query.mk none [] [] [] none none⟩

instance : Inhabited Query := ⟨∅⟩

/-- The keys of a select; none for any other statement. -/
def keys (q : Query) : List Key :=
  match q.statement with
  | some (.select _ keys) => keys
  | _ => []

end Query

end SqlClauses
