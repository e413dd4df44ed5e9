/-
  SqlClauses.Request.Basic — queries with the usual defaults filled in.

  A request is a query that is written more briefly. `filter` opens the WHERE clause and
  `orFilter` / `andFilter` extend it, comparisons are with `=` unless another operator is
  given, and a function or subquery without a name takes the default one. Every function
  hands over to one of `SqlClauses.Query.Clauses`, which does the checking.
-/

import SqlClauses.Query.Clauses

namespace SqlClauses

structure Request where
  query : Query := ∅
  /-- Whether every prepared statement is logged. -/
  announce : Bool := false

namespace Request

instance : EmptyCollection Request := ⟨⟨∅, false⟩⟩

def ofQuery (q : Query) : Request := ⟨q, false⟩

/-- The name of a subquery where the caller gives none. -/
def subqueryName : String := "result"

def change (r : Request) (f : Query → Except Error Query) : Except Error Request := do
  let q ← f r.query
  return { r with query := q }

/-! ## Heads -/

def select (r : Request) (table : String) (keys : List String) : Except Error Request :=
  r.change fun q => q.select table keys []

/-- Select columns, each under a name. -/
def selectAs (r : Request) (table : String) (keys names : List String) : Except Error Request :=
  r.change fun q => q.select table keys names

def insert (r : Request) (table : String) (row : List (String × Value)) : Except Error Request :=
  r.change fun q => q.insertRow table row

def update (r : Request) (table : String) (row : List (String × Value)) : Except Error Request :=
  r.change fun q => q.updateRow table row

def delete (r : Request) (table : String) : Except Error Request := r.change fun q => q.delete table

def truncate (r : Request) (table : String) : Except Error Request := r.change fun q => q.truncate table

/-! ## The select list -/

def count (r : Request) (table key : String) (name : String := KeyFunction.count.defaultName) :
    Except Error Request :=
  r.change fun q => q.aggregate .count table key name

def avg (r : Request) (table key : String) (name : String := KeyFunction.avg.defaultName) : Except Error Request :=
  r.change fun q => q.aggregate .avg table key name

def sum (r : Request) (table key : String) (name : String := KeyFunction.sum.defaultName) : Except Error Request :=
  r.change fun q => q.aggregate .sum table key name

def fulltext (r : Request) (s : Search) (name : String := KeyFunction.fulltext.defaultName) : Except Error Request :=
  r.change fun q => q.fulltext s name

def subquery (r : Request) (nested : Request) (name : String := subqueryName) : Except Error Request :=
  r.change fun q => q.subquery nested.query name

/-! ## Filters -/

/-- Open the WHERE clause with a comparison. -/
def filter (r : Request) (column : Column) (value : Value) (operator : Operator := .eq) : Except Error Request :=
  r.change fun q => q.compare .first column operator value

/-- Open another group of the WHERE clause. -/
def orFilter (r : Request) (column : Column) (value : Value) (operator : Operator := .eq) : Except Error Request :=
  r.change fun q => q.compare .or column operator value

/-- Extend the last group of the WHERE clause. -/
def andFilter (r : Request) (column : Column) (value : Value) (operator : Operator := .eq) : Except Error Request :=
  r.change fun q => q.compare .and column operator value

def filterBetween (r : Request) (column : Column) (lo hi : Int64) : Except Error Request :=
  r.change fun q => q.between .first column lo hi

def orFilterBetween (r : Request) (column : Column) (lo hi : Int64) : Except Error Request :=
  r.change fun q => q.between .or column lo hi

def andFilterBetween (r : Request) (column : Column) (lo hi : Int64) : Except Error Request :=
  r.change fun q => q.between .and column lo hi

def filterSearch (r : Request) (s : Search) : Except Error Request := r.change fun q => q.search .first s

def orFilterSearch (r : Request) (s : Search) : Except Error Request := r.change fun q => q.search .or s

def andFilterSearch (r : Request) (s : Search) : Except Error Request := r.change fun q => q.search .and s

/-! ## Joins, orders, limit -/

def join (r : Request) (side : JoinSide) (table key : String) (target : Column) (operator : Operator) :
    Except Error Request :=
  r.change fun q => q.join side table key target operator

def leftJoin (r : Request) (table key : String) (target : Column) : Except Error Request :=
  r.join .left table key target .eq

def rightJoin (r : Request) (table key : String) (target : Column) : Except Error Request :=
  r.join .right table key target .eq

def innerJoin (r : Request) (table key : String) (target : Column) : Except Error Request :=
  r.join .inner table key target .eq

def order (r : Request) (o : Order) : Request := { r with query := r.query.order o }

def orderBy (r : Request) (column : Column) (direction : Direction) : Request :=
  { r with query := r.query.orderBy column direction }

def orderByAsc (r : Request) (column : Column) : Request := r.orderBy column .asc

def orderByDesc (r : Request) (column : Column) : Request := r.orderBy column .desc

/-- Any limit, one that cannot be rendered included. -/
def limitTo (r : Request) (l : Limit) : Request := { r with query := r.query.limitTo l }

def limit (r : Request) (offset amount : UInt64) : Except Error Request := do
  let l ← Limit.page offset amount
  return r.limitTo l

def firstPage (r : Request) : Request := r.limitTo .firstPage

/-! ## Changing the query only -/

theorem change_eq_ok_iff {r r' : Request} {f : Query → Except Error Query} :
    r.change f = .ok r' ↔ f r.query = .ok r'.query ∧ r'.announce = r.announce := by
  unfold change
  cases h : f r.query with
  | error e => simp [bind, Except.bind]
  | ok q =>
    obtain ⟨q', a⟩ := r'
    simp [bind, Except.bind, pure, Except.pure, eq_comm]

theorem change_eq_error_iff {r : Request} {f : Query → Except Error Query} {e : Error} :
    r.change f = .error e ↔ f r.query = .error e := by
  unfold change
  cases h : f r.query <;> simp [bind, Except.bind, pure, Except.pure]

end Request

end SqlClauses
