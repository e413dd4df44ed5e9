/-
  SqlClauses.Query.Clauses — adding clauses to a query.

  Each function checks its own arguments, in the order in which its body names them, and
  then adds one record. The head of the statement is set once; functions that add to a
  select list need a select. Filters, joins, orders and the limit may come before the
  head, and nothing that was added is ever removed, except that a later limit replaces
  an earlier one.
-/

import SqlClauses.Query.Basic

namespace SqlClauses.Query

/-! ## Names -/

/-- A name must not be blank. -/
def requireName (part name : String) : Except Error Unit :=
  if Text.Blank name then .error (.emptyIdentifier part) else .ok ()

/-- A column must not have an empty part. -/
def requireColumn (part : String) (c : Column) : Except Error Unit :=
  if c.Partial then .error (.emptyIdentifier part) else .ok ()

/-- The columns with these names. -/
def namedColumns (keys : List String) : Except Error (List Column) := do
  keys.forM (requireName "column")
  return keys.map Column.ofText

/-- The columns with these names, as many as there are values. -/
def columnsFor (keys : List String) (values : List Value) : Except Error (List Column) :=
  if keys.length = values.length then namedColumns keys
  else .error (.unequalKeysAndValues keys.length values.length)

/-- The columns and the values of a row of pairs; a key is checked before the next pair is looked at. -/
def splitRow : List (String × Value) → Except Error (List Column × List Value)
  | [] => .ok ([], [])
  | (key, value) :: row => do
    requireName "column" key
    let lists ← splitRow row
    return (Column.ofText key :: lists.1, value :: lists.2)

/-! ## The head -/

def conflict (current : Statement) (requested : StatementKind) : Error :=
  .statementConflict current.kind.text current.table requested.text

/-- Set the head, which must not be set yet. -/
def setHead (q : Query) (s : Statement) : Except Error Query :=
  match q.statement with
  | none => .ok { q with statement := some s }
  | some current => .error (conflict current s.kind)

/-- Select columns of `table`, each under its name if there are names; no key at all selects every column. -/
def select (q : Query) (table : String) (keys names : List String) : Except Error Query := do
  requireName "table" table
  if names ≠ [] ∧ names.length ≠ keys.length then throw (.arityMismatch keys.length names.length)
  keys.forM (requireName "select key")
  q.setHead (.select table (Key.columns table keys names))

/-- One row, as a list of keys and a list of values. -/
def insert (q : Query) (table : String) (keys : List String) (values : List Value) : Except Error Query := do
  requireName "table" table
  let columns ← columnsFor keys values
  q.setHead (.insert table columns values)

/-- One row, as a list of pairs. -/
def insertRow (q : Query) (table : String) (row : List (String × Value)) : Except Error Query := do
  requireName "table" table
  let lists ← splitRow row
  q.setHead (.insert table lists.1 lists.2)

/-- An update sets at least one column. -/
def setUpdate (q : Query) (table : String) (assignments : List (Column × Value)) : Except Error Query :=
  if assignments.isEmpty then .error .noAssignments else q.setHead (.update table assignments)

def update (q : Query) (table : String) (keys : List String) (values : List Value) : Except Error Query := do
  requireName "table" table
  let columns ← columnsFor keys values
  q.setUpdate table (columns.zip values)

def updateRow (q : Query) (table : String) (row : List (String × Value)) : Except Error Query := do
  requireName "table" table
  let lists ← splitRow row
  q.setUpdate table (lists.1.zip lists.2)

def delete (q : Query) (table : String) : Except Error Query := do
  requireName "table" table
  q.setHead (.delete table)

def truncate (q : Query) (table : String) : Except Error Query := do
  requireName "table" table
  q.setHead (.truncate table)

/-! ## The select list -/

/-- Add a key to the select on `table`, which is opened if there is no head yet. -/
def addKeyOn (q : Query) (table : String) (key : Key) : Except Error Query :=
  match q.statement with
  | none => .ok { q with statement := some (.select table [key]) }
  | some (.select t keys) =>
    if t = table then .ok { q with statement := some (.select t (keys ++ [key])) }
    else .error (conflict (.select t keys) .select)
  | some current => .error (conflict current .select)

/-- Add a key to the select there is; `feature` names what needs one. -/
def addKey (q : Query) (feature : String) (key : Key) : Except Error Query :=
  match q.statement with
  | some (.select t keys) => .ok { q with statement := some (.select t (keys ++ [key])) }
  | _ => .error (.selectOnly feature)

def aggregate (q : Query) (f : Aggregate) (table key name : String) : Except Error Query := do
  requireName "table" table
  requireName "function key" key
  requireName "function alias" name
  q.addKeyOn table (.aggregate f ((Column.ofText key).qualify table) name)

def count (q : Query) (table key name : String) : Except Error Query := q.aggregate .count table key name

def avg (q : Query) (table key name : String) : Except Error Query := q.aggregate .avg table key name

def sum (q : Query) (table key name : String) : Except Error Query := q.aggregate .sum table key name

/-- Select how well each row matches a search. -/
def fulltext (q : Query) (s : Search) (name : String) : Except Error Query := do
  requireName "fulltext index" s.index
  requireName "fulltext alias" name
  q.addKey "fulltext" (.fulltext s name)

def subquery (q : Query) (nested : Query) (name : String) : Except Error Query := do
  requireName "subquery alias" name
  q.addKey "subquery" (.subquery nested name)

/-! ## Filters -/

/-- The first filter is `first` and no later one is. -/
def addFilter (q : Query) (link : Link) (p : Predicate) : Except Error Query :=
  match link, q.filters with
  | .first, _ :: _ => .error .duplicateInitialFilter
  | .or, [] | .and, [] => .error .noInitialFilter
  | _, filters => .ok { q with filters := filters ++ [⟨link, p⟩] }

def compare (q : Query) (link : Link) (column : Column) (operator : Operator) (value : Value) :
    Except Error Query := do
  requireColumn "where key" column
  q.addFilter link (.compare column operator value)

/-- The range must not be empty, nor a single number. -/
def between (q : Query) (link : Link) (column : Column) (lo hi : Int64) : Except Error Query := do
  unless lo < hi do throw (.emptyRange lo hi)
  requireColumn "where key" column
  q.addFilter link (.between column lo hi)

def search (q : Query) (link : Link) (s : Search) : Except Error Query := do
  requireName "fulltext index" s.index
  q.addFilter link (.search s)

/-! ## Joins, orders, limit -/

def join (q : Query) (side : JoinSide) (table key : String) (target : Column) (operator : Operator) :
    Except Error Query := do
  requireName "join table" table
  requireName "join key" key
  requireColumn "join target" target
  return { q with joins := q.joins ++ [⟨side, table, Column.ofText key, target, operator⟩] }

def order (q : Query) (o : Order) : Query := { q with orders := q.orders ++ [o] }

def orderBy (q : Query) (column : Column) (direction : Direction) : Query := q.order (.single column direction)

def limitTo (q : Query) (l : Limit) : Query := { q with limit := some l }

end SqlClauses.Query
