/-
  SqlClauses.Proofs.NormalForm — what is left of a query once the ways to write it are set aside.

  Two queries may differ and still ask for the same: a name may come wrapped in backticks or
  not, a column as `t.c` in one text or in two, a number as signed or unsigned, an order in
  one call or in several. The normal form keeps what a statement says. Names are paths of
  segments, with what a segment quotes in place of a quoted segment; numbers are their
  decimal text; a float that is no number is null; bare columns of a join are qualified; the
  orders are one list of terms; a limit without parts is none. What was prepared is left
  out, and a subquery stands in its own normal form.

  Main definition: `Query.normalForm`.
-/

import SqlClauses.Proofs.Tokens

namespace SqlClauses

/-! ## Values and predicates -/

inductive ValueForm where
  | null
  | bool (b : Bool)
  | number (text : String)
  | text (s : String)
  | raw (sql : String)
  deriving DecidableEq, Repr

def Value.normalForm : Value → ValueForm
  | .null => .null
  | .bool b => .bool b
  | .int n => .number (toString n.toInt)
  | .uint n => .number (toString n.toNat)
  | .float x => if x.isFinite then .number x.text else .null
  | .text s => .text s
  | .raw sql => .raw sql

inductive PredicateForm where
  | compare (column : List String) (operator : Operator) (value : ValueForm)
  | between (column : List String) (min max : String)
  | search (s : Search)
  deriving DecidableEq, Repr

def Predicate.normalForm : Predicate → PredicateForm
  | .compare column operator value => .compare column.path operator value.normalForm
  | .between column lo hi => .between column.path (toString lo.toInt) (toString hi.toInt)
  | .search s => .search s

/-! ## Clauses -/

structure FilterForm where
  link : Link
  predicate : PredicateForm
  deriving DecidableEq, Repr

def Filter.normalForm (f : Filter) : FilterForm := ⟨f.link, f.predicate.normalForm⟩

structure JoinForm where
  side : JoinSide
  table : List String
  column : List String
  operator : Operator
  target : List String
  deriving DecidableEq, Repr

/-- In a statement on the table `base`. -/
def Join.normalForm (base : String) (j : Join) : JoinForm where
  side := j.side
  table := Identifier.segments j.table
  column := (j.column.qualify j.table).path
  operator := j.operator
  target := (j.target.qualify base).path

def Order.normalTerm (t : Column × Direction) : List String × Direction := (t.1.path, t.2)

/-- The terms of all orders, the first one first. -/
def Order.normalTerms (os : List Order) : List (List String × Direction) := (os.flatMap (·.terms)).map normalTerm

def Limit.normalForm : Option Limit → Option Limit
  | some ⟨none, none⟩ => none
  | limit => limit

/-! ## Statements -/

mutual

inductive KeyForm where
  | column (ref : List String) (name : Option (List String))
  | aggregate (f : Aggregate) (ref : List String) (name : List String)
  | fulltext (s : Search) (name : List String)
  | subquery (query : QueryForm) (name : List String)

inductive StatementForm where
  | select (table : List String) (keys : List KeyForm)
  | insert (table : List String) (columns : List (List String)) (values : List ValueForm)
  | update (table : List String) (assignments : List (List String × ValueForm))
  | delete (table : List String)
  | truncate (table : List String)

structure QueryForm where
  statement : Option StatementForm
  filters : List FilterForm
  joins : List JoinForm
  orders : List (List String × Direction)
  limit : Option Limit

end

def normalAssignment (a : Column × Value) : List String × ValueForm := (a.1.path, a.2.normalForm)

mutual

def Key.normalForm : Key → KeyForm
  | .column ref name => .column ref.path (name.map Identifier.segments)
  | .aggregate f ref name => .aggregate f ref.path (Identifier.segments name)
  | .fulltext s name => .fulltext s (Identifier.segments name)
  | .subquery query name => .subquery query.normalForm (Identifier.segments name)

def Key.normalForms : List Key → List KeyForm
  | [] => []
  | key :: keys => key.normalForm :: Key.normalForms keys

def Statement.normalForm : Statement → StatementForm
  | .select table keys => .select (Identifier.segments table) (Key.normalForms keys)
  | .insert table columns values =>
    .insert (Identifier.segments table) (columns.map Column.path) (values.map Value.normalForm)
  | .update table assignments => .update (Identifier.segments table) (assignments.map normalAssignment)
  | .delete table => .delete (Identifier.segments table)
  | .truncate table => .truncate (Identifier.segments table)

/-- Without a statement there is no base table, and nothing to say about the joins. -/
def Query.normalForm : Query → QueryForm
  | ⟨none, filters, _, orders, limit, _⟩ =>
    ⟨none, filters.map Filter.normalForm, [], Order.normalTerms orders, Limit.normalForm limit⟩
  | ⟨some statement, filters, joins, orders, limit, _⟩ =>
    ⟨some statement.normalForm, filters.map Filter.normalForm, joins.map (Join.normalForm statement.table),
      Order.normalTerms orders, Limit.normalForm limit⟩

end

theorem Key.normalForms_eq_map (keys : List Key) : Key.normalForms keys = keys.map Key.normalForm := by
  induction keys with
  | nil => rfl
  | cons key keys ih => rw [normalForms, ih, List.map_cons]

theorem Query.normalForm_of_statement {q : Query} {s : Statement} (h : q.statement = some s) :
    q.normalForm = ⟨some s.normalForm, q.filters.map Filter.normalForm, q.joins.map (Join.normalForm s.table),
      Order.normalTerms q.orders, Limit.normalForm q.limit⟩ := by
  obtain ⟨statement, filters, joins, orders, limit, stored⟩ := q
  cases h
  rw [normalForm]

end SqlClauses
