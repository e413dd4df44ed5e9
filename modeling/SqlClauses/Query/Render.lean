/-
  SqlClauses.Query.Render — the SQL of a query.

  A statement is rendered in five stages: head, joins, filters, orders, limit. The texts
  that are not empty are joined by single spaces. A subquery is rendered on its own, in
  parentheses, while the head around it is; so its events come before that head's.
  Rendering reads nothing of what was stored by an earlier `prepare`.

  Main statements: `prepare_outcome`, what `prepare` stores; `prepare_events`, it logs
  what rendering logs.
-/

import SqlClauses.Log
import SqlClauses.Query.Basic

namespace SqlClauses

def nameSql (name : String) : String := " AS " ++ Identifier.quote name

/-- The stages that are not empty, in order. -/
def joinStages (stages : List String) : String :=
  Text.trimEnd (" ".intercalate (stages.filter fun s => !s.isEmpty))

mutual

def Key.render : Key → Logged String
  | .column ref name => pure (ref.quoted ++ (name.map nameSql).getD "")
  | .aggregate f ref name => pure (f.sql ++ "(" ++ ref.quoted ++ ")" ++ nameSql name)
  | .fulltext s name => pure (s.sql ++ nameSql name)
  | .subquery query name => do
    let sql ← query.renderLogged
    return "(" ++ sql ++ ")" ++ nameSql name

def Key.renderAll : List Key → Logged (List String)
  | [] => pure []
  | key :: keys => do
    let sql ← key.render
    let rest ← Key.renderAll keys
    return sql :: rest

def Statement.render : Statement → Logged String
  | .select table keys => do
    let items ← Key.renderAll keys
    return "SELECT " ++ (if items.isEmpty then "*" else ",".intercalate items) ++ " FROM " ++ Identifier.quote table
  | .insert table columns values =>
    pure ("INSERT INTO " ++ Identifier.quote table ++ " (" ++ ",".intercalate (columns.map Column.quoted) ++
      ") VALUES (" ++ ",".intercalate (values.map Value.sql) ++ ")")
  | .update table assignments =>
    pure ("UPDATE " ++ Identifier.quote table ++ " SET " ++
      ", ".intercalate (assignments.map fun a => a.1.quoted ++ "=" ++ a.2.sql))
  | .delete table => pure ("DELETE FROM " ++ Identifier.quote table)
  | .truncate table => pure ("TRUNCATE " ++ Identifier.quote table)

def Query.renderLogged : Query → Logged String
  | ⟨none, _, _, _, _, _⟩ => .quiet (.error .noStatement)
  | ⟨some statement, filters, joins, orders, limit, _⟩ => do
    let head ← statement.render
    Logged.emit (.stage .head head)
    let joinSql := Join.clause statement.table joins
    Logged.emit (.stage .join joinSql)
    let filterSql := Filter.clause filters
    Logged.emit (.stage .filter filterSql)
    let orderSql := Order.clause orders
    Logged.emit (.stage .order orderSql)
    let limitSql ← Logged.quiet (Limit.clause limit)
    Logged.emit (.stage .limit limitSql)
    let sql := joinStages [head, joinSql, filterSql, orderSql, limitSql]
    Logged.emit (.rendered statement.kind statement.table sql)
    return sql

end

namespace Query

def render (q : Query) : Except Error String := q.renderLogged.outcome

def store (q : Query) (sql : String) : Query := { q with stored := some sql }

/-- Store the SQL of the query as it stands. -/
def prepare (q : Query) : Logged Query := do
  let sql ← q.renderLogged
  return q.store sql

/-! ## Without the log -/

theorem prepare_outcome (q : Query) :
    q.prepare.outcome = q.render.bind fun sql => .ok (q.store sql) := by
  simp [prepare, render]

theorem prepare_events (q : Query) : q.prepare.events = q.renderLogged.events := by
  unfold prepare
  cases h : q.renderLogged.outcome with
  | ok sql => simp [Logged.events_bind_ok h]
  | error e => exact Logged.events_bind_error h _

theorem render_of_statement_eq_none {q : Query} (h : q.statement = none) : q.render = .error .noStatement := by
  obtain ⟨statement, _, _, _, _, _⟩ := q
  cases h
  simp [render, renderLogged]

end Query

end SqlClauses
