/-
  SqlClauses.Proofs.Replacement — other values in place of those of a query.

  Of a value, rendering asks two things: its literal, and whether it is null, which decides the
  operator before it. Values that are alike in both can stand for each other in the statement,
  in the filters and in all that is embedded; text and log stay as they are.

  A clause call asks nothing of a value, it only counts them. So it does not matter whether a
  value is replaced before a call takes it or afterwards, in the query.

  Main statements: `renderLogged_mapValues`, replaced values render as those in whose place they
  stand; `apply_mapValues`, replacing before a call and after it; `runActions_mapValues`, the
  same of runs; `everywhere_mapValues_iff`, nothing embedded is left out.
-/

import SqlClauses.Proofs.Rendering
import SqlClauses.Proofs.Rows
import SqlClauses.Proofs.Tokens

namespace SqlClauses

/-! ## Another value for every value -/

def Predicate.mapValues (f : Value → Value) : Predicate → Predicate
  | .compare column operator value => .compare column operator (f value)
  | .between column lo hi => .between column lo hi
  | .search s => .search s

def Filter.mapValues (f : Value → Value) (g : Filter) : Filter := ⟨g.link, g.predicate.mapValues f⟩

mutual

def Key.mapValues (f : Value → Value) : Key → Key
  | .column ref name => .column ref name
  | .aggregate a ref name => .aggregate a ref name
  | .fulltext s name => .fulltext s name
  | .subquery query name => .subquery (query.mapValues f) name

def Key.mapAllValues (f : Value → Value) : List Key → List Key
  | [] => []
  | key :: keys => key.mapValues f :: Key.mapAllValues f keys

def Statement.mapValues (f : Value → Value) : Statement → Statement
  | .select table keys => .select table (Key.mapAllValues f keys)
  | .insert table columns values => .insert table columns (values.map f)
  | .update table assignments => .update table (assignments.map (Prod.map id f))
  | .delete table => .delete table
  | .truncate table => .truncate table

/-- The query with `f v` for every value `v` in its statement, its filters, and whatever it embeds. -/
def Query.mapValues (f : Value → Value) : Query → Query
  | ⟨none, filters, joins, orders, limit, stored⟩ =>
    ⟨none, filters.map (Filter.mapValues f), joins, orders, limit, stored⟩
  | ⟨some statement, filters, joins, orders, limit, stored⟩ =>
    ⟨some (statement.mapValues f), filters.map (Filter.mapValues f), joins, orders, limit, stored⟩

end

variable {f : Value → Value}

theorem Key.mapAllValues_eq_map (keys : List Key) : Key.mapAllValues f keys = keys.map (Key.mapValues f) := by
  induction keys with
  | nil => rfl
  | cons key keys ih => rw [mapAllValues, ih, List.map_cons]

theorem Key.mapAllValues_append (keys : List Key) (key : Key) :
    Key.mapAllValues f (keys ++ [key]) = Key.mapAllValues f keys ++ [key.mapValues f] := by
  rw [mapAllValues_eq_map, mapAllValues_eq_map, List.map_append, List.map_singleton]

/-- Plain columns have no values. -/
theorem Key.mapAllValues_columns (table : String) (keys names : List String) :
    Key.mapAllValues f (columns table keys names) = columns table keys names := by
  induction keys generalizing names with
  | nil => rfl
  | cons key keys ih => rw [columns, mapAllValues, mapValues, ih]

theorem Key.nested?_mapValues (k : Key) : (k.mapValues f).nested? = k.nested?.map (Query.mapValues f) := by
  cases k <;> rfl

theorem Statement.kind_mapValues (s : Statement) : (s.mapValues f).kind = s.kind := by
  cases s <;> rfl

theorem Statement.table_mapValues (s : Statement) : (s.mapValues f).table = s.table := by
  cases s <;> rfl

theorem Statement.subqueries_mapValues (s : Statement) :
    (s.mapValues f).subqueries = s.subqueries.map (Query.mapValues f) := by
  cases s with
  | select table keys =>
    rw [mapValues, subqueries, subqueries, Key.mapAllValues_eq_map, List.filterMap_map, List.map_filterMap]
    exact List.filterMap_congr fun k _ => k.nested?_mapValues
  | insert | update | delete | truncate => rfl

theorem Statement.values_mapValues (s : Statement) : (s.mapValues f).values = s.values.map f := by
  cases s with
  | update table assignments =>
    rw [mapValues, values, values, List.map_map, List.map_map]
    rfl
  | select | insert | delete | truncate => rfl

theorem Predicate.values_mapValues (p : Predicate) : (p.mapValues f).values = p.values.map f := by
  cases p <;> rfl

namespace Query

theorem filters_mapValues (q : Query) : (q.mapValues f).filters = q.filters.map (Filter.mapValues f) := by
  obtain ⟨_ | s, filters, joins, orders, limit, stored⟩ := q <;> rfl

theorem statement_mapValues (q : Query) : (q.mapValues f).statement = q.statement.map (Statement.mapValues f) := by
  obtain ⟨_ | s, filters, joins, orders, limit, stored⟩ := q <;> rfl

theorem values_mapValues (q : Query) : (q.mapValues f).values = q.values.map f := by
  have hstatement : ((q.statement.map (Statement.mapValues f)).map Statement.values).getD [] =
      ((q.statement.map Statement.values).getD []).map f := by
    cases q.statement with
    | none => rfl
    | some s => exact s.values_mapValues
  rw [values, values, statement_mapValues, filters_mapValues, hstatement, List.map_append, List.flatMap_map,
    List.map_flatMap]
  congr 2
  funext g
  exact g.predicate.values_mapValues

theorem subqueries_mapValues (q : Query) : (q.mapValues f).subqueries = q.subqueries.map (mapValues f) := by
  obtain ⟨_ | s, filters, joins, orders, limit, stored⟩ := q
  · rfl
  · exact s.subqueries_mapValues

theorem everywhere_of_forall {P : Query → Prop} (h : ∀ q, P q) (q : Query) : q.Everywhere P := by
  induction q using induct_subqueries with
  | step q ih => exact .intro (h q) ih

theorem everywhere_mapValues_iff {P : Query → Prop} {q : Query} :
    (q.mapValues f).Everywhere P ↔ q.Everywhere fun n => P (n.mapValues f) := by
  induction q using induct_subqueries with
  | step q ih =>
    rw [everywhere_iff, everywhere_iff (q := q), subqueries_mapValues, List.forall_mem_map]
    exact and_congr_right fun _ => forall₂_congr ih

end Query

/-! ## Values that are alike -/

/-- Alike in all that rendering asks. -/
structure Value.Alike (v w : Value) : Prop where
  sql : v.sql = w.sql
  isNull : v.isNull = w.isNull

theorem Predicate.sql_mapValues (h : ∀ v, (f v).Alike v) (p : Predicate) : (p.mapValues f).sql = p.sql := by
  cases p with
  | compare column operator value => rw [mapValues, sql, sql, (h value).sql, (h value).isNull]
  | between | search => rfl

theorem Filter.linkedSql_mapValues (h : ∀ v, (f v).Alike v) (fs : List Filter) :
    linkedSql (fs.map (mapValues f)) = linkedSql fs := by
  induction fs with
  | nil => rfl
  | cons g fs ih => rw [List.map_cons, linkedSql, linkedSql, ih, mapValues, g.predicate.sql_mapValues h]

theorem Filter.clause_mapValues (h : ∀ v, (f v).Alike v) (fs : List Filter) :
    clause (fs.map (mapValues f)) = clause fs := by
  cases fs with
  | nil => rfl
  | cons g fs =>
    rw [List.map_cons, clause_cons, clause_cons, linkedSql_mapValues h, mapValues, g.predicate.sql_mapValues h]

mutual

theorem Key.render_mapValues (h : ∀ v, (f v).Alike v) : (k : Key) → (k.mapValues f).render = k.render
  | .column .. | .aggregate .. | .fulltext .. => rfl
  | .subquery query name => by rw [Key.mapValues, Key.render, Key.render, Query.renderLogged_mapValues h query]

theorem Key.renderAll_mapAllValues (h : ∀ v, (f v).Alike v) :
    (keys : List Key) → Key.renderAll (Key.mapAllValues f keys) = Key.renderAll keys
  | [] => rfl
  | key :: keys => by
    rw [Key.mapAllValues, Key.renderAll, Key.renderAll, Key.render_mapValues h key,
      Key.renderAll_mapAllValues h keys]

theorem Statement.render_mapValues (h : ∀ v, (f v).Alike v) : (s : Statement) → (s.mapValues f).render = s.render
  | .select table keys => by
    rw [Statement.mapValues, Statement.render, Statement.render, Key.renderAll_mapAllValues h keys]
  | .insert table columns values => by
    have hvalues : (values.map f).map Value.sql = values.map Value.sql := by
      rw [List.map_map]
      exact List.map_congr_left fun v _ => (h v).sql
    rw [Statement.mapValues, Statement.render, Statement.render, hvalues]
  | .update table assignments => by
    have hsets : (assignments.map (Prod.map id f)).map (fun a => a.1.quoted ++ "=" ++ a.2.sql) =
        assignments.map fun a => a.1.quoted ++ "=" ++ a.2.sql := by
      rw [List.map_map]
      exact List.map_congr_left fun a _ => congrArg (a.1.quoted ++ "=" ++ ·) (h a.2).sql
    rw [Statement.mapValues, Statement.render, Statement.render, hsets]
  | .delete _ | .truncate _ => rfl

/-- Values that are alike render alike, wherever they stand. -/
theorem Query.renderLogged_mapValues (h : ∀ v, (f v).Alike v) :
    (q : Query) → (q.mapValues f).renderLogged = q.renderLogged
  | ⟨none, _, _, _, _, _⟩ => rfl
  | ⟨some s, filters, joins, orders, limit, stored⟩ => by
    rw [Query.mapValues, Query.renderLogged, Query.renderLogged, Statement.render_mapValues h s, s.kind_mapValues,
      s.table_mapValues, Filter.clause_mapValues h]

end

/-! ## Before a call and after it -/

namespace Query

variable (q : Query)

theorem setHead_mapValues (s : Statement) : (q.mapValues f).setHead (s.mapValues f) = mapValues f <$> q.setHead s := by
  obtain ⟨_ | current, filters, joins, orders, limit, stored⟩ := q
  · rfl
  · simp only [mapValues, setHead, conflict, current.kind_mapValues, current.table_mapValues, s.kind_mapValues]
    rfl

theorem setUpdate_mapValues (table : String) (assignments : List (Column × Value)) :
    (q.mapValues f).setUpdate table (assignments.map (Prod.map id f)) =
      mapValues f <$> q.setUpdate table assignments := by
  cases assignments with
  | nil => rfl
  | cons a as => exact q.setHead_mapValues (.update table (a :: as))

theorem addKeyOn_mapValues (table : String) (key : Key) :
    (q.mapValues f).addKeyOn table (key.mapValues f) = mapValues f <$> q.addKeyOn table key := by
  obtain ⟨_ | s, filters, joins, orders, limit, stored⟩ := q
  · rfl
  · cases s with
    | select t keys =>
      simp only [mapValues, Statement.mapValues, addKeyOn]
      split
      · simp only [← Key.mapAllValues_append]
        rfl
      · rfl
    | insert | update | delete | truncate => rfl

theorem addKey_mapValues (feature : String) (key : Key) :
    (q.mapValues f).addKey feature (key.mapValues f) = mapValues f <$> q.addKey feature key := by
  obtain ⟨_ | s, filters, joins, orders, limit, stored⟩ := q
  · rfl
  · cases s with
    | select t keys =>
      simp only [mapValues, Statement.mapValues, addKey, ← Key.mapAllValues_append]
      rfl
    | insert | update | delete | truncate => rfl

theorem addFilter_mapValues (link : Link) (p : Predicate) :
    (q.mapValues f).addFilter link (p.mapValues f) = mapValues f <$> q.addFilter link p := by
  obtain ⟨_ | s, _ | ⟨g, filters⟩, joins, orders, limit, stored⟩ := q <;> cases link <;>
    simp [mapValues, addFilter, Filter.mapValues]

/-- The call with `f v` for every value `v` that it gives, and in the query that it embeds. -/
def Call.mapValues (f : Value → Value) : Call → Call
  | .insert table keys values => .insert table keys (values.map f)
  | .insertRow table row => .insertRow table (row.map (Prod.map id f))
  | .update table keys values => .update table keys (values.map f)
  | .updateRow table row => .updateRow table (row.map (Prod.map id f))
  | .subquery nested name => .subquery (nested.mapValues f) name
  | .compare link column operator value => .compare link column operator (f value)
  | c => c

def Action.mapValues (f : Value → Value) : Action → Action
  | .call c => .call (c.mapValues f)
  | .prepare => .prepare

theorem select_mapValues (table : String) (keys names : List String) :
    (q.mapValues f).select table keys names = mapValues f <$> q.select table keys names := by
  have hhead := q.setHead_mapValues (f := f) (.select table (Key.columns table keys names))
  rw [Statement.mapValues, Key.mapAllValues_columns] at hhead
  unfold select
  simp only [hhead, map_bind]
  split <;> simp only [map_bind]

theorem insert_mapValues (table : String) (keys : List String) (values : List Value) :
    (q.mapValues f).insert table keys (values.map f) = mapValues f <$> q.insert table keys values := by
  have hhead (columns : List Column) := q.setHead_mapValues (f := f) (.insert table columns values)
  unfold insert columnsFor
  rw [List.length_map]
  simp only [map_bind, ← hhead]
  rfl

theorem update_mapValues (table : String) (keys : List String) (values : List Value) :
    (q.mapValues f).update table keys (values.map f) = mapValues f <$> q.update table keys values := by
  have hzip (columns : List Column) : columns.zip (values.map f) = (columns.zip values).map (Prod.map id f) := by
    rw [List.zip_map_right]
  unfold update columnsFor
  rw [List.length_map]
  simp only [map_bind, hzip, setUpdate_mapValues]

theorem delete_mapValues (table : String) : (q.mapValues f).delete table = mapValues f <$> q.delete table := by
  have hhead := q.setHead_mapValues (f := f) (.delete table)
  simp only [delete, map_bind, ← hhead]
  rfl

theorem truncate_mapValues (table : String) : (q.mapValues f).truncate table = mapValues f <$> q.truncate table := by
  have hhead := q.setHead_mapValues (f := f) (.truncate table)
  simp only [truncate, map_bind, ← hhead]
  rfl

/-- A call with other values does to the query with other values what the call does to the query. -/
theorem apply_mapValues (c : Call) : (q.mapValues f).apply (c.mapValues f) = mapValues f <$> q.apply c := by
  -- the checks look at no value, so each case comes down to the law of what the call adds
  cases c with
  | select table keys names => exact q.select_mapValues table keys names
  | insert table keys values => exact q.insert_mapValues table keys values
  | update table keys values => exact q.update_mapValues table keys values
  | insertRow table row =>
    show (q.mapValues f).insertRow table (row.map (Prod.map id f)) = mapValues f <$> q.insertRow table row
    rw [insertRow_eq_insert, insertRow_eq_insert, ← insert_mapValues, List.map_map, List.map_map, List.map_map]
    rfl
  | updateRow table row =>
    show (q.mapValues f).updateRow table (row.map (Prod.map id f)) = mapValues f <$> q.updateRow table row
    rw [updateRow_eq_update, updateRow_eq_update, ← update_mapValues, List.map_map, List.map_map, List.map_map]
    rfl
  | delete table => exact q.delete_mapValues table
  | truncate table => exact q.truncate_mapValues table
  | aggregate a table key name =>
    have hkey := q.addKeyOn_mapValues (f := f) table (.aggregate a ((Column.ofText key).qualify table) name)
    simp only [Call.mapValues, apply_aggregate, aggregate, map_bind, ← hkey]
    rfl
  | fulltext s name =>
    have hkey := q.addKey_mapValues (f := f) "fulltext" (.fulltext s name)
    simp only [Call.mapValues, apply, fulltext, map_bind, ← hkey]
    rfl
  | subquery nested name =>
    have hkey := q.addKey_mapValues (f := f) "subquery" (.subquery nested name)
    simp only [Call.mapValues, apply, subquery, map_bind, ← hkey]
    rfl
  | compare link column operator value =>
    have hfilter := q.addFilter_mapValues (f := f) link (.compare column operator value)
    simp only [Call.mapValues, apply, compare, map_bind, ← hfilter]
    rfl
  | between link column lo hi =>
    have hfilter := q.addFilter_mapValues (f := f) link (.between column lo hi)
    simp only [Call.mapValues, apply, between]
    split
    · simp only [map_bind, ← hfilter]
      rfl
    · rfl
  | search link s =>
    have hfilter := q.addFilter_mapValues (f := f) link (.search s)
    simp only [Call.mapValues, apply, search, map_bind, ← hfilter]
    rfl
  | join side table key target operator =>
    simp only [Call.mapValues, apply, join, map_bind]
    obtain ⟨_ | s, filters, joins, orders, limit, stored⟩ := q <;> rfl
  | order o => obtain ⟨_ | s, filters, joins, orders, limit, stored⟩ := q <;> rfl
  | limit l => obtain ⟨_ | s, filters, joins, orders, limit, stored⟩ := q <;> rfl

theorem after_mapValues (c : Call) : (q.mapValues f).after (c.mapValues f) = (q.after c).mapValues f := by
  have happly := q.apply_mapValues (f := f) c
  cases h : q.apply c with
  | ok q' =>
    rw [h] at happly
    rw [after_of_ok h, after_of_ok happly]
  | error e =>
    rw [h] at happly
    rw [after_of_error h, after_of_error happly]

theorem store_mapValues (sql : String) : (q.store sql).mapValues f = (q.mapValues f).store sql := by
  obtain ⟨_ | s, filters, joins, orders, limit, stored⟩ := q <;> rfl

variable (h : ∀ v, (f v).Alike v)
include h

theorem render_mapValues : (q.mapValues f).render = q.render :=
  congrArg Logged.outcome (renderLogged_mapValues h q)

theorem afterAction_mapValues (a : Action) :
    (q.mapValues f).afterAction (a.mapValues f) = (q.afterAction a).mapValues f := by
  cases a with
  | call c => exact q.after_mapValues c
  | prepare =>
    have hrender := q.render_mapValues h
    cases hr : q.render with
    | ok sql =>
      rw [hr] at hrender
      rw [Action.mapValues, afterAction_prepare_of_ok hr, afterAction_prepare_of_ok hrender, store_mapValues]
    | error e =>
      rw [hr] at hrender
      rw [Action.mapValues, afterAction_prepare_of_error hr, afterAction_prepare_of_error hrender]

/-- Values that are alike may be put in place of each other before a run or after it, also where
the query is prepared on the way. -/
theorem runActions_mapValues (as : List Action) :
    (q.runActions as).mapValues f = (q.mapValues f).runActions (as.map (Action.mapValues f)) := by
  induction as generalizing q with
  | nil => rfl
  | cons a as ih =>
    show ((q.afterAction a).runActions as).mapValues f = ((q.mapValues f).afterAction (a.mapValues f)).runActions _
    rw [afterAction_mapValues q h, ih]

end Query

end SqlClauses
