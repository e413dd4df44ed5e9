/-
  SqlClauses.Query.Call — clause calls as data.

  A call is one use of a function of `SqlClauses.Query.Clauses`, with its arguments. A
  call that fails leaves the query as it was. An action is a clause call or a `prepare`;
  these are all the ways in which a query changes.

  Main statements: `apply_aggregate`, all aggregates at once; `after_of_ok` / `after_of_error`, a query after one call; `run_append`,
  a run of calls in two parts.
-/

import SqlClauses.Query.Clauses
import SqlClauses.Query.Render

namespace SqlClauses.Query

inductive Call where
  | select (table : String) (keys names : List String)
  | insert (table : String) (keys : List String) (values : List Value)
  | insertRow (table : String) (row : List (String × Value))
  | update (table : String) (keys : List String) (values : List Value)
  | updateRow (table : String) (row : List (String × Value))
  | delete (table : String)
  | truncate (table : String)
  | aggregate (f : Aggregate) (table key name : String)
  | fulltext (s : Search) (name : String)
  | subquery (nested : Query) (name : String)
  | compare (link : Link) (column : Column) (operator : Operator) (value : Value)
  | between (link : Link) (column : Column) (lo hi : Int64)
  | search (link : Link) (s : Search)
  | join (side : JoinSide) (table key : String) (target : Column) (operator : Operator)
  | order (o : Order)
  | limit (l : Limit)

def apply (q : Query) : Call → Except Error Query
  | .select table keys names => q.select table keys names
  | .insert table keys values => q.insert table keys values
  | .insertRow table row => q.insertRow table row
  | .update table keys values => q.update table keys values
  | .updateRow table row => q.updateRow table row
  | .delete table => q.delete table
  | .truncate table => q.truncate table
  | .aggregate .count table key name => q.count table key name
  | .aggregate .avg table key name => q.avg table key name
  | .aggregate .sum table key name => q.sum table key name
  | .fulltext s name => q.fulltext s name
  | .subquery nested name => q.subquery nested name
  | .compare link column operator value => q.compare link column operator value
  | .between link column lo hi => q.between link column lo hi
  | .search link s => q.search link s
  | .join side table key target operator => q.join side table key target operator
  | .order o => .ok (q.order o)
  | .limit l => .ok (q.limitTo l)

/-- The query after a call, which is the query before if the call fails. -/
def after (q : Query) (c : Call) : Query :=
  match q.apply c with
  | .ok q' => q'
  | .error _ => q

def run (q : Query) (cs : List Call) : Query := cs.foldl after q

inductive Action where
  | call (c : Call)
  | prepare

def act (q : Query) : Action → Logged Query
  | .call c => .quiet (q.apply c)
  | .prepare => q.prepare

def afterAction (q : Query) (a : Action) : Query :=
  match (q.act a).outcome with
  | .ok q' => q'
  | .error _ => q

def runActions (q : Query) (as : List Action) : Query := as.foldl afterAction q

/-! ## One call and many -/

/-- Each kind of aggregate has a function of its own. -/
theorem apply_aggregate (q : Query) (f : Aggregate) (table key name : String) :
    q.apply (.aggregate f table key name) = q.aggregate f table key name := by
  cases f <;> rfl

theorem after_of_ok {q q' : Query} {c : Call} (h : q.apply c = .ok q') : q.after c = q' := by simp [after, h]

theorem after_of_error {q : Query} {c : Call} {e : Error} (h : q.apply c = .error e) : q.after c = q := by
  simp [after, h]

theorem afterAction_call (q : Query) (c : Call) : q.afterAction (.call c) = q.after c := rfl

theorem afterAction_prepare_of_ok {q : Query} {sql : String} (h : q.render = .ok sql) :
    q.afterAction .prepare = q.store sql := by
  simp [afterAction, act, prepare_outcome, h, Except.bind]

theorem afterAction_prepare_of_error {q : Query} {e : Error} (h : q.render = .error e) :
    q.afterAction .prepare = q := by
  simp [afterAction, act, prepare_outcome, h, Except.bind]

@[simp] theorem run_nil (q : Query) : q.run [] = q := rfl

@[simp] theorem run_cons (q : Query) (c : Call) (cs : List Call) : q.run (c :: cs) = (q.after c).run cs := rfl

theorem run_append (q : Query) (cs ds : List Call) : q.run (cs ++ ds) = (q.run cs).run ds := by
  simp [run]

end SqlClauses.Query
