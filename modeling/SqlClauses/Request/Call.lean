/-
  SqlClauses.Request.Call — the clause calls of a request as data.

  A call is one use of a function of `SqlClauses.Request.Basic`, with its arguments. A name
  or an operator that is `none` is not given, and takes its default. Aggregates, filters and
  joins have a function of their own for each kind, link and side.
-/

import SqlClauses.Request.Basic

namespace SqlClauses.Request

inductive Call where
  | select (table : String) (keys : List String)
  | selectAs (table : String) (keys names : List String)
  | insert (table : String) (row : List (String × Value))
  | update (table : String) (row : List (String × Value))
  | delete (table : String)
  | truncate (table : String)
  | aggregate (f : Aggregate) (table key : String) (name : Option String)
  | fulltext (s : Search) (name : Option String)
  | subquery (nested : Request) (name : Option String)
  | filter (link : Link) (column : Column) (value : Value) (operator : Option Operator)
  | filterBetween (link : Link) (column : Column) (lo hi : Int64)
  | filterSearch (link : Link) (s : Search)
  | join (side : JoinSide) (table key : String) (target : Column) (operator : Option Operator)
  | order (o : Order)
  | orderBy (column : Column) (direction : Direction)
  | orderByAsc (column : Column)
  | orderByDesc (column : Column)
  | limit (offset amount : UInt64)
  | firstPage
  | limitTo (l : Limit)

def apply (r : Request) : Call → Except Error Request
  | .select table keys => r.select table keys
  | .selectAs table keys names => r.selectAs table keys names
  | .insert table row => r.insert table row
  | .update table row => r.update table row
  | .delete table => r.delete table
  | .truncate table => r.truncate table
  | .aggregate .count table key none => r.count table key
  | .aggregate .avg table key none => r.avg table key
  | .aggregate .sum table key none => r.sum table key
  | .aggregate .count table key (some name) => r.count table key name
  | .aggregate .avg table key (some name) => r.avg table key name
  | .aggregate .sum table key (some name) => r.sum table key name
  | .fulltext s none => r.fulltext s
  | .fulltext s (some name) => r.fulltext s name
  | .subquery nested none => r.subquery nested
  | .subquery nested (some name) => r.subquery nested name
  | .filter .first column value none => r.filter column value
  | .filter .or column value none => r.orFilter column value
  | .filter .and column value none => r.andFilter column value
  | .filter .first column value (some operator) => r.filter column value operator
  | .filter .or column value (some operator) => r.orFilter column value operator
  | .filter .and column value (some operator) => r.andFilter column value operator
  | .filterBetween .first column lo hi => r.filterBetween column lo hi
  | .filterBetween .or column lo hi => r.orFilterBetween column lo hi
  | .filterBetween .and column lo hi => r.andFilterBetween column lo hi
  | .filterSearch .first s => r.filterSearch s
  | .filterSearch .or s => r.orFilterSearch s
  | .filterSearch .and s => r.andFilterSearch s
  | .join .left table key target none => r.leftJoin table key target
  | .join .right table key target none => r.rightJoin table key target
  | .join .inner table key target none => r.innerJoin table key target
  | .join side table key target (some operator) => r.join side table key target operator
  | .order o => .ok (r.order o)
  | .orderBy column direction => .ok (r.orderBy column direction)
  | .orderByAsc column => .ok (r.orderByAsc column)
  | .orderByDesc column => .ok (r.orderByDesc column)
  | .limit offset amount => r.limit offset amount
  | .firstPage => .ok r.firstPage
  | .limitTo l => .ok (r.limitTo l)

end SqlClauses.Request
