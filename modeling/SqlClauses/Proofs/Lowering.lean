/-
  SqlClauses.Proofs.Lowering — what a request does, said as what its query does.

  A call of a request fills in what was left out and hands over to a call of the query, or
  fails before that. The other actions either prepare the query or leave it alone. So the
  query of a request goes through the same states as a query that is used on its own.

  Main statements: `apply_eq_change`, a call of a request is the lowered call of its query;
  `query_act`, the same of every action.
-/

import SqlClauses.Query.Call
import SqlClauses.Request.Run

namespace SqlClauses.Request

/-- The call of the query that a call comes to, with what was left out written out. Only a limit
may fail before it comes to one. -/
def Call.lower : Call → Except Error Query.Call
  | .select table keys => .ok (.select table keys [])
  | .selectAs table keys names => .ok (.select table keys names)
  | .insert table row => .ok (.insertRow table row)
  | .update table row => .ok (.updateRow table row)
  | .delete table => .ok (.delete table)
  | .truncate table => .ok (.truncate table)
  | .aggregate .count table key name => .ok (.aggregate .count table key (name.getD "count"))
  | .aggregate .avg table key name => .ok (.aggregate .avg table key (name.getD "avg"))
  | .aggregate .sum table key name => .ok (.aggregate .sum table key (name.getD "sum"))
  | .fulltext s name => .ok (.fulltext s (name.getD "score"))
  | .subquery nested name => .ok (.subquery nested.query (name.getD "result"))
  | .filter link column value operator => .ok (.compare link column (operator.getD .eq) value)
  | .filterBetween link column lo hi => .ok (.between link column lo hi)
  | .filterSearch link s => .ok (.search link s)
  | .join side table key target operator => .ok (.join side table key target (operator.getD .eq))
  | .order o => .ok (.order o)
  | .orderBy column direction => .ok (.order (.single column direction))
  | .orderByAsc column => .ok (.order (.single column .asc))
  | .orderByDesc column => .ok (.order (.single column .desc))
  | .limit offset amount => (Limit.page offset amount).map .limit
  | .firstPage => .ok (.limit ⟨some 0, some 25⟩)
  | .limitTo l => .ok (.limit l)

/-- The action on the query that an action comes to, if it touches the query at all. -/
def Action.lower : Action → Option Query.Action
  | .call c => c.lower.toOption.map .call
  | .prepare | .go => some .prepare
  | .announce _ | .rewrap | .render | .execute | .raw _ => none

/-- The request that an action embeds, if it embeds one. -/
def Action.nested? : Action → Option Request
  | .call (.subquery nested _) => some nested
  | _ => none

/-! ## Calls -/

theorem apply_eq_change (r : Request) (c : Call) : r.apply c = r.change fun q => c.lower >>= q.apply := by
  cases c with
  | aggregate f table key name => cases name <;> cases f <;> rfl
  | fulltext s name => cases name <;> rfl
  | subquery nested name => cases name <;> rfl
  | filter link column value operator => cases operator <;> cases link <;> rfl
  | filterBetween link | filterSearch link => cases link <;> rfl
  | join side table key target operator => cases operator <;> cases side <;> rfl
  | limit offset amount =>
    simp only [apply, limit, change, Call.lower]
    cases Limit.page offset amount <;> rfl
  | _ => rfl

theorem apply_of_lower_eq_ok {r : Request} {c : Call} {d : Query.Call} (h : c.lower = .ok d) :
    r.apply c = (r.query.apply d).map fun q => { r with query := q } := by
  rw [apply_eq_change, h]
  show (r.query.apply d >>= fun q => _) = _
  cases r.query.apply d <;> rfl

theorem apply_of_lower_eq_error {r : Request} {c : Call} {e : Error} (h : c.lower = .error e) :
    r.apply c = .error e := by
  rw [apply_eq_change, h]
  rfl

/-! ## Actions -/

theorem preparedSql_outcome (r : Request) : r.preparedSql.outcome = r.query.render := by
  unfold preparedSql Query.render
  cases r.announce
  · cases h : r.query.renderLogged.outcome <;> simp [h, Except.bind]
  · cases h : r.query.renderLogged.outcome <;> simp [h, Except.bind]

theorem query_afterPreparing (r : Request) : r.afterPreparing.query = r.query.afterAction .prepare := by
  unfold afterPreparing
  rw [preparedSql_outcome]
  cases h : r.query.render with
  | error e => rw [Query.afterAction_prepare_of_error h]
  | ok sql =>
    rw [Query.afterAction_prepare_of_ok h]
    rfl

theorem query_act {σ ρ : Type} (ex : Executor σ ρ) (r : Request) (m : σ) (a : Action) :
    (r.act ex m a).request.query = (a.lower.map r.query.afterAction).getD r.query := by
  cases a with
  | call c =>
    simp only [act, Action.lower]
    cases hc : c.lower with
    | error e =>
      rw [apply_of_lower_eq_error hc]
      rfl
    | ok d =>
      rw [apply_of_lower_eq_ok hc]
      show _ = r.query.after d
      cases h : r.query.apply d with
      | error e =>
        rw [Query.after_of_error h]
        rfl
      | ok q =>
        rw [Query.after_of_ok h]
        rfl
  | prepare | go => exact query_afterPreparing r
  | _ => rfl

end SqlClauses.Request
