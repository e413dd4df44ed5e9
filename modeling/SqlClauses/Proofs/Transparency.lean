/-
  SqlClauses.Proofs.Transparency — logging changes nothing but the log.

  There are two ways to have more logged: tracers around the executor, and requests that
  announce what they prepare. A run with both, and the same run with neither
  (`Action.unannounced?` leaves out what turns announcing on and off), come to the same
  results and errors and to the same queries, and the executor inside is given the same texts in
  full, however much of them the tracers show.

  Main statements: `seen_act_congr`, an action does not see whether the request announces;
  `runActions_unannounced`, nor does a run; `logging_transparent`, with tracers as well.
-/

import SqlClauses.Proofs.Executors

namespace SqlClauses.Request

variable {σ ρ : Type}

/-- The same call, where a request that it embeds announces nothing. -/
def Call.unannounced : Call → Call
  | .subquery nested name => .subquery (ofQuery nested.query) name
  | c => c

/-- The same action in a run where nothing is announced; none if it has no place there. -/
def Action.unannounced? : Action → Option Action
  | .announce _ => none
  | .call c => some (.call c.unannounced)
  | a => some a

/-- What belongs to the actions of a run that have a place where nothing is announced. -/
def kept {α : Type} (as : List Action) (xs : List α) : List α :=
  (as.zip xs).filterMap fun x => x.1.unannounced?.map fun _ => x.2

theorem lower_unannounced (c : Call) : c.unannounced.lower = c.lower := by cases c <;> rfl

/-! ## One action -/

variable {r r' : Request} (ex : Executor σ ρ) (m : σ)

/-- The same call of the query does the same to the same query. -/
theorem apply_unannounced (hq : r.query = r'.query) (c : Call) :
    (r.apply c).map query = (r'.apply c.unannounced).map query := by
  rw [apply_eq_change, apply_eq_change, lower_unannounced]
  unfold change
  rw [hq]
  cases h : c.lower >>= r'.query.apply <;> simp only [h] <;> rfl

/-- A call shows no more than what becomes of the query. -/
theorem seen_call (r : Request) (c : Call) :
    (r.act ex m (.call c)).seen id =
      match (r.apply c).map query with
      | .ok q => (.ok .done, q, m)
      | .error e => (.error e, r.query, m) := by
  cases h : r.apply c <;> simp only [act, h] <;> rfl

theorem seen_go (hq : r.query = r'.query) : (r.act ex m .go).seen id = (r'.act ex m .go).seen id := by
  have hsql : r.preparedSql.outcome = r'.preparedSql.outcome := by
    rw [preparedSql_outcome, preparedSql_outcome, hq]
  have hafter : r.afterPreparing.query = r'.afterPreparing.query := by
    rw [query_afterPreparing, query_afterPreparing, hq]
  obtain ⟨ho, hm⟩ := Logged.send_of_simulates ex.simulates_self hsql m
  show ((r.preparedSql.send ex m).outcome.map _, r.afterPreparing.query, (r.preparedSql.send ex m).memory) = _
  rw [ho, hafter]
  exact congrArg _ (congrArg _ hm)

theorem seen_act_congr (hq : r.query = r'.query) {a a' : Action} (ha : a.unannounced? = some a') :
    (r.act ex m a).seen id = (r'.act ex m a').seen id := by
  cases a with
  | announce b => cases ha
  | call c =>
    cases ha
    rw [seen_call, seen_call, apply_unannounced hq, hq]
  | rewrap | raw =>
    cases ha
    simp only [act, turnOf, ofQuery, Turn.seen, hq]
  | render =>
    cases ha
    simp only [act, Turn.seen, hq]
  | prepare =>
    cases ha
    simp only [act, Turn.seen, preparedSql_outcome, query_afterPreparing, hq]
  | execute =>
    cases ha
    simp only [act, turnOf, execute, Turn.seen, hq]
  | go =>
    cases ha
    exact seen_go ex m hq

/-! ## Runs -/

theorem runActions_unannounced (hq : r.query = r'.query) (as : List Action) :
    let run := r.runActions ex m as
    let bare := r'.runActions ex m (as.filterMap Action.unannounced?)
    run.1.query = bare.1.query ∧ run.2.1 = bare.2.1 ∧
      kept as (run.2.2.map (Turn.seen id)) = bare.2.2.map (Turn.seen id) := by
  induction as generalizing r r' m with
  | nil => exact ⟨hq, rfl, rfl⟩
  | cons a as ih =>
    cases ha : a.unannounced? with
    | none =>
      -- only turning announcing on or off is left out, and that leaves the query as it is
      obtain ⟨b, rfl⟩ : ∃ b, a = .announce b := by
        cases a with
        | announce b => exact ⟨b, rfl⟩
        | _ => cases ha
      exact ih m hq
    | some a' =>
      have hturn := seen_act_congr ex m hq ha
      have hq' : (r.act ex m a).request.query = (r'.act ex m a').request.query := congrArg (·.2.1) hturn
      have hm : (r.act ex m a).memory = (r'.act ex m a').memory := congrArg (·.2.2) hturn
      obtain ⟨hquery, hmemory, hturns⟩ := ih (r.act ex m a).memory hq'
      rw [List.filterMap_cons_some ha]
      simp only [runActions, ← hm]
      refine ⟨hquery, hmemory, ?_⟩
      simp only [kept, List.map_cons, List.zip_cons_cons] at hturns ⊢
      rw [List.filterMap_cons_some (by rw [ha]; rfl), hturn, hturns]

theorem runActions_tracedBy (hq : r.query = r'.query) (ts : List Tracer) (as : List Action) :
    let traced := r.runActions (ex.tracedBy ts) m as
    let bare := r'.runActions ex m (as.filterMap Action.unannounced?)
    traced.1.query = bare.1.query ∧ traced.2.1 = bare.2.1 ∧
      kept as (traced.2.2.map (Turn.seen id)) = bare.2.2.map (Turn.seen id) := by
  obtain ⟨hmemory, hturns⟩ := runActions_of_simulates (ex.simulates_tracedBy ts) r m as
  have hrequest : (r.runActions (ex.tracedBy ts) m as).1 = (r.runActions ex m as).1 := by
    rw [request_runActions, request_runActions]
  obtain ⟨hquery, hbare, hkept⟩ := runActions_unannounced ex m hq as
  exact ⟨(congrArg query hrequest).trans hquery, hmemory.trans hbare, (congrArg (kept as) hturns).trans hkept⟩

/-- With any tracers around the executor, however they cut what they show, and announcing turned on
and off at any time, a run comes to the same as without: to the same results, errors and queries.
The executor inside remembers the same, and is given the same texts. -/
theorem logging_transparent (ex : Executor σ ρ) (ts : List Tracer) (q : Query) (b : Bool) (m : σ) (as : List Action) :
    let bareActions := as.filterMap Action.unannounced?
    let traced := runActions (ex.tracedBy ts) ⟨q, b⟩ m as
    let bare := runActions ex (ofQuery q) m bareActions
    traced.1.query = bare.1.query ∧ traced.2.1 = bare.2.1 ∧
      kept as (traced.2.2.map (Turn.seen id)) = bare.2.2.map (Turn.seen id) ∧
      (runActions (ex.recording.tracedBy ts) ⟨q, b⟩ (m, []) as).2.1 =
        (runActions ex.recording (ofQuery q) (m, []) bareActions).2.1 := by
  have hq : (⟨q, b⟩ : Request).query = (ofQuery q).query := rfl
  obtain ⟨hquery, hmemory, hturns⟩ := runActions_tracedBy ex m hq ts as
  exact ⟨hquery, hmemory, hturns, (runActions_tracedBy ex.recording (m, []) hq ts as).2.1⟩

end SqlClauses.Request
