/-
  SqlClauses.Proofs.Rendering — what rendering a query comes to.

  Rendering ends in one of four ways (`Rendering`): there is no statement; a key of the
  select list embeds a query that fails, and those before it do not; all of them render,
  but the limit cannot be written; or all is written. Each way has its log and its outcome,
  said of the embedded queries by their own. What is shown of rendering from here on is
  shown from these four cases.

  Main statements: `rendering`, every query ends in one of them; `Rendering.eq`, and in no
  other way; `induct_subqueries`, induction on how queries are nested.
-/

import SqlClauses.Proofs.Reachable
import SqlClauses.Proofs.Stages

namespace SqlClauses

/-- Work that logs nothing more. -/
theorem Logged.ok_bind_pure {α β : Type} (es : List Event) (a : α) (f : α → β) :
    ((⟨es, .ok a⟩ : Logged α) >>= fun a => pure (f a)) = ⟨es, .ok (f a)⟩ := by
  show Logged.mk (es ++ []) _ = _
  rw [List.append_nil]
  rfl

namespace Query

def Renders (q : Query) : Prop := ∃ sql, q.render = .ok sql

/-- What is logged while the query is rendered. -/
def log (q : Query) : List Event := q.renderLogged.events

theorem renderLogged_of_ok {q : Query} {sql : String} (h : q.render = .ok sql) : q.renderLogged = ⟨q.log, .ok sql⟩ := by
  rw [← h]
  rfl

theorem renderLogged_of_error {q : Query} {e : Error} (h : q.render = .error e) :
    q.renderLogged = ⟨q.log, .error e⟩ := by
  rw [← h]
  rfl

theorem exists_error_of_not_renders {q : Query} (h : ¬ q.Renders) : ∃ e, q.render = .error e := by
  cases hr : q.render with
  | ok sql => exact absurd ⟨sql, hr⟩ h
  | error e => exact ⟨e, rfl⟩

/-! ## Nesting -/

theorem sizeOf_lt_of_mem_subqueries {q n : Query} (h : n ∈ q.subqueries) : sizeOf n < sizeOf q := by
  obtain ⟨_ | s, filters, joins, orders, limit, stored⟩ := q
  · cases h
  · cases s with
    | select table keys =>
      obtain ⟨k, hk, hn⟩ := List.mem_filterMap.mp h
      have hkeys := List.sizeOf_lt_of_mem hk
      cases k with
      | subquery query name =>
        cases hn
        simp only [Key.subquery.sizeOf_spec] at hkeys
        simp only [mk.sizeOf_spec, Option.some.sizeOf_spec, Statement.select.sizeOf_spec]
        omega
      | _ => cases hn
    | _ => cases h

/-- To hold of every query, a property must hold of each whose subqueries have it. -/
theorem induct_subqueries {P : Query → Prop} (step : ∀ q, (∀ n ∈ q.subqueries, P n) → P q) (q : Query) : P q := by
  induction q using (measure (sizeOf : Query → Nat)).wf.induction with
  | h q ih => exact step q fun n hn => ih n (sizeOf_lt_of_mem_subqueries hn)

theorem subqueries_of_statement {q : Query} {s : Statement} (h : q.statement = some s) :
    q.subqueries = s.subqueries := by
  simp only [subqueries, h]

end Query

/-! ## Keys -/

namespace Key

/-- A key whose query renders is written, and what is logged is logged by that query. -/
theorem render_of_renders {k : Key} (h : ∀ n ∈ k.nested?.toList, n.Renders) :
    ∃ item, k.render = ⟨k.nested?.toList.flatMap Query.log, .ok item⟩ := by
  cases k with
  | subquery query name =>
    obtain ⟨sql, hr⟩ := h query (List.mem_singleton.mpr rfl)
    refine ⟨"(" ++ sql ++ ")" ++ nameSql name, ?_⟩
    rw [render, Query.renderLogged_of_ok hr, Logged.ok_bind_pure]
    simp [nested?]
  | column ref name | aggregate f ref name | fulltext s name => exact ⟨_, rfl⟩

theorem nested_cons (k : Key) (keys : List Key) :
    (k :: keys).filterMap nested? = k.nested?.toList ++ keys.filterMap nested? := by
  cases h : k.nested? <;> simp [h]

theorem renderAll_of_renders {keys : List Key} (h : ∀ n ∈ keys.filterMap nested?, n.Renders) :
    ∃ items, renderAll keys = ⟨(keys.filterMap nested?).flatMap Query.log, .ok items⟩ := by
  induction keys with
  | nil => exact ⟨[], rfl⟩
  | cons k keys ih =>
    rw [nested_cons] at h
    obtain ⟨hk, hkeys⟩ := List.forall_mem_append.mp h
    obtain ⟨item, hitem⟩ := render_of_renders hk
    obtain ⟨items, hitems⟩ := ih hkeys
    refine ⟨item :: items, ?_⟩
    rw [renderAll, hitem, hitems, nested_cons, List.flatMap_append]
    simp only [Logged.ok_bind_pure]
    rfl

/-- The first query that fails ends the list: those behind it are not looked at. -/
theorem renderAll_of_fails {before after : List Key} {n : Query} {name : String} {e : Error}
    (h : ∀ p ∈ before.filterMap nested?, p.Renders) (hn : n.render = .error e) :
    renderAll (before ++ subquery n name :: after) =
      ⟨(before.filterMap nested?).flatMap Query.log ++ n.log, .error e⟩ := by
  induction before with
  | nil =>
    rw [List.nil_append, renderAll, render, Query.renderLogged_of_error hn]
    rfl
  | cons k before ih =>
    rw [nested_cons] at h
    obtain ⟨hk, hbefore⟩ := List.forall_mem_append.mp h
    obtain ⟨item, hitem⟩ := render_of_renders hk
    rw [List.cons_append, renderAll, hitem, ih hbefore, nested_cons, List.flatMap_append, List.append_assoc]
    rfl

theorem all_render_or_fails (keys : List Key) :
    (∀ n ∈ keys.filterMap nested?, n.Renders) ∨ ∃ before n name after e, keys = before ++ subquery n name :: after ∧
      (∀ p ∈ before.filterMap nested?, p.Renders) ∧ n.render = .error e := by
  induction keys with
  | nil => exact .inl (List.forall_mem_nil _)
  | cons k keys ih =>
    by_cases hk : ∀ n ∈ k.nested?.toList, n.Renders
    · rcases ih with h | ⟨before, n, name, after, e, rfl, hb, hn⟩
      · left
        rw [nested_cons]
        exact List.forall_mem_append.mpr ⟨hk, h⟩
      · refine .inr ⟨k :: before, n, name, after, e, rfl, ?_, hn⟩
        rw [nested_cons]
        exact List.forall_mem_append.mpr ⟨hk, hb⟩
    · right
      cases k with
      | subquery n name =>
        obtain ⟨e, he⟩ := Query.exists_error_of_not_renders (q := n) fun hn => hk (by simpa [nested?] using hn)
        exact ⟨[], n, name, keys, e, rfl, List.forall_mem_nil _, he⟩
      | _ => exact absurd (by simp [nested?]) hk

end Key

namespace Statement

theorem render_of_renders {s : Statement} (h : ∀ n ∈ s.subqueries, n.Renders) :
    ∃ head, s.render = ⟨s.subqueries.flatMap Query.log, .ok head⟩ := by
  cases s with
  | select table keys =>
    obtain ⟨items, hitems⟩ := Key.renderAll_of_renders h
    rw [render, hitems, Logged.ok_bind_pure]
    exact ⟨_, rfl⟩
  | insert | update | delete | truncate =>
    rw [render]
    exact ⟨_, rfl⟩

end Statement

namespace Query

/-! ## The four ways -/

/-- The texts of the stages before that of the limit, in order. -/
def stageTexts (q : Query) (s : Statement) (head : String) : List String :=
  [head, Join.clause s.table q.joins, Filter.clause q.filters, Order.clause q.orders]

/-- One event for each stage that is finished; these are their texts. -/
def stageEvents (texts : List String) : List Event :=
  List.zipWith Event.stage [.head, .join, .filter, .order, .limit] texts

inductive Rendering (q : Query) : Logged String → Prop
  | unstated : q.statement = none → Rendering q ⟨[], .error .noStatement⟩
  | nested {table : String} {before after : List Key} {n : Query} {name : String} {e : Error} :
      q.statement = some (.select table (before ++ .subquery n name :: after)) →
      (∀ p ∈ before.filterMap Key.nested?, p.Renders) → n.render = .error e →
      Rendering q ⟨(before.filterMap Key.nested?).flatMap log ++ n.log, .error e⟩
  | unlimited {s : Statement} {head : String} {e : Error} : q.statement = some s → (∀ n ∈ q.subqueries, n.Renders) →
      s.render.outcome = .ok head → Limit.clause q.limit = .error e →
      Rendering q ⟨q.subqueries.flatMap log ++ stageEvents (q.stageTexts s head), .error e⟩
  | finished {s : Statement} {head limitSql : String} : q.statement = some s → (∀ n ∈ q.subqueries, n.Renders) →
      s.render.outcome = .ok head → Limit.clause q.limit = .ok limitSql →
      Rendering q ⟨q.subqueries.flatMap log ++ stageEvents (q.stageTexts s head ++ [limitSql]) ++
        [.rendered s.kind s.table (joinStages (q.stageTexts s head ++ [limitSql]))],
        .ok (joinStages (q.stageTexts s head ++ [limitSql]))⟩

theorem Rendering.eq {q : Query} {l : Logged String} (h : q.Rendering l) : q.renderLogged = l := by
  obtain ⟨statement, filters, joins, orders, limit, stored⟩ := q
  cases h with
  | unstated hs =>
    cases hs
    rw [renderLogged]
    rfl
  | nested hs hb hn =>
    cases hs
    rw [renderLogged, Statement.render, Key.renderAll_of_fails hb hn]
    rfl
  | unlimited hs hn hh hl =>
    cases hs
    obtain ⟨head', hr⟩ := Statement.render_of_renders hn
    rw [hr] at hh
    cases hh
    simp only at hl
    rw [renderLogged, hr, hl]
    rfl
  | finished hs hn hh hl =>
    cases hs
    obtain ⟨head', hr⟩ := Statement.render_of_renders hn
    rw [hr] at hh
    cases hh
    simp only at hl
    rw [renderLogged, hr, hl, List.append_assoc]
    rfl

theorem rendering (q : Query) : q.Rendering q.renderLogged := by
  suffices ∃ l, q.Rendering l by
    obtain ⟨l, h⟩ := this
    rw [h.eq]
    exact h
  cases hs : q.statement with
  | none => exact ⟨_, .unstated hs⟩
  | some s =>
    have all_render (hn : ∀ n ∈ q.subqueries, n.Renders) : ∃ l, q.Rendering l := by
      obtain ⟨head, hr⟩ := Statement.render_of_renders (subqueries_of_statement hs ▸ hn)
      have hh : s.render.outcome = .ok head := by rw [hr]
      cases hl : Limit.clause q.limit with
      | error e => exact ⟨_, .unlimited hs hn hh hl⟩
      | ok limitSql => exact ⟨_, .finished hs hn hh hl⟩
    cases s with
    | select table keys =>
      rcases Key.all_render_or_fails keys with hn | ⟨before, n, name, after, e, rfl, hb, hn⟩
      · exact all_render (subqueries_of_statement hs ▸ hn)
      · exact ⟨_, .nested hs hb hn⟩
    | insert | update | delete | truncate => exact all_render (subqueries_of_statement hs ▸ List.forall_mem_nil _)

theorem rendering_of_ok {q : Query} {sql : String} (h : q.render = .ok sql) : q.Rendering ⟨q.log, .ok sql⟩ :=
  renderLogged_of_ok h ▸ q.rendering

theorem rendering_of_error {q : Query} {e : Error} (h : q.render = .error e) : q.Rendering ⟨q.log, .error e⟩ :=
  renderLogged_of_error h ▸ q.rendering

/-! ## Queries that render -/

theorem Renders.nested {q n : Query} (h : q.Renders) (hn : n ∈ q.subqueries) : n.Renders := by
  obtain ⟨sql, hr⟩ := h
  have hq := rendering_of_ok hr
  generalize q.log = es at hq
  cases hq with
  | finished _ hall _ _ => exact hall n hn

theorem Renders.everywhere {q : Query} (h : q.Renders) : q.Everywhere Renders := by
  induction q using induct_subqueries with
  | step q ih => exact .intro h fun n hn => ih n hn (h.nested hn)

end Query

end SqlClauses
