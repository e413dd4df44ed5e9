/-
  SqlClauses.Proofs.Failure — which queries cannot be rendered, and why.

  Three things are looked at, one after the other: whether there is a statement, the
  queries that the select list embeds, and the limit. The first that is wrong gives the
  error. Names, values, joins, filters and orders are never at fault.

  Main statements: `Limit.clause_eq_error_iff`, which limits cannot be written;
  `renders_iff`, a query renders if there is nothing wrong at any depth;
  `render_fails_exactly`, the error of every query that does not.
-/

import SqlClauses.Proofs.Rendering

namespace SqlClauses

theorem Limit.clause_eq_error_iff {l : Option Limit} {e : Error} :
    clause l = .error e ↔ (∃ amount, l = some ⟨none, some amount⟩ ∧ e = .amountWithoutOffset) ∨
      ∃ offset, l = some ⟨some offset, none⟩ ∧ e = .offsetWithoutAmount := by
  rcases l with _ | ⟨_ | offset, _ | amount⟩ <;> simp [sql, eq_comm]

namespace Query

/-- The query has a statement, and a limit with both parts, with neither, or none. -/
structure Complete (q : Query) : Prop where
  statement : q.statement ≠ none
  limit : ∀ l, q.limit = some l → (l.offset = none ↔ l.amount = none)

theorem exists_clause_of_complete {q : Query} (h : q.Complete) : ∃ limitSql, Limit.clause q.limit = .ok limitSql := by
  cases hl : Limit.clause q.limit with
  | ok limitSql => exact ⟨limitSql, rfl⟩
  | error e =>
    rcases Limit.clause_eq_error_iff.mp hl with ⟨amount, hq, -⟩ | ⟨offset, hq, -⟩
    · cases (h.limit _ hq).mp rfl
    · cases (h.limit _ hq).mpr rfl

theorem Renders.complete {q : Query} (h : q.Renders) : q.Complete := by
  obtain ⟨sql, hr⟩ := h
  obtain ⟨s, -, limitSql, hs, -, hl, -⟩ := render_eq_ok_iff.mp hr
  refine ⟨by rw [hs]; nofun, fun l hq => ?_⟩
  rw [hq] at hl
  rcases l with ⟨_ | offset, _ | amount⟩
  · simp
  · cases hl
  · cases hl
  · simp

theorem renders_of_complete {q : Query} (h : q.Complete) (hn : ∀ n ∈ q.subqueries, n.Renders) : q.Renders := by
  obtain ⟨s, hs⟩ := Option.ne_none_iff_exists'.mp h.statement
  obtain ⟨limitSql, hl⟩ := exists_clause_of_complete h
  obtain ⟨head, hh⟩ := Statement.render_of_renders (subqueries_of_statement hs ▸ hn)
  exact ⟨_, render_eq_ok_iff.mpr ⟨s, head, limitSql, hs, by rw [hh], hl, rfl⟩⟩

/-- A query renders if nothing is wrong with it, nor with what it embeds at any depth. -/
theorem renders_iff {q : Query} : q.Renders ↔ q.Everywhere Complete := by
  constructor
  · exact fun h => h.everywhere.mono fun _ => Renders.complete
  · intro h
    induction h with
    | intro hq _ ih => exact renders_of_complete hq ih

/-- Where the limit is the only thing that is wrong, it is what is reported. -/
theorem render_of_clause_eq_error {q : Query} {e : Error} (hs : q.statement ≠ none) (hn : ∀ n ∈ q.subqueries, n.Renders)
    (hl : Limit.clause q.limit = .error e) : q.render = .error e := by
  obtain ⟨s, hs⟩ := Option.ne_none_iff_exists'.mp hs
  obtain ⟨head, hh⟩ := Statement.render_of_renders (subqueries_of_statement hs ▸ hn)
  rw [render, (Rendering.unlimited hs hn (by rw [hh]) hl).eq]

/-- What is wrong with a query. One thing is looked at only if those before it are in order. -/
inductive Fault (q : Query) : Error → Prop
  | unstated : q.statement = none → Fault q .noStatement
  /-- A key of the select list embeds a query that fails, and no key before it does. -/
  | nested {table : String} {before after : List Key} {n : Query} {name : String} {e : Error} :
      q.statement = some (.select table (before ++ .subquery n name :: after)) →
      (∀ p ∈ before.filterMap Key.nested?, p.Renders) → n.render = .error e → Fault q e
  | amount {amount : UInt64} : q.statement ≠ none → (∀ n ∈ q.subqueries, n.Renders) →
      q.limit = some ⟨none, some amount⟩ → Fault q .amountWithoutOffset
  | offset {offset : UInt64} : q.statement ≠ none → (∀ n ∈ q.subqueries, n.Renders) →
      q.limit = some ⟨some offset, none⟩ → Fault q .offsetWithoutAmount

theorem Fault.render_eq_error {q : Query} {e : Error} (h : q.Fault e) : q.render = .error e := by
  cases h with
  | unstated hs => exact render_of_statement_eq_none hs
  | nested hs hb hn => rw [render, (Rendering.nested hs hb hn).eq]
  | amount hs hn hl => exact render_of_clause_eq_error hs hn (Limit.clause_eq_error_iff.mpr (.inl ⟨_, hl, rfl⟩))
  | offset hs hn hl => exact render_of_clause_eq_error hs hn (Limit.clause_eq_error_iff.mpr (.inr ⟨_, hl, rfl⟩))

theorem fault_of_render {q : Query} {e : Error} (h : q.render = .error e) : q.Fault e := by
  have hq := rendering_of_error h
  generalize q.log = es at hq
  cases hq with
  | unstated hs => exact .unstated hs
  | nested hs hb hn => exact .nested hs hb hn
  | unlimited hs hn _ hl =>
    have hs : q.statement ≠ none := by
      rw [hs]
      nofun
    rcases Limit.clause_eq_error_iff.mp hl with ⟨amount, hlimit, rfl⟩ | ⟨offset, hlimit, rfl⟩
    · exact .amount hs hn hlimit
    · exact .offset hs hn hlimit

/-- No depth brings in another error. -/
theorem Fault.mem {q : Query} {e : Error} (h : q.Fault e) :
    e ∈ [Error.noStatement, .amountWithoutOffset, .offsetWithoutAmount] := by
  induction q using induct_subqueries with
  | step q ih =>
    cases h with
    | @nested table before after n name e hs _ hn =>
      have hmem : n ∈ q.subqueries := by
        rw [subqueries_of_statement hs]
        exact List.mem_filterMap.mpr ⟨.subquery n name, by simp, rfl⟩
      exact ih n hmem (fault_of_render hn)
    | _ => decide

/-- Rendering fails with an error exactly if that is what is wrong with the query first. It works
if no statement is missing and no limit lacks a part, at any depth; nothing else can go wrong. -/
theorem render_fails_exactly (q : Query) :
    (∀ e, q.render = .error e ↔ q.Fault e) ∧ (q.Renders ↔ q.Everywhere Complete) ∧
      ∀ e, q.Fault e → e ∈ [Error.noStatement, .amountWithoutOffset, .offsetWithoutAmount] :=
  ⟨fun _ => ⟨fault_of_render, Fault.render_eq_error⟩, renders_iff, fun _ => Fault.mem⟩

/-- A limit that lacks a part two levels down comes before the outer limit, which lacks the other. -/
theorem render_fails_exactly_two_levels_down :
    let inner := Query.run ∅ [.delete "a", .limit ⟨none, some 5⟩]
    let middle := Query.run ∅ [.select "b" ["id"] [], .subquery inner "x"]
    let outer := Query.run ∅ [.select "c" ["id"] [], .subquery middle "y", .limit ⟨some 1, none⟩]
    outer.render = .error .amountWithoutOffset ∧ outer.Fault .amountWithoutOffset ∧ ¬ outer.Everywhere Complete := by
  intro inner middle outer
  have h : outer.render = .error .amountWithoutOffset := by decide +kernel
  obtain ⟨hfault, hrenders, -⟩ := render_fails_exactly outer
  refine ⟨h, (hfault _).mp h, fun hc => ?_⟩
  obtain ⟨sql, hs⟩ := hrenders.mpr hc
  cases hs.symm.trans h

end Query

end SqlClauses
