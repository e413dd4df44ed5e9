/-
  SqlClauses.Proofs.Reachable — the queries that can be made, and what holds of them.

  A query is made from the empty one by actions on it or on a request that holds it, the
  two mixed in any way, where what an action embeds was made in the same way. A failed
  action leaves the query as it was. What is embedded never changes again, so a property
  of all reachable queries holds at every depth of each (`Everywhere`).

  Main statements: `Reachable.runActions` and `Reachable.runRequest`, every run stays
  among them; `Reachable.everywhere`, whatever is embedded was made in the same way;
  `Reachable.everywhere_wellFormed`, the invariant of all that can be made.
-/

import SqlClauses.Proofs.Lowering
import SqlClauses.Proofs.WellFormed

namespace SqlClauses

namespace Query

/-- A property of the query and of all that it embeds, to any depth. -/
inductive Everywhere (P : Query → Prop) : Query → Prop
  | intro {q : Query} : P q → (∀ n ∈ q.subqueries, Everywhere P n) → Everywhere P q

def Action.nested? : Action → Option Query
  | .call c => c.nested?
  | .prepare => none

inductive Reachable : Query → Prop
  | empty : Reachable ∅
  | act {q : Query} (a : Action) : Reachable q → (∀ n, a.nested? = some n → Reachable n) →
      Reachable (q.afterAction a)
  | request {σ ρ : Type} {r : Request} (ex : Executor σ ρ) (m : σ) (a : Request.Action) : Reachable r.query →
      (∀ n, a.nested? = some n → Reachable n.query) → Reachable (r.act ex m a).request.query

/-! ## Every depth -/

theorem Everywhere.here {P : Query → Prop} {q : Query} (h : q.Everywhere P) : P q := by
  cases h with
  | intro hq _ => exact hq

theorem Everywhere.nested {P : Query → Prop} {q n : Query} (h : q.Everywhere P) (hn : n ∈ q.subqueries) :
    n.Everywhere P := by
  cases h with
  | intro _ hs => exact hs n hn

theorem everywhere_iff {P : Query → Prop} {q : Query} :
    q.Everywhere P ↔ P q ∧ ∀ n ∈ q.subqueries, n.Everywhere P :=
  ⟨fun h => ⟨h.here, fun _ hn => h.nested hn⟩, fun h => .intro h.1 h.2⟩

theorem Everywhere.mono {P R : Query → Prop} {q : Query} (h : q.Everywhere P) (hPR : ∀ q, P q → R q) :
    q.Everywhere R := by
  induction h with
  | intro hq _ ih => exact .intro (hPR _ hq) ih

theorem Everywhere.and {P R : Query → Prop} {q : Query} (hP : q.Everywhere P) (hR : q.Everywhere R) :
    q.Everywhere fun q => P q ∧ R q := by
  induction hP with
  | intro hq _ ih => exact .intro ⟨hq, hR.here⟩ fun n hn => ih n hn (hR.nested hn)

/-! ## One action -/

/-- An action does nothing, adds a record, or stores SQL. -/
theorem afterAction_cases (q : Query) (a : Action) :
    q.afterAction a = q ∨ Adds a.nested? q (q.afterAction a) ∨ ∃ sql, q.afterAction a = q.store sql := by
  cases a with
  | call c =>
    rw [afterAction_call]
    cases h : q.apply c with
    | error e => exact .inl (after_of_error h)
    | ok q' =>
      right; left
      rw [after_of_ok h]
      exact adds_of_apply h
  | prepare =>
    cases h : q.render with
    | error e => exact .inl (afterAction_prepare_of_error h)
    | ok sql => exact .inr (.inr ⟨sql, afterAction_prepare_of_ok h⟩)

/-- The query that is left in place of one by a request's action embeds what that action does. -/
theorem query_act_cases {σ ρ : Type} (ex : Executor σ ρ) (r : Request) (m : σ) (a : Request.Action) :
    (r.act ex m a).request.query = r.query ∨
      ∃ b, (r.act ex m a).request.query = r.query.afterAction b ∧ b.nested? = a.nested?.map Request.query := by
  rw [Request.query_act]
  cases h : a.lower with
  | none => exact .inl rfl
  | some b =>
    refine .inr ⟨b, rfl, ?_⟩
    cases a with
    | call c =>
      cases c with
      | limit offset amount =>
        simp only [Request.Action.lower, Request.Call.lower] at h
        cases hl : Limit.page offset amount with
        | error e => rw [hl] at h; cases h
        | ok l => rw [hl] at h; cases h; rfl
      | aggregate f => cases f <;> cases h <;> rfl
      | _ => cases h; rfl
    | prepare | go => cases h; rfl
    | _ => cases h

/-- To hold of every reachable query, a property must hold of the empty one, and stay when a
call succeeds or SQL is stored. -/
theorem Reachable.induct_calls {P : Query → Prop} (empty : P ∅)
    (call : ∀ {q q' c}, q.Reachable → P q → q.apply c = .ok q' →
      (∀ n, c.nested? = some n → n.Reachable ∧ P n) → P q')
    (store : ∀ {q} sql, P q → P (q.store sql)) {q : Query} (h : q.Reachable) : P q := by
  have step {q : Query} (a : Action) (hr : q.Reachable) (hq : P q)
      (hn : ∀ n, a.nested? = some n → n.Reachable ∧ P n) : P (q.afterAction a) := by
    cases a with
    | call c =>
      rw [afterAction_call]
      cases h : q.apply c with
      | error e =>
        rw [after_of_error h]
        exact hq
      | ok q' =>
        rw [after_of_ok h]
        exact call hr hq h hn
    | prepare =>
      cases h : q.render with
      | error e =>
        rw [afterAction_prepare_of_error h]
        exact hq
      | ok sql =>
        rw [afterAction_prepare_of_ok h]
        exact store sql hq
  induction h with
  | empty => exact empty
  | act a hr hn ih ihn => exact step a hr ih fun n h => ⟨hn n h, ihn n h⟩
  | @request σ ρ r ex m a hr hn ih ihn =>
    rcases query_act_cases ex r m a with h | ⟨b, h, hb⟩
    · rw [h]
      exact ih
    · rw [h]
      refine step b hr ih fun n h => ?_
      obtain ⟨r', hr', rfl⟩ := Option.map_eq_some_iff.mp (hb.symm.trans h)
      exact ⟨hn r' hr', ihn r' hr'⟩

/-- Enough that it stays when a record is added, whatever the call was. -/
theorem Reachable.induct {P : Query → Prop} (empty : P ∅)
    (adds : ∀ {q q' nested}, q.Reachable → P q → Adds nested q q' →
      (∀ n, nested = some n → n.Reachable ∧ P n) → P q')
    (store : ∀ {q} sql, P q → P (q.store sql)) {q : Query} (h : q.Reachable) : P q :=
  h.induct_calls empty (fun hr hq h hn => adds hr hq (adds_of_apply h) hn) store

/-! ## Runs -/

theorem Reachable.runActions {q : Query} (h : q.Reachable) {as : List Action}
    (hn : ∀ a ∈ as, ∀ n, a.nested? = some n → n.Reachable) : (q.runActions as).Reachable := by
  induction as generalizing q with
  | nil => exact h
  | cons a as ih =>
    exact ih (.act a h (hn a (List.mem_cons_self ..))) fun b hb => hn b (List.mem_cons_of_mem a hb)

/-- A run that embeds nothing. -/
theorem reachable_runActions {as : List Action} (h : ∀ a ∈ as, a.nested?.isNone) :
    (Query.runActions ∅ as).Reachable := by
  refine .runActions .empty fun a ha n hn => ?_
  have hnone := h a ha
  rw [hn] at hnone
  cases hnone

theorem Reachable.runRequest {σ ρ : Type} {r : Request} (h : r.query.Reachable) (ex : Executor σ ρ) (m : σ)
    {as : List Request.Action} (hn : ∀ a ∈ as, ∀ n, a.nested? = some n → n.query.Reachable) :
    (r.runActions ex m as).1.query.Reachable := by
  induction as generalizing r m with
  | nil => exact h
  | cons a as ih =>
    have hr := Reachable.request ex m a h (hn a (List.mem_cons_self ..))
    exact ih hr _ fun b hb => hn b (List.mem_cons_of_mem a hb)

/-! ## What holds of all of them -/

theorem Reachable.everywhere {q : Query} (h : q.Reachable) : q.Everywhere Reachable := by
  refine .intro h (h.induct (P := fun q => ∀ n ∈ q.subqueries, n.Everywhere Reachable) nofun ?_ fun _ hq => hq)
  intro q q' nested _ hq ha hnested n hn
  rcases mem_subqueries_of_adds ha hn with hn | hn
  · exact hq n hn
  · obtain ⟨hr, hs⟩ := hnested n hn
    exact .intro hr hs

theorem Reachable.wellFormed {q : Query} (h : q.Reachable) : q.WellFormed :=
  h.induct wellFormed_empty (fun _ hq ha _ => hq.adds ha) fun sql hq => hq.store sql

/-- Whatever was done to a query, it is well formed, and so is all that it embeds; the lists that
an order is made of are as long as each other, and the order keeps them as they are. -/
theorem Reachable.everywhere_wellFormed {q : Query} (h : q.Reachable) :
    q.Everywhere WellFormed ∧
      ∀ columns directions o, Order.ofLists columns directions = .ok o →
        columns.length = directions.length ∧ o.columns = columns ∧ o.directions = directions := by
  refine ⟨h.everywhere.mono fun _ => Reachable.wellFormed, ?_⟩
  intro columns directions o ho
  obtain ⟨hl, -, hc, hd⟩ := Order.ofLists_eq_ok_iff.mp ho
  exact ⟨hl, hc, hd⟩

/-- A select with a refused filter and a subquery of its own. -/
theorem everywhere_wellFormed_with_subquery :
    let nested := Query.runActions ∅ [.call (.aggregate .count "posts" "id" "n"), .prepare]
    let q := Query.runActions ∅ [.call (.select "users" ["id"] []), .call (.compare .and (.bare "id") .eq .null),
      .call (.subquery nested "posts")]
    q.Reachable ∧ q.subqueries = [nested] ∧ q.Everywhere WellFormed := by
  intro nested q
  have hn : nested.Reachable := .runActions .empty fun a ha n h => by
    simp only [List.mem_cons, List.not_mem_nil, or_false] at ha
    rcases ha with rfl | rfl <;> cases h
  have hq : q.Reachable := .runActions .empty fun a ha n h => by
    simp only [List.mem_cons, List.not_mem_nil, or_false] at ha
    rcases ha with rfl | rfl | rfl
    · cases h
    · cases h
    · cases h
      exact hn
  exact ⟨hq, rfl, hq.everywhere_wellFormed.1⟩

end Query

end SqlClauses
