/-
  SqlClauses.Proofs.Growth — a query only grows, and its head is set once.

  Clause calls and `prepare` put records behind those that are there and take none away.
  So of any two moments of a run the later query extends the earlier one: filters, joins and
  orders go on where they were, the statement is the same up to more keys of its select
  list. Only the limit is replaced, by the latest one.

  Once there is a head, no call opens another, whatever has been added since: each one that
  is in order on its own is refused with the kind and the table of the head there is. A
  function joins a select on its own table, a search or a subquery any select.

  Main statements: `extendedBy_runActions`, the growth of a query over a run;
  `limit_runActions`, its limit; `head_refuses` and the two after it, what a head
  takes; `grows_and_keeps_head`, all of it for any two moments.
-/

import SqlClauses.Proofs.Arguments
import SqlClauses.Proofs.Interleaving
import SqlClauses.Proofs.Reachable

namespace SqlClauses

/-! ## One query before another -/

/-- The same head; a select list may go on. -/
def Statement.ExtendedBy : Statement → Statement → Prop
  | .select table keys, s => ∃ keys', s = .select table keys' ∧ keys <+: keys'
  | .insert table columns values, s => s = .insert table columns values
  | .update table assignments, s => s = .update table assignments
  | .delete table, s => s = .delete table
  | .truncate table, s => s = .truncate table

namespace Statement

theorem extendedBy_refl (s : Statement) : s.ExtendedBy s := by
  cases s with
  | select table keys => exact ⟨keys, rfl, List.prefix_refl keys⟩
  | insert | update | delete | truncate => rfl

theorem ExtendedBy.trans {s t u : Statement} (h : s.ExtendedBy t) (h' : t.ExtendedBy u) : s.ExtendedBy u := by
  cases s with
  | select table keys =>
    obtain ⟨keys', rfl, hk⟩ := h
    obtain ⟨keys'', rfl, hk'⟩ := h'
    exact ⟨keys'', rfl, hk.trans hk'⟩
  | insert | update | delete | truncate =>
    cases h
    exact h'

theorem ExtendedBy.kind_eq {s t : Statement} (h : s.ExtendedBy t) : t.kind = s.kind := by
  cases s with
  | select =>
    obtain ⟨_, rfl, -⟩ := h
    rfl
  | insert | update | delete | truncate =>
    cases h
    rfl

theorem ExtendedBy.table_eq {s t : Statement} (h : s.ExtendedBy t) : t.table = s.table := by
  cases s with
  | select =>
    obtain ⟨_, rfl, -⟩ := h
    rfl
  | insert | update | delete | truncate =>
    cases h
    rfl

theorem kind_eq_select_iff {s : Statement} : s.kind = .select ↔ ∃ table keys, s = .select table keys := by
  cases s <;> simp [kind]

end Statement

namespace Query

/-- Everything in the first query is in the second, in the same place, but for the limit. -/
structure ExtendedBy (q q' : Query) : Prop where
  statement : ∀ s, q.statement = some s → ∃ s', q'.statement = some s' ∧ s.ExtendedBy s'
  filters : q.filters <+: q'.filters
  joins : q.joins <+: q'.joins
  orders : q.orders <+: q'.orders

theorem extendedBy_refl (q : Query) : q.ExtendedBy q where
  statement s hs := ⟨s, hs, s.extendedBy_refl⟩
  filters := List.prefix_refl _
  joins := List.prefix_refl _
  orders := List.prefix_refl _

theorem ExtendedBy.trans {q p r : Query} (h : q.ExtendedBy p) (h' : p.ExtendedBy r) : q.ExtendedBy r where
  statement s hs := by
    obtain ⟨t, ht, hst⟩ := h.statement s hs
    obtain ⟨u, hu, htu⟩ := h'.statement t ht
    exact ⟨u, hu, hst.trans htu⟩
  filters := h.filters.trans h'.filters
  joins := h.joins.trans h'.joins
  orders := h.orders.trans h'.orders

/-! ## Growth -/

theorem Adds.extendedBy {q q' : Query} {nested : Option Query} (h : Adds nested q q') : q.ExtendedBy q' := by
  cases h with
  | head s hq _ _ =>
    refine { q.extendedBy_refl with statement := fun t ht => ?_ }
    rw [hq] at ht
    cases ht
  | key table keys k hq _ _ =>
    refine { q.extendedBy_refl with statement := fun t ht => ?_ }
    rw [hq] at ht
    cases ht
    exact ⟨_, rfl, keys ++ [k], rfl, List.prefix_append keys [k]⟩
  | filter f => exact { q.extendedBy_refl with filters := List.prefix_append q.filters [f] }
  | join j => exact { q.extendedBy_refl with joins := List.prefix_append q.joins [j] }
  | order o => exact { q.extendedBy_refl with orders := List.prefix_append q.orders [o] }
  | limit l => exact { q.extendedBy_refl with }

theorem extendedBy_afterAction (q : Query) (a : Action) : q.ExtendedBy (q.afterAction a) := by
  rcases afterAction_cases q a with h | h | ⟨sql, h⟩
  · rw [h]
    exact q.extendedBy_refl
  · exact h.extendedBy
  · rw [h]
    exact { q.extendedBy_refl with }

theorem extendedBy_runActions (q : Query) (as : List Action) : q.ExtendedBy (q.runActions as) := by
  induction as generalizing q with
  | nil => exact q.extendedBy_refl
  | cons a as ih => exact (extendedBy_afterAction q a).trans (ih (q.afterAction a))

theorem runActions_append (q : Query) (as bs : List Action) :
    q.runActions (as ++ bs) = (q.runActions as).runActions bs := by
  simp [runActions]

/-! ## The limit -/

def Action.limit? : Action → Option Limit
  | .call (.limit l) => some l
  | .call _ | .prepare => none

theorem limit_afterAction (q : Query) (a : Action) : (q.afterAction a).limit = a.limit?.or q.limit := by
  cases a with
  | call c =>
    by_cases hc : c.stage = .limit
    · cases c with
      | limit l => rfl
      | _ => cases hc
    · have hl : (Action.call c).limit? = none := by
        cases c with
        | limit l => exact absurd rfl hc
        | _ => rfl
      rw [hl]
      exact content_after_of_ne q hc
  | prepare =>
    cases h : q.render with
    | error e => rw [afterAction_prepare_of_error h]; rfl
    | ok sql => rw [afterAction_prepare_of_ok h]; rfl

/-- The latest limit counts; without one the query keeps the limit it came with. -/
theorem limit_runActions (q : Query) (as : List Action) :
    (q.runActions as).limit = (as.filterMap Action.limit?).getLast?.or q.limit := by
  induction as generalizing q with
  | nil => rfl
  | cons a as ih =>
    show ((q.afterAction a).runActions as).limit = _
    rw [ih, limit_afterAction]
    cases ha : a.limit? with
    | none => rw [List.filterMap_cons_none ha, Option.none_or]
    | some l =>
      rw [List.filterMap_cons_some ha, List.getLast?_cons]
      cases (as.filterMap Action.limit?).getLast? <;> rfl

/-! ## What a head takes -/

variable {q : Query} {s : Statement}

theorem head_refuses (hs : q.statement = some s) {c : Call} (hc : c.Valid) {kind : StatementKind}
    (hk : c.kind? = some kind) : q.apply c = .error (.statementConflict s.kind.text s.table kind.text) := by
  obtain ⟨t, rfl, ht⟩ := exists_setHead_of_valid hc hk
  rw [ht, setHead, hs]
  rfl

theorem head_takes_aggregate_iff (hs : q.statement = some s) {f : Aggregate} {table key name : String}
    (hc : (Call.aggregate f table key name).Valid) :
    (∃ q', q.apply (.aggregate f table key name) = .ok q') ↔ s.kind = .select ∧ s.table = table := by
  rw [aggregate_of_valid hc]
  constructor
  · rintro ⟨q', h⟩
    rcases addKeyOn_eq_ok_iff.mp h with ⟨hn, -⟩ | ⟨keys, hk, -⟩
    · rw [hs] at hn
      cases hn
    · rw [hs] at hk
      cases hk
      exact ⟨rfl, rfl⟩
  · rintro ⟨hk, rfl⟩
    obtain ⟨table, keys, rfl⟩ := Statement.kind_eq_select_iff.mp hk
    exact ⟨_, addKeyOn_eq_ok_iff.mpr (.inr ⟨keys, hs, rfl⟩)⟩

theorem addKey_takes_iff (hs : q.statement = some s) {feature : String} {k : Key} :
    (∃ q', q.addKey feature k = .ok q') ↔ s.kind = .select := by
  rw [Statement.kind_eq_select_iff]
  constructor
  · rintro ⟨q', h⟩
    obtain ⟨table, keys, hk, -⟩ := addKey_eq_ok_iff.mp h
    rw [hs] at hk
    cases hk
    exact ⟨table, keys, rfl⟩
  · rintro ⟨table, keys, rfl⟩
    exact ⟨_, addKey_eq_ok_iff.mpr ⟨table, keys, hs, rfl⟩⟩

/-- At any two moments of a run the later query is an extension of the earlier one, and its limit is
the latest that was given. If there is a head at the earlier moment, then at the later one each call
that is in order on its own is answered by the kind and the table of that head alone. -/
theorem grows_and_keeps_head (q : Query) (before after : List Action) :
    let p := q.runActions before
    let r := q.runActions (before ++ after)
    p.ExtendedBy r ∧ r.limit = ((before ++ after).filterMap Action.limit?).getLast?.or q.limit ∧
      ∀ s, p.statement = some s →
        (∀ c kind, c.Valid → c.kind? = some kind →
          r.apply c = .error (.statementConflict s.kind.text s.table kind.text)) ∧
        (∀ f table key name, (Call.aggregate f table key name).Valid →
          ((∃ r', r.apply (.aggregate f table key name) = .ok r') ↔ s.kind = .select ∧ s.table = table)) ∧
        (∀ search name, (Call.fulltext search name).Valid →
          ((∃ r', r.apply (.fulltext search name) = .ok r') ↔ s.kind = .select)) ∧
        ∀ nested name, (Call.subquery nested name).Valid →
          ((∃ r', r.apply (.subquery nested name) = .ok r') ↔ s.kind = .select) := by
  intro p r
  have hr : p.ExtendedBy r := by
    show p.ExtendedBy (q.runActions (before ++ after))
    rw [runActions_append]
    exact extendedBy_runActions p after
  refine ⟨hr, limit_runActions q _, fun s hs => ?_⟩
  obtain ⟨s', hs', hext⟩ := hr.statement s hs
  rw [← hext.kind_eq, ← hext.table_eq]
  refine ⟨fun c kind hc hk => head_refuses hs' hc hk, fun f table key name hc => head_takes_aggregate_iff hs' hc,
    fun search name hc => ?_, fun nested name hc => ?_⟩
  · rw [fulltext_of_valid hc]
    exact addKey_takes_iff hs'
  · rw [subquery_of_valid hc]
    exact addKey_takes_iff hs'

/-- A count opens the select. Then come a function on another table, a filter and a second head. -/
theorem grows_and_keeps_head_opened_by_count :
    let opened := Query.runActions ∅ [.call (.aggregate .count "a" "id" "n")]
    let later := Query.runActions ∅ [.call (.aggregate .count "a" "id" "n"), .prepare,
      .call (.aggregate .sum "b" "x" "s"), .call (.compare .first (.bare "id") .eq .null)]
    opened.ExtendedBy later ∧ (Call.delete "c").Valid ∧ (Call.aggregate .avg "a" "x" "m").Valid ∧
      later.apply (.delete "c") = .error (.statementConflict "SELECT" "a" "DELETE") ∧
      ∃ q, later.apply (.aggregate .avg "a" "x" "m") = .ok q := by
  intro opened later
  obtain ⟨hext, -, hhead⟩ := grows_and_keeps_head ∅ [.call (.aggregate .count "a" "id" "n")]
    [.prepare, .call (.aggregate .sum "b" "x" "s"), .call (.compare .first (.bare "id") .eq .null)]
  obtain ⟨hrefuses, htakes, -⟩ := hhead _ rfl
  have hdelete : (Call.delete "c").Valid := show ¬ Text.Blank "c" by decide
  have havg : (Call.aggregate .avg "a" "x" "m").Valid := ⟨by decide, by decide, by decide⟩
  exact ⟨hext, hdelete, havg, hrefuses _ .delete hdelete rfl, (htakes _ _ _ _ havg).mpr ⟨rfl, rfl⟩⟩

end Query

end SqlClauses
