/-
  SqlClauses.Proofs.WellFormed — what holds of a query after any clause calls.

  A query is well formed if its own records are: the WHERE clause starts with its first
  filter and has no other, ranges are not empty, names that were checked are still there,
  and a select list is a row of plain columns, all under names or none, with what is
  computed after it, each under a name. The queries it embeds are not part of this; they
  are what `Query.subqueries` lists.

  Every successful call adds one record (`Adds`). That is the only thing to be known about
  the clause functions from here on: `adds_of_apply` is shown from their laws, everything
  else from its six cases.

  Main statements: `adds_of_apply`, what a successful call does; `WellFormed.adds`, it
  keeps a query well formed; `mem_subqueries_of_adds`, it embeds at most its own argument.
-/

import SqlClauses.Proofs.Clauses

namespace SqlClauses

/-! ## Keys -/

namespace Key

/-- The query that the key embeds, if it embeds one. -/
def nested? : Key → Option Query
  | .subquery query _ => some query
  | .column .. | .aggregate .. | .fulltext .. => none

def IsColumn : Key → Prop
  | .column .. => True
  | .aggregate .. | .fulltext .. | .subquery .. => False

/-- Something computed, under a name. -/
def IsComputed : Key → Prop
  | .column .. => False
  | .aggregate _ _ name => ¬ Text.Blank name
  | .fulltext s name => ¬ Text.Blank s.index ∧ ¬ Text.Blank name
  | .subquery _ name => ¬ Text.Blank name

/-- Plain columns, all of them under names or none, and then what is computed. -/
def IsSelectList (keys : List Key) : Prop :=
  ∃ plain computed, keys = plain ++ computed ∧ (∀ k ∈ plain, k.IsColumn) ∧
    ((∀ k ∈ plain, k.name?.isSome) ∨ ∀ k ∈ plain, k.name? = none) ∧ ∀ k ∈ computed, k.IsComputed

/-! ## Select lists -/

theorem isColumn_of_mem_columns {table : String} {keys names : List String} {k : Key}
    (h : k ∈ columns table keys names) : k.IsColumn ∧ k.nested? = none := by
  induction keys generalizing names with
  | nil => cases h
  | cons key keys ih =>
    rcases List.mem_cons.mp h with rfl | h
    · exact ⟨trivial, rfl⟩
    · exact ih h

theorem name?_of_mem_columns {table : String} {keys : List String} {k : Key}
    (h : k ∈ columns table keys []) : k.name? = none := by
  induction keys with
  | nil => cases h
  | cons key keys ih =>
    rcases List.mem_cons.mp h with rfl | h
    · rfl
    · exact ih h

theorem isSome_name?_of_mem_columns {table : String} {keys names : List String} {k : Key}
    (hl : names.length = keys.length) (h : k ∈ columns table keys names) : k.name?.isSome := by
  induction keys generalizing names with
  | nil => cases h
  | cons key keys ih =>
    obtain _ | ⟨name, names⟩ := names
    · cases hl
    · rcases List.mem_cons.mp h with rfl | h
      · rfl
      · exact ih (Nat.succ.inj hl) h

theorem isSelectList_columns {table : String} {keys names : List String}
    (h : names ≠ [] → names.length = keys.length) : IsSelectList (columns table keys names) := by
  refine ⟨columns table keys names, [], by simp, fun k hk => (isColumn_of_mem_columns hk).1, ?_, by simp⟩
  by_cases hn : names = []
  · subst hn
    exact .inr fun k hk => name?_of_mem_columns hk
  · exact .inl fun k hk => isSome_name?_of_mem_columns (h hn) hk

theorem isSelectList_singleton {k : Key} (h : k.IsComputed) : IsSelectList [k] :=
  ⟨[], [k], rfl, by simp, .inl (by simp), by simpa using h⟩

theorem IsSelectList.append {keys : List Key} (hk : IsSelectList keys) {k : Key} (h : k.IsComputed) :
    IsSelectList (keys ++ [k]) := by
  obtain ⟨plain, computed, rfl, hp, hn, hc⟩ := hk
  have hcomputed := List.forall_mem_append.mpr ⟨hc, List.forall_mem_singleton.mpr h⟩
  exact ⟨plain, computed ++ [k], by rw [List.append_assoc], hp, hn, hcomputed⟩

end Key

/-! ## Other records -/

namespace Statement

/-- The queries that the select list embeds, in order. -/
def subqueries : Statement → List Query
  | .select _ keys => keys.filterMap Key.nested?
  | .insert .. | .update .. | .delete _ | .truncate _ => []

def WellFormed : Statement → Prop
  | .select table keys => ¬ Text.Blank table ∧ Key.IsSelectList keys
  | .insert table columns values => ¬ Text.Blank table ∧ columns.length = values.length
  | .update table assignments => ¬ Text.Blank table ∧ assignments ≠ []
  | .delete table | .truncate table => ¬ Text.Blank table

end Statement

def Predicate.WellFormed : Predicate → Prop
  | .compare column _ _ => ¬ column.Partial
  | .between column lo hi => ¬ column.Partial ∧ lo < hi
  | .search s => ¬ Text.Blank s.index

/-- The first filter is linked as the first, and no later one is. -/
def Filter.IsClause : List Filter → Prop
  | [] => True
  | f :: fs => f.link = .first ∧ ∀ g ∈ fs, g.link ≠ .first

structure Join.WellFormed (j : Join) : Prop where
  table : ¬ Text.Blank j.table
  target : ¬ j.target.Partial

/-- Columns and directions are as many, and side by side they are the terms. -/
structure Order.WellFormed (o : Order) : Prop where
  arity : o.directions.length = o.columns.length
  terms : o.columns.zip o.directions = o.terms

theorem Order.wellFormed (o : Order) : o.WellFormed := by
  refine ⟨by simp [directions, columns], ?_⟩
  simp [directions, columns, List.zip_map', List.map_id']

namespace Query

def subqueries (q : Query) : List Query :=
  match q.statement with
  | some s => s.subqueries
  | none => []

structure WellFormed (q : Query) : Prop where
  statement : ∀ s, q.statement = some s → s.WellFormed
  links : Filter.IsClause q.filters
  predicates : ∀ f ∈ q.filters, f.predicate.WellFormed
  joins : ∀ j ∈ q.joins, j.WellFormed
  orders : ∀ o ∈ q.orders, o.WellFormed

/-! ## What a call adds -/

/-- The query that a call embeds, if it embeds one. -/
def Call.nested? : Call → Option Query
  | .subquery nested _ => some nested
  | _ => none

/-- One record more, which embeds no query but `nested`. -/
inductive Adds (nested : Option Query) (q : Query) : Query → Prop
  | head (s : Statement) : q.statement = none → s.WellFormed → s.subqueries = [] →
      Adds nested q { q with statement := some s }
  | key (table : String) (keys : List Key) (k : Key) : q.statement = some (.select table keys) → k.IsComputed →
      (∀ n, k.nested? = some n → nested = some n) →
      Adds nested q { q with statement := some (.select table (keys ++ [k])) }
  | filter (f : Filter) : (f.link = .first ↔ q.filters = []) → f.predicate.WellFormed →
      Adds nested q { q with filters := q.filters ++ [f] }
  | join (j : Join) : j.WellFormed → Adds nested q { q with joins := q.joins ++ [j] }
  | order (o : Order) : Adds nested q { q with orders := q.orders ++ [o] }
  | limit (l : Limit) : Adds nested q { q with limit := some l }

theorem adds_of_setHead {q q' : Query} {nested : Option Query} {s : Statement} (h : q.setHead s = .ok q')
    (hs : s.WellFormed) (hn : s.subqueries = []) : Adds nested q q' := by
  obtain ⟨hq, rfl⟩ := setHead_eq_ok_iff.mp h
  exact .head s hq hs hn

theorem adds_of_setUpdate {q q' : Query} {nested : Option Query} {table : String}
    {assignments : List (Column × Value)} (h : q.setUpdate table assignments = .ok q')
    (ht : ¬ Text.Blank table) : Adds nested q q' := by
  obtain ⟨hne, h⟩ := setUpdate_eq_ok_iff.mp h
  exact adds_of_setHead h ⟨ht, hne⟩ rfl

theorem adds_of_addKey {q q' : Query} {nested : Option Query} {feature : String} {k : Key}
    (h : q.addKey feature k = .ok q') (hk : k.IsComputed) (hn : ∀ n, k.nested? = some n → nested = some n) :
    Adds nested q q' := by
  obtain ⟨table, keys, hq, rfl⟩ := addKey_eq_ok_iff.mp h
  exact .key table keys k hq hk hn

theorem adds_of_addFilter {q q' : Query} {nested : Option Query} {link : Link} {p : Predicate}
    (h : q.addFilter link p = .ok q') (hp : p.WellFormed) : Adds nested q q' := by
  obtain ⟨hl, rfl⟩ := addFilter_eq_ok_iff.mp h
  exact .filter ⟨link, p⟩ hl hp

theorem adds_of_apply {q q' : Query} {c : Call} (h : q.apply c = .ok q') : Adds c.nested? q q' := by
  cases c with
  | select table keys names =>
    obtain ⟨ht, hl, -, h⟩ := select_eq_ok_iff.mp h
    refine adds_of_setHead h ⟨ht, Key.isSelectList_columns hl⟩ ?_
    exact List.filterMap_eq_nil_iff.mpr fun k hk => (Key.isColumn_of_mem_columns hk).2
  | insert table keys values =>
    obtain ⟨ht, hl, -, h⟩ := insert_eq_ok_iff.mp h
    exact adds_of_setHead h ⟨ht, by simpa using hl⟩ rfl
  | insertRow table row =>
    obtain ⟨ht, -, h⟩ := insertRow_eq_ok_iff.mp h
    exact adds_of_setHead h ⟨ht, by simp⟩ rfl
  | update table keys values =>
    obtain ⟨ht, -, -, h⟩ := update_eq_ok_iff.mp h
    exact adds_of_setUpdate h ht
  | updateRow table row =>
    obtain ⟨ht, -, h⟩ := updateRow_eq_ok_iff.mp h
    exact adds_of_setUpdate h ht
  | delete table =>
    obtain ⟨ht, h⟩ := delete_eq_ok_iff.mp h
    exact adds_of_setHead h ht rfl
  | truncate table =>
    obtain ⟨ht, h⟩ := truncate_eq_ok_iff.mp h
    exact adds_of_setHead h ht rfl
  | aggregate f table key name =>
    obtain ⟨ht, -, hn, h⟩ := apply_aggregate_eq_ok_iff.mp h
    have hk : (Key.aggregate f ((Column.ofText key).qualify table) name).IsComputed := hn
    rcases addKeyOn_eq_ok_iff.mp h with ⟨hq, rfl⟩ | ⟨keys, hq, rfl⟩
    · exact .head _ hq ⟨ht, Key.isSelectList_singleton hk⟩ rfl
    · exact .key table keys _ hq hk nofun
  | fulltext s name =>
    obtain ⟨hi, hn, h⟩ := fulltext_eq_ok_iff.mp h
    exact adds_of_addKey h ⟨hi, hn⟩ nofun
  | subquery nested name =>
    obtain ⟨hn, h⟩ := subquery_eq_ok_iff.mp h
    exact adds_of_addKey h hn fun _ hn => hn
  | compare link column operator value =>
    obtain ⟨hc, h⟩ := compare_eq_ok_iff.mp h
    exact adds_of_addFilter h hc
  | between link column lo hi =>
    obtain ⟨hr, hc, h⟩ := between_eq_ok_iff.mp h
    exact adds_of_addFilter h ⟨hc, hr⟩
  | search link s =>
    obtain ⟨hi, h⟩ := search_eq_ok_iff.mp h
    exact adds_of_addFilter h hi
  | join side table key target operator =>
    obtain ⟨ht, -, hc, rfl⟩ := join_eq_ok_iff.mp h
    exact .join _ ⟨ht, hc⟩
  | order o =>
    cases h
    exact .order o
  | limit l =>
    cases h
    exact .limit l

/-! ## What that keeps -/

theorem wellFormed_empty : WellFormed ∅ where
  statement := nofun
  links := trivial
  predicates := List.forall_mem_nil _
  joins := List.forall_mem_nil _
  orders := fun o _ => o.wellFormed

theorem isClause_append {fs : List Filter} {f : Filter} (h : Filter.IsClause fs) (hf : f.link = .first ↔ fs = []) :
    Filter.IsClause (fs ++ [f]) := by
  cases fs with
  | nil => exact ⟨hf.mpr rfl, by simp⟩
  | cons g fs =>
    have hlast : f.link ≠ .first := by
      intro hl
      cases hf.mp hl
    exact ⟨h.1, List.forall_mem_append.mpr ⟨h.2, List.forall_mem_singleton.mpr hlast⟩⟩

theorem WellFormed.adds {q q' : Query} {nested : Option Query} (h : q.WellFormed) (ha : Adds nested q q') :
    q'.WellFormed := by
  cases ha with
  | head s _ hs _ => exact { h with statement := fun s' hs' => by cases hs'; exact hs }
  | key table keys k hq hk _ =>
    obtain ⟨ht, hl⟩ := h.statement _ hq
    refine { h with statement := fun s' hs' => ?_ }
    cases hs'
    exact ⟨ht, hl.append hk⟩
  | filter f hl hp =>
    have hpredicates := List.forall_mem_append.mpr ⟨h.predicates, List.forall_mem_singleton.mpr hp⟩
    exact { h with links := isClause_append h.links hl, predicates := hpredicates }
  | join j hj =>
    have hjoins := List.forall_mem_append.mpr ⟨h.joins, List.forall_mem_singleton.mpr hj⟩
    exact { h with joins := hjoins }
  | order o =>
    exact { h with orders := fun o' _ => o'.wellFormed }
  | limit l => exact { h with }

theorem mem_subqueries_of_adds {q q' n : Query} {nested : Option Query} (ha : Adds nested q q')
    (hn : n ∈ q'.subqueries) : n ∈ q.subqueries ∨ nested = some n := by
  cases ha with
  | head s _ _ hs =>
    rw [show subqueries { q with statement := some s } = s.subqueries from rfl, hs] at hn
    cases hn
  | key table keys k hq _ hk =>
    have hn : n ∈ (keys ++ [k]).filterMap Key.nested? := hn
    rw [List.filterMap_append] at hn
    rcases List.mem_append.mp hn with hn | hn
    · left
      simp only [subqueries, hq]
      exact hn
    · right
      exact hk n (by simpa using hn)
  | _ => exact .inl hn

theorem WellFormed.store {q : Query} (h : q.WellFormed) (sql : String) : (q.store sql).WellFormed := { h with }

@[simp] theorem subqueries_store (q : Query) (sql : String) : (q.store sql).subqueries = q.subqueries := rfl

end Query

end SqlClauses
