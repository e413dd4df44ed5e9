/-
  SqlClauses.Proofs.Names — which names get into a query.

  A call looks at the names it is given before anything is added, but not at all of them,
  and not in one way. A table and a key that is given as a text must not be blank as a whole,
  and only then is the key cut at its first dot; so one of the two parts may be empty. A
  column of a filter, or the target of a join, must have no empty part; white space will do.
  A column to order by is not looked at.

  So tables are never blank, and what may stand in the other places is `Place.Takes`. The
  columns of a query are those of the calls that it took, in order; a blank part is in one of
  them or nowhere.

  Main statements: `columnsAt_of_apply`, the columns that a call adds; `takes_of_valid`, of
  what sort they are; `Place.takes_iff`, which columns get to a place at all;
  `everywhere_clear_runActions_iff`, where the blank parts of a query come from;
  `names_exact`, what a run of calls lets in, at every depth; `names_let_through`, blank
  parts among it.
-/

import SqlClauses.Proofs.Arguments
import SqlClauses.Proofs.Nameless
import SqlClauses.Proofs.Reachable

namespace SqlClauses

open Text (Blank)

/-! ## Columns by place -/

/-- Where a query holds columns. -/
inductive Place where
  | selected
  | inserted
  | assigned
  | compared
  | joined
  | target
  | ordered
  deriving DecidableEq, Repr

/-- What `Key.reference` gives, as a column. -/
def Key.column? (k : Key) : Option Column := k.reference.map .qualified

def Key.columnsAt (k : Key) : Place → List Column
  | .selected => k.column?.toList
  | _ => []

def Statement.columnsAt : Statement → Place → List Column
  | .select _ keys, .selected => keys.filterMap Key.column?
  | .insert _ columns _, .inserted => columns
  | .update _ assignments, .assigned => assignments.map (·.1)
  | _, _ => []

def Predicate.column? : Predicate → Option Column
  | .compare column _ _ | .between column _ _ => some column
  | .search _ => none

namespace Query

def columnsAt (q : Query) : Place → List Column
  | .compared => q.filters.filterMap (·.predicate.column?)
  | .joined => q.joins.map (·.column)
  | .target => q.joins.map (·.target)
  | .ordered => q.orders.flatMap Order.columns
  | p => (q.statement.map (·.columnsAt p)).getD []

/-- The table of the statement and those that are joined to it. -/
def tables (q : Query) : List String := (q.statement.map Statement.table).toList ++ q.joins.map (·.table)

/-- The columns that a call has for a place. -/
def Call.columnsAt : Call → Place → List Column
  | .select table keys _, .selected => keys.map fun key => .qualified ((Column.ofText key).qualify table)
  | .aggregate _ table key _, .selected => [.qualified ((Column.ofText key).qualify table)]
  | .insert _ keys _, .inserted | .update _ keys _, .assigned => keys.map Column.ofText
  | .insertRow _ row, .inserted | .updateRow _ row, .assigned => (row.map (·.1)).map Column.ofText
  | .compare _ column _ _, .compared | .between _ column _ _, .compared => [column]
  | .join _ _ key _ _, .joined => [Column.ofText key]
  | .join _ _ _ target _, .target => [target]
  | .order o, .ordered => o.columns
  | _, _ => []

end Query

/-! ## What a place takes -/

/-- A column that some text stands for. -/
def Column.Written : Column → Prop
  | .bare key => ¬ Blank key ∧ '.' ∉ key.toList
  | .qualified r => '.' ∉ r.table.toList

theorem Column.written_ofText {key : String} (h : ¬ Blank key) : (ofText key).Written := by
  cases hc : ofText key with
  | bare k =>
    obtain ⟨rfl, hk⟩ := ofText_eq_bare_iff.mp hc
    exact ⟨h, hk⟩
  | qualified r => exact (ofText_eq_qualified_iff.mp hc).2

theorem Column.ofText_text {c : Column} (h : c.Written) : ofText c.text = c ∧ ¬ Blank c.text := by
  cases c with
  | bare key => exact ⟨ofText_eq_bare_iff.mpr ⟨rfl, h.2⟩, h.1⟩
  | qualified r =>
    refine ⟨ofText_eq_qualified_iff.mpr ⟨rfl, h⟩, fun hb => ?_⟩
    have hdot : Text.isBlank '.' = true := hb '.' (by simp [text, r.toList_text])
    revert hdot
    decide

/-- A column that belongs to a table as it is written, or to `table` because it is bare. -/
def Reference.Written (r : Reference) : Prop :=
  '.' ∉ r.table.toList ∨ ¬ Blank r.table ∧ ¬ Blank r.key ∧ '.' ∉ r.key.toList

theorem Reference.written_qualify {table : String} {c : Column} (ht : ¬ Blank table) (h : c.Written) :
    (c.qualify table).Written := by
  cases c with
  | bare key => exact .inr ⟨ht, h⟩
  | qualified r => exact .inl h

theorem Reference.exists_qualify {r : Reference} (h : r.Written) :
    ∃ table key, ¬ Blank table ∧ ¬ Blank key ∧ (Column.ofText key).qualify table = r := by
  rcases h with h | ⟨ht, hk⟩
  · obtain ⟨hc, hb⟩ := Column.ofText_text (c := .qualified r) h
    exact ⟨"t", _, by decide, hb, by rw [hc]; rfl⟩
  · obtain ⟨hc, hb⟩ := Column.ofText_text (c := .bare r.key) hk
    exact ⟨r.table, _, ht, hb, by rw [hc]; rfl⟩

def Place.Takes : Place → Column → Prop
  | .selected, .bare _ => False
  | .selected, .qualified r => r.Written
  | .inserted, c | .assigned, c | .joined, c => c.Written
  | .compared, c | .target, c => ¬ c.Partial
  | .ordered, _ => True

namespace Query

variable {q q' : Query}

/-! ## Columns that a call adds -/

theorem columnsAt_head (hq : q.statement = none) (s : Statement) (p : Place) :
    columnsAt { q with statement := some s } p = q.columnsAt p ++ s.columnsAt p := by
  obtain ⟨statement, filters, joins, orders, limit, stored⟩ := q
  cases hq
  cases p with
  | selected | inserted | assigned => rfl
  | compared | joined | target | ordered => cases s <;> exact (List.append_nil _).symm

theorem columnsAt_key {table : String} {keys : List Key} (hq : q.statement = some (.select table keys)) (k : Key)
    (p : Place) :
    columnsAt { q with statement := some (.select table (keys ++ [k])) } p = q.columnsAt p ++ k.columnsAt p := by
  obtain ⟨statement, filters, joins, orders, limit, stored⟩ := q
  cases hq
  cases p with
  | selected =>
    show (keys ++ [k]).filterMap Key.column? = keys.filterMap Key.column? ++ k.column?.toList
    rw [List.filterMap_append]
    cases hk : k.column? <;> simp [hk]
  | _ => exact (List.append_nil _).symm

theorem columnsAt_filter (f : Filter) (p : Place) :
    columnsAt { q with filters := q.filters ++ [f] } p =
      q.columnsAt p ++ if p = .compared then f.predicate.column?.toList else [] := by
  cases p with
  | compared =>
    show (q.filters ++ [f]).filterMap _ = q.filters.filterMap _ ++ f.predicate.column?.toList
    rw [List.filterMap_append]
    cases hf : f.predicate.column? <;> simp [hf]
  | _ => exact (List.append_nil _).symm

theorem columnsAt_columns (table : String) (keys names : List String) (p : Place) :
    (Statement.select table (Key.columns table keys names)).columnsAt p =
      (Call.select table keys names).columnsAt p := by
  cases p with
  | selected =>
    induction keys generalizing names with
    | nil => rfl
    | cons key keys ih => exact congrArg (_ :: ·) (ih names.tail)
  | _ => rfl

theorem columnsAt_update {keys : List String} {values : List Value} (h : keys.length = values.length)
    (table : String) (p : Place) :
    (Statement.update table ((keys.map Column.ofText).zip values)).columnsAt p =
      (Call.update table keys values).columnsAt p := by
  cases p with
  | assigned => exact List.map_fst_zip (by simp [h])
  | _ => rfl

/-- The columns of a query are those of the calls that it took, in order. -/
theorem columnsAt_of_apply {c : Call} (h : q.apply c = .ok q') (p : Place) :
    q'.columnsAt p = q.columnsAt p ++ c.columnsAt p := by
  cases c with
  | select table keys names =>
    obtain ⟨-, -, -, h⟩ := select_eq_ok_iff.mp h
    obtain ⟨hq, rfl⟩ := setHead_eq_ok_iff.mp h
    rw [columnsAt_head hq, columnsAt_columns]
  | insert table keys values =>
    obtain ⟨-, -, -, h⟩ := insert_eq_ok_iff.mp h
    obtain ⟨hq, rfl⟩ := setHead_eq_ok_iff.mp h
    rw [columnsAt_head hq]
    cases p <;> rfl
  | insertRow table row =>
    obtain ⟨-, -, h⟩ := insertRow_eq_ok_iff.mp h
    obtain ⟨hq, rfl⟩ := setHead_eq_ok_iff.mp h
    rw [columnsAt_head hq]
    cases p <;> rfl
  | update table keys values =>
    obtain ⟨-, hl, -, h⟩ := update_eq_ok_iff.mp h
    obtain ⟨hq, rfl⟩ := setHead_eq_ok_iff.mp (setUpdate_eq_ok_iff.mp h).2
    rw [columnsAt_head hq, columnsAt_update hl]
  | updateRow table row =>
    obtain ⟨-, -, h⟩ := updateRow_eq_ok_iff.mp h
    obtain ⟨hq, rfl⟩ := setHead_eq_ok_iff.mp (setUpdate_eq_ok_iff.mp h).2
    rw [columnsAt_head hq, columnsAt_update (by simp)]
    cases p <;> rfl
  | delete table =>
    obtain ⟨-, h⟩ := delete_eq_ok_iff.mp h
    obtain ⟨hq, rfl⟩ := setHead_eq_ok_iff.mp h
    exact columnsAt_head hq _ p
  | truncate table =>
    obtain ⟨-, h⟩ := truncate_eq_ok_iff.mp h
    obtain ⟨hq, rfl⟩ := setHead_eq_ok_iff.mp h
    exact columnsAt_head hq _ p
  | aggregate f table key name =>
    obtain ⟨-, -, -, h⟩ := apply_aggregate_eq_ok_iff.mp h
    rcases addKeyOn_eq_ok_iff.mp h with ⟨hq, rfl⟩ | ⟨keys, hq, rfl⟩
    · rw [columnsAt_head hq]
      cases p <;> rfl
    · rw [columnsAt_key hq]
      cases p <;> rfl
  | fulltext s name =>
    obtain ⟨-, -, h⟩ := fulltext_eq_ok_iff.mp h
    obtain ⟨table, keys, hq, rfl⟩ := addKey_eq_ok_iff.mp h
    rw [columnsAt_key hq]
    cases p <;> rfl
  | subquery nested name =>
    obtain ⟨-, h⟩ := subquery_eq_ok_iff.mp h
    obtain ⟨table, keys, hq, rfl⟩ := addKey_eq_ok_iff.mp h
    rw [columnsAt_key hq]
    cases p <;> rfl
  | compare link column operator value =>
    obtain ⟨-, h⟩ := compare_eq_ok_iff.mp h
    obtain ⟨-, rfl⟩ := addFilter_eq_ok_iff.mp h
    rw [columnsAt_filter]
    cases p <;> rfl
  | between link column lo hi =>
    obtain ⟨-, -, h⟩ := between_eq_ok_iff.mp h
    obtain ⟨-, rfl⟩ := addFilter_eq_ok_iff.mp h
    rw [columnsAt_filter]
    cases p <;> rfl
  | search link s =>
    obtain ⟨-, h⟩ := search_eq_ok_iff.mp h
    obtain ⟨-, rfl⟩ := addFilter_eq_ok_iff.mp h
    rw [columnsAt_filter]
    cases p <;> rfl
  | join side table key target operator =>
    obtain ⟨-, -, -, rfl⟩ := join_eq_ok_iff.mp h
    cases p with
    | joined | target => exact List.map_append
    | _ => exact (List.append_nil _).symm
  | order o =>
    cases h
    cases p with
    | ordered =>
      show (q.orders ++ [o]).flatMap Order.columns = q.orders.flatMap Order.columns ++ o.columns
      rw [List.flatMap_append, List.flatMap_singleton]
    | _ => exact (List.append_nil _).symm
  | limit l =>
    cases h
    cases p <;> exact (List.append_nil _).symm

@[simp] theorem columnsAt_store (q : Query) (sql : String) (p : Place) :
    (q.store sql).columnsAt p = q.columnsAt p := by
  cases p <;> rfl

/-! ## What stands in a place -/

/-- A call whose arguments are in order has no column for a place but what the place takes. -/
theorem takes_of_valid {c : Call} (hc : c.Valid) {p : Place} {x : Column} (hx : x ∈ c.columnsAt p) : p.Takes x := by
  have hwritten {keys : List String} (hk : ∀ key ∈ keys, ¬ Blank key) (hx : x ∈ keys.map Column.ofText) :
      x.Written := by
    obtain ⟨key, hkey, rfl⟩ := List.mem_map.mp hx
    exact Column.written_ofText (hk key hkey)
  cases c with
  | select table keys names =>
    cases p with
    | selected =>
      obtain ⟨key, hkey, rfl⟩ := List.mem_map.mp hx
      exact Reference.written_qualify hc.1 (Column.written_ofText (hc.2.2 key hkey))
    | _ => cases hx
  | aggregate f table key name =>
    cases p with
    | selected =>
      cases List.mem_singleton.mp hx
      exact Reference.written_qualify hc.1 (Column.written_ofText hc.2.1)
    | _ => cases hx
  | insert table keys values =>
    cases p with
    | inserted => exact hwritten hc.2.2 hx
    | _ => cases hx
  | insertRow table row =>
    cases p with
    | inserted => exact hwritten hc.2 hx
    | _ => cases hx
  | update table keys values =>
    cases p with
    | assigned => exact hwritten hc.2.2.1 hx
    | _ => cases hx
  | updateRow table row =>
    cases p with
    | assigned => exact hwritten hc.2.1 hx
    | _ => cases hx
  | compare link column operator value =>
    cases p with
    | compared =>
      cases List.mem_singleton.mp hx
      exact hc
    | _ => cases hx
  | between link column lo hi =>
    cases p with
    | compared =>
      cases List.mem_singleton.mp hx
      exact hc.2
    | _ => cases hx
  | join side table key target operator =>
    cases p with
    | joined =>
      cases List.mem_singleton.mp hx
      exact Column.written_ofText hc.2.1
    | target =>
      cases List.mem_singleton.mp hx
      exact hc.2.2
    | _ => cases hx
  | order o =>
    cases p with
    | ordered => exact trivial
    | _ => cases hx
  | _ => cases p <;> cases hx

theorem Reachable.takes (h : q.Reachable) : ∀ p : Place, ∀ x ∈ q.columnsAt p, p.Takes x := by
  refine h.induct_calls (P := fun q => ∀ p : Place, ∀ x ∈ q.columnsAt p, p.Takes x) ?_ ?_ ?_
  · intro p x hx
    cases p <;> cases hx
  · intro q q' c _ hq h _ p x hx
    rw [columnsAt_of_apply h] at hx
    rcases List.mem_append.mp hx with hx | hx
    · exact hq p x hx
    · exact takes_of_valid (valid_of_apply h) hx
  · intro q sql hq p x hx
    rw [columnsAt_store] at hx
    exact hq p x hx

theorem not_blank_of_mem_tables (h : q.WellFormed) {t : String} (ht : t ∈ q.tables) : ¬ Blank t := by
  rcases List.mem_append.mp ht with ht | ht
  · rw [Option.mem_toList] at ht
    obtain ⟨s, hs, rfl⟩ := Option.map_eq_some_iff.mp ht
    have hws := h.statement s hs
    cases s with
    | select | insert | update => exact hws.1
    | delete | truncate => exact hws
  · obtain ⟨j, hj, rfl⟩ := List.mem_map.mp ht
    exact (h.joins j hj).table

/-! ## What gets to a place -/

theorem exists_reachable_of_apply {c : Call} (hc : c.nested? = none) (h : apply ∅ c = .ok q') {p : Place} {x : Column}
    (hx : x ∈ q'.columnsAt p) : ∃ q : Query, q.Reachable ∧ x ∈ q.columnsAt p := by
  have hq : (afterAction ∅ (.call c)).Reachable := .act _ .empty fun n hn => by
    rw [show Action.nested? (.call c) = c.nested? from rfl, hc] at hn
    cases hn
  rw [afterAction_call, after_of_ok h] at hq
  exact ⟨q', hq, hx⟩

end Query

open Query in
/-- Every column that a place takes gets there by one call. -/
theorem Place.Takes.exists_reachable {p : Place} {x : Column} (h : p.Takes x) :
    ∃ q : Query, q.Reachable ∧ x ∈ q.columnsAt p := by
  have hcolumn : ¬ (Column.bare "id").Partial := by decide
  have htable : ¬ Blank "t" := by decide
  cases p with
  | selected =>
    cases x with
    | bare key => cases h
    | qualified r =>
      obtain ⟨table, key, ht, hk, rfl⟩ := Reference.exists_qualify h
      have hq : apply ∅ (.select table [key] []) = .ok _ :=
        select_eq_ok_iff.mpr ⟨ht, nofun, List.forall_mem_singleton.mpr hk, rfl⟩
      exact exists_reachable_of_apply rfl hq (List.mem_singleton.mpr rfl)
  | inserted =>
    obtain ⟨hc, hb⟩ := Column.ofText_text h
    have hq : apply ∅ (.insertRow "t" [(x.text, .null)]) = .ok _ :=
      insertRow_eq_ok_iff.mpr ⟨htable, List.forall_mem_singleton.mpr hb, rfl⟩
    exact exists_reachable_of_apply rfl hq (List.mem_singleton.mpr hc.symm)
  | assigned =>
    obtain ⟨hc, hb⟩ := Column.ofText_text h
    have hq : apply ∅ (.updateRow "t" [(x.text, .null)]) = .ok _ :=
      updateRow_eq_ok_iff.mpr ⟨htable, List.forall_mem_singleton.mpr hb, rfl⟩
    exact exists_reachable_of_apply rfl hq (List.mem_singleton.mpr hc.symm)
  | compared =>
    have hq : apply ∅ (.compare .first x .eq .null) = .ok _ := compare_eq_ok_iff.mpr ⟨h, rfl⟩
    exact exists_reachable_of_apply rfl hq (List.mem_singleton.mpr rfl)
  | joined =>
    obtain ⟨hc, hb⟩ := Column.ofText_text h
    have hq : apply ∅ (.join .left "t" x.text (.bare "id") .eq) = .ok _ :=
      join_eq_ok_iff.mpr ⟨htable, hb, hcolumn, rfl⟩
    exact exists_reachable_of_apply rfl hq (List.mem_singleton.mpr hc.symm)
  | target =>
    have hq : apply ∅ (.join .left "t" "t" x .eq) = .ok _ := join_eq_ok_iff.mpr ⟨htable, htable, h, rfl⟩
    exact exists_reachable_of_apply rfl hq (List.mem_singleton.mpr rfl)
  | ordered =>
    have hq : apply ∅ (.order (.single x .asc)) = .ok _ := rfl
    exact exists_reachable_of_apply rfl hq (List.mem_singleton.mpr rfl)

theorem Place.takes_iff {p : Place} {x : Column} :
    p.Takes x ↔ ∃ q : Query, q.Reachable ∧ x ∈ q.columnsAt p :=
  ⟨Takes.exists_reachable, fun ⟨_, hq, hx⟩ => hq.takes p x hx⟩

/-! ## Blank parts -/

/-- No part of the column is blank. -/
def Column.Clear : Column → Prop
  | .bare key => ¬ Blank key
  | .qualified r => ¬ Blank r.table ∧ ¬ Blank r.key

namespace Query

variable {q q' : Query}

def Clear (q : Query) : Prop := ∀ p : Place, ∀ x ∈ q.columnsAt p, x.Clear

/-- No column that the call has for a place has a blank part, nor has any in what it embeds. -/
def Call.Clear (c : Call) : Prop :=
  (∀ p : Place, ∀ x ∈ c.columnsAt p, x.Clear) ∧ ∀ n, c.nested? = some n → n.Everywhere Query.Clear

/-- The calls among the actions that do not fail. -/
def taken : Query → List Action → List Call
  | _, [] => []
  | q, .call c :: as =>
    match q.apply c with
    | .ok q' => c :: q'.taken as
    | .error _ => q.taken as
  | q, .prepare :: as => (q.afterAction .prepare).taken as

theorem clear_store_iff (sql : String) : (q.store sql).Clear ↔ q.Clear := by
  simp only [Clear, columnsAt_store]

theorem clear_iff_of_apply {c : Call} (h : q.apply c = .ok q') :
    q'.Clear ↔ q.Clear ∧ ∀ p : Place, ∀ x ∈ c.columnsAt p, x.Clear := by
  simp only [Clear, columnsAt_of_apply h, List.forall_mem_append, forall_and]

theorem mem_subqueries_iff_of_apply {c : Call} (h : q.apply c = .ok q') {n : Query} :
    n ∈ q'.subqueries ↔ n ∈ q.subqueries ∨ c.nested? = some n := by
  refine ⟨mem_subqueries_of_adds (adds_of_apply h), ?_⟩
  rintro (hn | hc)
  -- a head is set only where there was none, so nothing that was embedded goes
  · cases adds_of_apply h with
    | head s hq =>
      rw [subqueries, hq] at hn
      cases hn
    | key table keys k hq =>
      simp only [subqueries, hq] at hn
      show n ∈ (keys ++ [k]).filterMap Key.nested?
      rw [List.filterMap_append]
      exact List.mem_append_left _ hn
    | _ => exact hn
  · cases c with
    | subquery nested name =>
      cases hc
      obtain ⟨-, h⟩ := subquery_eq_ok_iff.mp h
      obtain ⟨table, keys, -, rfl⟩ := addKey_eq_ok_iff.mp h
      exact List.mem_filterMap.mpr ⟨.subquery n name, List.mem_append_right _ (List.mem_singleton.mpr rfl), rfl⟩
    | _ => cases hc

/-- A call that is taken leaves blank parts if there were some, or if it has some. -/
theorem everywhere_clear_iff_of_apply {c : Call} (h : q.apply c = .ok q') :
    q'.Everywhere Clear ↔ q.Everywhere Clear ∧ c.Clear := by
  rw [everywhere_iff, everywhere_iff, clear_iff_of_apply h]
  simp only [mem_subqueries_iff_of_apply h, Call.Clear, or_imp, forall_and]
  exact and_and_and_comm

theorem everywhere_clear_prepare_iff : (q.afterAction .prepare).Everywhere Clear ↔ q.Everywhere Clear := by
  cases h : q.render with
  | error e => rw [afterAction_prepare_of_error h]
  | ok sql => rw [afterAction_prepare_of_ok h, everywhere_iff, everywhere_iff, clear_store_iff, subqueries_store]

theorem everywhere_clear_runActions_iff (as : List Action) :
    (q.runActions as).Everywhere Clear ↔ q.Everywhere Clear ∧ ∀ c ∈ q.taken as, c.Clear := by
  induction as generalizing q with
  | nil => simp [runActions, taken]
  | cons a as ih =>
    show ((q.afterAction a).runActions as).Everywhere Clear ↔ _
    rw [ih]
    cases a with
    | prepare => rw [everywhere_clear_prepare_iff, taken]
    | call c =>
      rw [afterAction_call]
      -- a call that is refused is not taken and leaves the query as it was: nothing on either side
      cases h : q.apply c with
      | error e =>
        rw [after_of_error h, show q.taken (.call c :: as) = q.taken as by simp [taken, h]]
      | ok q' =>
        rw [after_of_ok h, everywhere_clear_iff_of_apply h,
          show q.taken (.call c :: as) = c :: q'.taken as by simp [taken, h], List.forall_mem_cons, and_assoc]

theorem clear_empty : Clear ∅ := by
  intro p x hx
  cases p <;> cases hx

/-- A call fails for a name if its names say so, and so do the lists that an order is made of. At
every depth of what a run of calls leaves, no table is blank, and in each place stand columns that
the place takes. And no part of a column there is blank exactly if no call that the run took had a
column with a blank part. -/
theorem names_exact (as : List Action) (hn : ∀ a ∈ as, ∀ n, a.nested? = some n → n.Reachable) :
    let q := Query.runActions ∅ as
    (∀ (c : Call) (part : String), q.apply c = .error (.emptyIdentifier part) ↔ c.Nameless part) ∧
      (∀ (cs : List Column) (ds : List Direction) (part : String),
        Order.ofLists cs ds = .error (.emptyIdentifier part) ↔
          cs.length = ds.length ∧ (∃ c ∈ cs, c.Partial) ∧ "order key" = part) ∧
      q.Everywhere (fun q => (∀ t ∈ q.tables, ¬ Blank t) ∧ ∀ p : Place, ∀ x ∈ q.columnsAt p, p.Takes x) ∧
      (q.Everywhere Clear ↔ ∀ c ∈ (∅ : Query).taken as, c.Clear) := by
  intro q
  have hq : q.Reachable := .runActions .empty hn
  refine ⟨apply_eq_emptyIdentifier_iff q, fun _ _ _ => Order.ofLists_eq_emptyIdentifier_iff, ?_, ?_⟩
  · exact hq.everywhere.mono fun q hq => ⟨fun t ht => not_blank_of_mem_tables hq.wellFormed ht, hq.takes⟩
  · have hempty : (∅ : Query).Everywhere Clear := .intro clear_empty nofun
    rw [everywhere_clear_runActions_iff, and_iff_right hempty]

/-- A select that counts in a subquery, and refuses to compare no column at all. -/
theorem names_exact_with_subquery :
    let nested := Query.runActions ∅ [.call (.aggregate .count "posts" "id" "n")]
    let q := Query.runActions ∅ [.call (.select "users" ["id"] []), .call (.subquery nested "posts"),
      .call (.compare .first (.bare "") .eq .null)]
    q.subqueries = [nested] ∧ q.tables = ["users"] ∧ ¬ Blank "users" ∧ q.Everywhere Clear ∧
      q.apply (.delete " ") = .error (.emptyIdentifier "table") := by
  intro nested q
  have hcount := names_exact [.call (.aggregate .count "posts" "id" "n")] fun a ha n h => by
    cases List.mem_singleton.mp ha
    cases h
  have hnested : nested.Everywhere Clear := hcount.2.2.2.mpr fun c hc => by
    cases List.mem_singleton.mp (show c ∈ [_] from hc)
    refine ⟨fun p x hx => ?_, nofun⟩
    cases p with
    | selected =>
      cases List.mem_singleton.mp hx
      exact ⟨by decide, by decide⟩
    | _ => cases hx
  have hq := names_exact [.call (.select "users" ["id"] []), .call (.subquery nested "posts"),
      .call (.compare .first (.bare "") .eq .null)] fun a ha n h => by
    simp only [List.mem_cons, List.not_mem_nil, or_false] at ha
    rcases ha with rfl | rfl | rfl
    · cases h
    · cases h
      exact reachable_runActions (by decide)
    · cases h
  refine ⟨rfl, rfl, hq.2.2.1.here.1 "users" (List.mem_singleton.mpr rfl), hq.2.2.2.mpr fun c hc => ?_,
    (hq.1 (.delete " ") "table").mpr ⟨by decide, rfl⟩⟩
  have hc : c ∈ [Call.select "users" ["id"] [], Call.subquery nested "posts"] := hc
  simp only [List.mem_cons, List.not_mem_nil, or_false] at hc
  rcases hc with rfl | rfl
  · refine ⟨fun p x hx => ?_, nofun⟩
    cases p with
    | selected =>
      cases List.mem_singleton.mp hx
      exact ⟨by decide, by decide⟩
    | _ => cases hx
  · refine ⟨fun p x hx => ?_, fun n hn => ?_⟩
    · cases p <;> cases hx
    · cases hn
      exact hnested

/-- An empty table is selected from, a filter compares white space, and nothing at all is ordered by. -/
theorem names_let_through :
    let q := Query.runActions ∅ [.call (.select "t" [".id"] []), .call (.compare .first (.bare " ") .eq .null),
      .call (.order (.single (.bare "") .asc))]
    q.Reachable ∧ q.columnsAt .selected = [.qualified ⟨"", "id"⟩] ∧ q.columnsAt .compared = [.bare " "] ∧
      q.columnsAt .ordered = [.bare ""] ∧ Blank "" ∧ Blank " " := by
  intro q
  have hq : q.Reachable := reachable_runActions (by decide)
  exact ⟨hq, rfl, rfl, rfl, by decide, by decide⟩

end Query

end SqlClauses
