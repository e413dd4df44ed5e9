/-
  SqlClauses.Proofs.Arguments — what a call asks of its own arguments.

  A clause call first looks at what it was given: names that must not be blank, lists that
  must be as long as each other, a range that must not be empty. Only then does it look at
  the query, and does one thing to it. `Call.Valid` is the first half, said without any
  query; for a call that passes it, what is left is one of `setHead`, `addKeyOn` and
  `addKey` if the call belongs to the head.

  Main statements: `valid_iff`, the calls that pass are those that some query takes;
  `exists_setHead_of_valid`, `aggregate_of_valid`, `fulltext_of_valid` and
  `subquery_of_valid`, what is left of a call that passes.
-/

import SqlClauses.Proofs.Clauses

namespace SqlClauses.Query

open Text (Blank)

/-- The arguments are in order, whatever the query. -/
def Call.Valid : Call → Prop
  | .select table keys names =>
    ¬ Blank table ∧ (names ≠ [] → names.length = keys.length) ∧ ∀ key ∈ keys, ¬ Blank key
  | .insert table keys values => ¬ Blank table ∧ keys.length = values.length ∧ ∀ key ∈ keys, ¬ Blank key
  | .insertRow table row => ¬ Blank table ∧ ∀ key ∈ row.map (·.1), ¬ Blank key
  | .update table keys values =>
    ¬ Blank table ∧ keys.length = values.length ∧ (∀ key ∈ keys, ¬ Blank key) ∧ keys ≠ []
  | .updateRow table row => ¬ Blank table ∧ (∀ key ∈ row.map (·.1), ¬ Blank key) ∧ row ≠ []
  | .delete table | .truncate table => ¬ Blank table
  | .aggregate _ table key name => ¬ Blank table ∧ ¬ Blank key ∧ ¬ Blank name
  | .fulltext s name => ¬ Blank s.index ∧ ¬ Blank name
  | .subquery _ name => ¬ Blank name
  | .compare _ column _ _ => ¬ column.Partial
  | .between _ column lo hi => lo < hi ∧ ¬ column.Partial
  | .search _ s => ¬ Blank s.index
  | .join _ table key target _ => ¬ Blank table ∧ ¬ Blank key ∧ ¬ target.Partial
  | .order _ | .limit _ => True

/-- The kind of statement that a call opens, if it is there to open one. -/
def Call.kind? : Call → Option StatementKind
  | .select .. => some .select
  | .insert .. | .insertRow .. => some .insert
  | .update .. | .updateRow .. => some .update
  | .delete _ => some .delete
  | .truncate _ => some .truncate
  | .aggregate .. | .fulltext .. | .subquery .. => none
  | .compare .. | .between .. | .search .. | .join .. | .order _ | .limit _ => none

variable {q : Query}

/-! ## Checks that pass -/

theorem requireName_of_not_blank {part name : String} (h : ¬ Blank name) : requireName part name = .ok () :=
  requireName_eq_ok_iff.mpr h

theorem requireNames_of_not_blank {part : String} {names : List String} (h : ∀ name ∈ names, ¬ Blank name) :
    names.forM (requireName part) = .ok () :=
  requireNames_eq_ok_iff.mpr h

theorem namedColumns_of_not_blank {keys : List String} (h : ∀ key ∈ keys, ¬ Blank key) :
    namedColumns keys = .ok (keys.map Column.ofText) :=
  namedColumns_eq_ok_iff.mpr ⟨h, rfl⟩

theorem columnsFor_of_not_blank {keys : List String} {values : List Value} (hl : keys.length = values.length)
    (h : ∀ key ∈ keys, ¬ Blank key) : columnsFor keys values = .ok (keys.map Column.ofText) := by
  rw [columnsFor, if_pos hl, namedColumns_of_not_blank h]

theorem setUpdate_of_ne_nil (q : Query) (table : String) {assignments : List (Column × Value)}
    (h : assignments ≠ []) : q.setUpdate table assignments = q.setHead (.update table assignments) := by
  rw [setUpdate, if_neg (by simpa using h)]

/-! ## What is left of a call -/

/-- A call that is there to open a statement comes to setting a head of that kind. -/
theorem exists_setHead_of_valid {c : Call} {kind : StatementKind} (hc : c.Valid) (hk : c.kind? = some kind) :
    ∃ s : Statement, s.kind = kind ∧ ∀ q, apply q c = q.setHead s := by
  cases c with
  | select table keys names =>
    cases hk
    obtain ⟨ht, hl, hn⟩ := hc
    have hl : ¬ (names ≠ [] ∧ names.length ≠ keys.length) := fun h => h.2 (hl h.1)
    refine ⟨.select table (Key.columns table keys names), rfl, fun q => ?_⟩
    rw [apply, select, requireName_of_not_blank ht, if_neg hl, requireNames_of_not_blank hn]
    rfl
  | insert table keys values =>
    cases hk
    obtain ⟨ht, hl, hn⟩ := hc
    refine ⟨.insert table (keys.map Column.ofText) values, rfl, fun q => ?_⟩
    rw [apply, insert, requireName_of_not_blank ht, columnsFor_of_not_blank hl hn]
    rfl
  | insertRow table row =>
    cases hk
    obtain ⟨ht, hn⟩ := hc
    refine ⟨.insert table ((row.map (·.1)).map Column.ofText) (row.map (·.2)), rfl, fun q => ?_⟩
    rw [apply, insertRow, splitRow_bind, requireName_of_not_blank ht, namedColumns_of_not_blank hn]
    rfl
  | update table keys values =>
    cases hk
    obtain ⟨ht, hl, hn, hne⟩ := hc
    have hset : (keys.map Column.ofText).zip values ≠ [] := by
      intro h
      have := congrArg List.length h
      rw [List.length_zip, List.length_map, ← hl, Nat.min_self] at this
      exact hne (List.eq_nil_of_length_eq_zero this)
    refine ⟨.update table ((keys.map Column.ofText).zip values), rfl, fun q => ?_⟩
    rw [apply, update, requireName_of_not_blank ht, columnsFor_of_not_blank hl hn]
    exact setUpdate_of_ne_nil q table hset
  | updateRow table row =>
    cases hk
    obtain ⟨ht, hn, hne⟩ := hc
    have hset : ((row.map (·.1)).map Column.ofText).zip (row.map (·.2)) ≠ [] := by
      cases row with
      | nil => exact absurd rfl hne
      | cons => simp
    refine ⟨.update table (((row.map (·.1)).map Column.ofText).zip (row.map (·.2))), rfl, fun q => ?_⟩
    rw [apply, updateRow, splitRow_bind, requireName_of_not_blank ht, namedColumns_of_not_blank hn]
    exact setUpdate_of_ne_nil q table hset
  | delete table =>
    cases hk
    refine ⟨.delete table, rfl, fun q => ?_⟩
    rw [apply, delete, requireName_of_not_blank hc]
    rfl
  | truncate table =>
    cases hk
    refine ⟨.truncate table, rfl, fun q => ?_⟩
    rw [apply, truncate, requireName_of_not_blank hc]
    rfl
  | _ => cases hk

theorem aggregate_of_valid {f : Aggregate} {table key name : String} (h : (Call.aggregate f table key name).Valid)
    (q : Query) : q.apply (.aggregate f table key name) =
      q.addKeyOn table (.aggregate f ((Column.ofText key).qualify table) name) := by
  obtain ⟨ht, hk, hn⟩ := h
  rw [apply_aggregate, aggregate, requireName_of_not_blank ht, requireName_of_not_blank hk, requireName_of_not_blank hn]
  rfl

theorem fulltext_of_valid {s : Search} {name : String} (h : (Call.fulltext s name).Valid) (q : Query) :
    q.apply (.fulltext s name) = q.addKey "fulltext" (.fulltext s name) := by
  obtain ⟨hi, hn⟩ := h
  rw [apply, fulltext, requireName_of_not_blank hi, requireName_of_not_blank hn]
  rfl

theorem subquery_of_valid {nested : Query} {name : String} (h : (Call.subquery nested name).Valid) (q : Query) :
    q.apply (.subquery nested name) = q.addKey "subquery" (.subquery nested name) := by
  rw [apply, subquery, requireName_of_not_blank h]
  rfl

/-! ## Calls that some query takes -/

theorem valid_of_apply {q q' : Query} {c : Call} (h : q.apply c = .ok q') : c.Valid := by
  cases c with
  | select =>
    obtain ⟨ht, hl, hk, -⟩ := select_eq_ok_iff.mp h
    exact ⟨ht, hl, hk⟩
  | insert =>
    obtain ⟨ht, hl, hk, -⟩ := insert_eq_ok_iff.mp h
    exact ⟨ht, hl, hk⟩
  | insertRow =>
    obtain ⟨ht, hk, -⟩ := insertRow_eq_ok_iff.mp h
    exact ⟨ht, hk⟩
  | update table keys values =>
    obtain ⟨ht, hl, hk, h⟩ := update_eq_ok_iff.mp h
    refine ⟨ht, hl, hk, ?_⟩
    rintro rfl
    exact (setUpdate_eq_ok_iff.mp h).1 rfl
  | updateRow table row =>
    obtain ⟨ht, hk, h⟩ := updateRow_eq_ok_iff.mp h
    refine ⟨ht, hk, ?_⟩
    rintro rfl
    exact (setUpdate_eq_ok_iff.mp h).1 rfl
  | delete => exact (delete_eq_ok_iff.mp h).1
  | truncate => exact (truncate_eq_ok_iff.mp h).1
  | aggregate =>
    obtain ⟨ht, hk, hn, -⟩ := apply_aggregate_eq_ok_iff.mp h
    exact ⟨ht, hk, hn⟩
  | fulltext =>
    obtain ⟨hi, hn, -⟩ := fulltext_eq_ok_iff.mp h
    exact ⟨hi, hn⟩
  | subquery => exact (subquery_eq_ok_iff.mp h).1
  | compare => exact (compare_eq_ok_iff.mp h).1
  | between =>
    obtain ⟨hr, hp, -⟩ := between_eq_ok_iff.mp h
    exact ⟨hr, hp⟩
  | search => exact (search_eq_ok_iff.mp h).1
  | join =>
    obtain ⟨ht, hk, hp, -⟩ := join_eq_ok_iff.mp h
    exact ⟨ht, hk, hp⟩
  | order | limit => exact trivial

/-- A first filter goes to the query without filters, any other to one that has some. -/
theorem exists_addFilter (link : Link) (p : Predicate) : ∃ q q', addFilter q link p = .ok q' := by
  cases link with
  | first => exact ⟨∅, _, rfl⟩
  | or | and => exact ⟨{ filters := [⟨.first, p⟩] }, _, rfl⟩

theorem valid_iff {c : Call} : c.Valid ↔ ∃ q q', apply q c = .ok q' := by
  refine ⟨fun hc => ?_, fun ⟨_, _, h⟩ => valid_of_apply h⟩
  cases hk : c.kind? with
  | some kind =>
    obtain ⟨s, -, hs⟩ := exists_setHead_of_valid hc hk
    exact ⟨∅, _, hs ∅⟩
  | none =>
    cases c with
    | aggregate => exact ⟨∅, _, aggregate_of_valid hc ∅⟩
    | fulltext => exact ⟨{ statement := some (.select "" []) }, _, fulltext_of_valid hc _⟩
    | subquery => exact ⟨{ statement := some (.select "" []) }, _, subquery_of_valid hc _⟩
    | compare link column operator value =>
      obtain ⟨q, q', h⟩ := exists_addFilter link (.compare column operator value)
      exact ⟨q, q', compare_eq_ok_iff.mpr ⟨hc, h⟩⟩
    | between link column lo hi =>
      obtain ⟨q, q', h⟩ := exists_addFilter link (.between column lo hi)
      exact ⟨q, q', between_eq_ok_iff.mpr ⟨hc.1, hc.2, h⟩⟩
    | search link s =>
      obtain ⟨q, q', h⟩ := exists_addFilter link (.search s)
      exact ⟨q, q', search_eq_ok_iff.mpr ⟨hc, h⟩⟩
    | join => exact ⟨∅, _, join_eq_ok_iff.mpr ⟨hc.1, hc.2.1, hc.2.2, rfl⟩⟩
    | order | limit => exact ⟨∅, _, rfl⟩
    | _ => cases hk

end SqlClauses.Query
