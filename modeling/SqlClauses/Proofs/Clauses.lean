/-
  SqlClauses.Proofs.Clauses — when a clause call succeeds, and what it then adds.

  Each function of `SqlClauses.Query.Clauses` has one law here: the checks it makes on its
  arguments and on the query, and the query it answers with when all of them hold. A
  property of queries is proved of these answers, and no function is opened again.

  Main statements: `setHead_eq_ok_iff`, `addKeyOn_eq_ok_iff`, `addKey_eq_ok_iff` and
  `addFilter_eq_ok_iff`, for what is added; `select_eq_ok_iff` and those after it, for the
  calls.
-/

import SqlClauses.Query.Call

namespace SqlClauses

namespace Query

variable {q q' : Query}

/-! ## Checks on names -/

theorem requireName_eq_ok_iff {part name : String} {u : Unit} :
    requireName part name = .ok u ↔ ¬ Text.Blank name := by
  unfold requireName
  split <;> simp [*]

theorem requireColumn_eq_ok_iff {part : String} {c : Column} {u : Unit} :
    requireColumn part c = .ok u ↔ ¬ c.Partial := by
  unfold requireColumn
  split <;> simp [*]

theorem requireNames_eq_ok_iff {part : String} {names : List String} {u : Unit} :
    names.forM (requireName part) = .ok u ↔ ∀ name ∈ names, ¬ Text.Blank name := by
  induction names with
  | nil => simp [List.forM, pure, Except.pure]
  | cons name names ih =>
    show (requireName part name >>= fun _ => names.forM (requireName part)) = .ok u ↔ _
    simp only [bind_eq_ok_iff, requireName_eq_ok_iff, ih, exists_and_left, exists_const, List.forall_mem_cons]

theorem namedColumns_eq_ok_iff {keys : List String} {cs : List Column} :
    namedColumns keys = .ok cs ↔ (∀ key ∈ keys, ¬ Text.Blank key) ∧ keys.map Column.ofText = cs := by
  unfold namedColumns
  simp only [bind_eq_ok_iff, requireNames_eq_ok_iff, pure, Except.pure, Except.ok.injEq, exists_and_left,
    exists_const]

/-- What is done with the columns of checked names. -/
theorem namedColumns_bind_eq_ok_iff {β : Type} {keys : List String} {f : List Column → Except Error β} {b : β} :
    (namedColumns keys >>= f) = .ok b ↔ (∀ key ∈ keys, ¬ Text.Blank key) ∧ f (keys.map Column.ofText) = .ok b := by
  simp only [bind_eq_ok_iff, namedColumns_eq_ok_iff]
  constructor
  · intro ⟨_, ⟨hk, hc⟩, hf⟩
    subst hc
    exact ⟨hk, hf⟩
  · intro ⟨hk, hf⟩
    exact ⟨_, ⟨hk, rfl⟩, hf⟩

theorem columnsFor_bind_eq_ok_iff {β : Type} {keys : List String} {values : List Value}
    {f : List Column → Except Error β} {b : β} :
    (columnsFor keys values >>= f) = .ok b ↔
      keys.length = values.length ∧ (∀ key ∈ keys, ¬ Text.Blank key) ∧ f (keys.map Column.ofText) = .ok b := by
  unfold columnsFor
  split
  · next h => simp only [namedColumns_bind_eq_ok_iff, h, true_and]
  · next h => simp only [bind, Except.bind, reduceCtorEq, h, false_and]

theorem namedColumns_cons (key : String) (keys : List String) :
    namedColumns (key :: keys) =
      requireName "column" key >>= fun _ => (namedColumns keys).map (Column.ofText key :: ·) := by
  unfold namedColumns
  show ((requireName "column" key >>= fun _ => keys.forM (requireName "column")) >>= fun _ => _) = _
  cases requireName "column" key with
  | error e => rfl
  | ok _ => cases keys.forM (requireName "column") <;> rfl

/-- Pair by pair or list by list, the same columns are made, and the same key is refused. -/
theorem splitRow_eq (row : List (String × Value)) :
    splitRow row = (namedColumns (row.map (·.1))).map fun columns => (columns, row.map (·.2)) := by
  induction row with
  | nil => rfl
  | cons p row ih =>
    rw [splitRow, ih, List.map_cons, List.map_cons, namedColumns_cons]
    cases requireName "column" p.1 with
    | error e => rfl
    | ok _ => cases namedColumns (row.map (·.1)) <;> rfl

/-- What is done with the two lists of a row. -/
theorem splitRow_bind {β : Type} (row : List (String × Value)) (f : List Column × List Value → Except Error β) :
    (splitRow row >>= f) = namedColumns (row.map (·.1)) >>= fun columns => f (columns, row.map (·.2)) := by
  rw [splitRow_eq]
  cases namedColumns (row.map (·.1)) with
  | error e => rfl
  | ok columns => rfl

/-! ## What is added -/

theorem setHead_eq_ok_iff {s : Statement} :
    q.setHead s = .ok q' ↔ q.statement = none ∧ { q with statement := some s } = q' := by
  unfold setHead
  split
  · next h => simp only [Except.ok.injEq, h, true_and]
  · next h => simp only [reduceCtorEq, h, false_and]

theorem setUpdate_eq_ok_iff {table : String} {assignments : List (Column × Value)} :
    q.setUpdate table assignments = .ok q' ↔ assignments ≠ [] ∧ q.setHead (.update table assignments) = .ok q' := by
  unfold setUpdate
  cases assignments with
  | nil => simp
  | cons => simp

/-- A key is added to a select on its table, or opens one. -/
theorem addKeyOn_eq_ok_iff {table : String} {key : Key} :
    q.addKeyOn table key = .ok q' ↔
      (q.statement = none ∧ { q with statement := some (.select table [key]) } = q') ∨
      ∃ keys, q.statement = some (.select table keys) ∧
        { q with statement := some (.select table (keys ++ [key])) } = q' := by
  unfold addKeyOn
  split
  · next h => simp only [Except.ok.injEq, h, true_and, reduceCtorEq, false_and, exists_false, or_false]
  · next t keys h =>
    split
    · next ht =>
      subst ht
      simp [h]
    · next ht =>
      simp only [reduceCtorEq, h, false_and, false_or, false_iff]
      rintro ⟨_, hs, -⟩
      cases hs
      exact ht rfl
  · next s hs h =>
    simp only [reduceCtorEq, h, false_and, false_or, false_iff]
    rintro ⟨keys, hk, -⟩
    cases hk
    exact hs _ _ rfl

theorem addKey_eq_ok_iff {feature : String} {key : Key} :
    q.addKey feature key = .ok q' ↔
      ∃ table keys, q.statement = some (.select table keys) ∧
        { q with statement := some (.select table (keys ++ [key])) } = q' := by
  unfold addKey
  split
  · next h => simp [h, and_assoc]
  · next hs =>
    simp only [reduceCtorEq, false_iff]
    rintro ⟨table, keys, h, -⟩
    exact hs _ _ h

/-- The first filter, and no later one, is added as the first. -/
theorem addFilter_eq_ok_iff {link : Link} {p : Predicate} :
    q.addFilter link p = .ok q' ↔
      (link = .first ↔ q.filters = []) ∧ { q with filters := q.filters ++ [⟨link, p⟩] } = q' := by
  unfold addFilter
  cases link <;> cases h : q.filters <;> simp

/-! ## Calls -/

theorem select_eq_ok_iff {table : String} {keys names : List String} :
    q.select table keys names = .ok q' ↔
      ¬ Text.Blank table ∧ (names ≠ [] → names.length = keys.length) ∧ (∀ key ∈ keys, ¬ Text.Blank key) ∧
        q.setHead (.select table (Key.columns table keys names)) = .ok q' := by
  unfold select
  simp only [bind_eq_ok_iff, requireName_eq_ok_iff, exists_and_left, exists_const]
  refine and_congr_right fun _ => ?_
  split
  · next h => simp [throw, throwThe, MonadExceptOf.throw, bind, Except.bind, h]
  · next h =>
    have hn : names ≠ [] → names.length = keys.length := by simpa using h
    simp only [bind_eq_ok_iff, requireNames_eq_ok_iff, exists_and_left, exists_const]
    exact (and_iff_right hn).symm

theorem insert_eq_ok_iff {table : String} {keys : List String} {values : List Value} :
    q.insert table keys values = .ok q' ↔
      ¬ Text.Blank table ∧ keys.length = values.length ∧ (∀ key ∈ keys, ¬ Text.Blank key) ∧
        q.setHead (.insert table (keys.map Column.ofText) values) = .ok q' := by
  unfold insert
  rw [bind_eq_ok_iff]
  simp only [requireName_eq_ok_iff, columnsFor_bind_eq_ok_iff, exists_and_left, exists_const]

theorem insertRow_eq_ok_iff {table : String} {row : List (String × Value)} :
    q.insertRow table row = .ok q' ↔
      ¬ Text.Blank table ∧ (∀ key ∈ row.map (·.1), ¬ Text.Blank key) ∧
        q.setHead (.insert table ((row.map (·.1)).map Column.ofText) (row.map (·.2))) = .ok q' := by
  unfold insertRow
  rw [bind_eq_ok_iff]
  simp only [requireName_eq_ok_iff, splitRow_bind, namedColumns_bind_eq_ok_iff, exists_and_left, exists_const]

theorem update_eq_ok_iff {table : String} {keys : List String} {values : List Value} :
    q.update table keys values = .ok q' ↔
      ¬ Text.Blank table ∧ keys.length = values.length ∧ (∀ key ∈ keys, ¬ Text.Blank key) ∧
        q.setUpdate table ((keys.map Column.ofText).zip values) = .ok q' := by
  unfold update
  rw [bind_eq_ok_iff]
  simp only [requireName_eq_ok_iff, columnsFor_bind_eq_ok_iff, exists_and_left, exists_const]

theorem updateRow_eq_ok_iff {table : String} {row : List (String × Value)} :
    q.updateRow table row = .ok q' ↔
      ¬ Text.Blank table ∧ (∀ key ∈ row.map (·.1), ¬ Text.Blank key) ∧
        q.setUpdate table (((row.map (·.1)).map Column.ofText).zip (row.map (·.2))) = .ok q' := by
  unfold updateRow
  rw [bind_eq_ok_iff]
  simp only [requireName_eq_ok_iff, splitRow_bind, namedColumns_bind_eq_ok_iff, exists_and_left, exists_const]

theorem delete_eq_ok_iff {table : String} :
    q.delete table = .ok q' ↔ ¬ Text.Blank table ∧ q.setHead (.delete table) = .ok q' := by
  unfold delete
  simp only [bind_eq_ok_iff, requireName_eq_ok_iff, exists_and_left, exists_const]

theorem truncate_eq_ok_iff {table : String} :
    q.truncate table = .ok q' ↔ ¬ Text.Blank table ∧ q.setHead (.truncate table) = .ok q' := by
  unfold truncate
  simp only [bind_eq_ok_iff, requireName_eq_ok_iff, exists_and_left, exists_const]

theorem apply_aggregate_eq_ok_iff {f : Aggregate} {table key name : String} :
    q.apply (.aggregate f table key name) = .ok q' ↔
      ¬ Text.Blank table ∧ ¬ Text.Blank key ∧ ¬ Text.Blank name ∧
        q.addKeyOn table (.aggregate f ((Column.ofText key).qualify table) name) = .ok q' := by
  rw [apply_aggregate, aggregate]
  simp only [bind_eq_ok_iff, requireName_eq_ok_iff, exists_and_left, exists_const]

theorem fulltext_eq_ok_iff {s : Search} {name : String} :
    q.fulltext s name = .ok q' ↔
      ¬ Text.Blank s.index ∧ ¬ Text.Blank name ∧ q.addKey "fulltext" (.fulltext s name) = .ok q' := by
  unfold fulltext
  simp only [bind_eq_ok_iff, requireName_eq_ok_iff, exists_and_left, exists_const]

theorem subquery_eq_ok_iff {nested : Query} {name : String} :
    q.subquery nested name = .ok q' ↔
      ¬ Text.Blank name ∧ q.addKey "subquery" (.subquery nested name) = .ok q' := by
  unfold subquery
  simp only [bind_eq_ok_iff, requireName_eq_ok_iff, exists_and_left, exists_const]

theorem compare_eq_ok_iff {link : Link} {column : Column} {operator : Operator} {value : Value} :
    q.compare link column operator value = .ok q' ↔
      ¬ column.Partial ∧ q.addFilter link (.compare column operator value) = .ok q' := by
  unfold compare
  simp only [bind_eq_ok_iff, requireColumn_eq_ok_iff, exists_and_left, exists_const]

theorem between_eq_ok_iff {link : Link} {column : Column} {lo hi : Int64} :
    q.between link column lo hi = .ok q' ↔
      lo < hi ∧ ¬ column.Partial ∧ q.addFilter link (.between column lo hi) = .ok q' := by
  unfold between
  split
  · next h => simp [bind_eq_ok_iff, requireColumn_eq_ok_iff, h]
  · next h => simp [throw, throwThe, MonadExceptOf.throw, bind, Except.bind, h]

theorem search_eq_ok_iff {link : Link} {s : Search} :
    q.search link s = .ok q' ↔ ¬ Text.Blank s.index ∧ q.addFilter link (.search s) = .ok q' := by
  unfold search
  simp only [bind_eq_ok_iff, requireName_eq_ok_iff, exists_and_left, exists_const]

theorem join_eq_ok_iff {side : JoinSide} {table key : String} {target : Column} {operator : Operator} :
    q.join side table key target operator = .ok q' ↔
      ¬ Text.Blank table ∧ ¬ Text.Blank key ∧ ¬ target.Partial ∧
        { q with joins := q.joins ++ [⟨side, table, Column.ofText key, target, operator⟩] } = q' := by
  unfold join
  simp only [bind_eq_ok_iff, requireName_eq_ok_iff, requireColumn_eq_ok_iff, exists_and_left, exists_const,
    pure, Except.pure, Except.ok.injEq]

end Query

end SqlClauses
