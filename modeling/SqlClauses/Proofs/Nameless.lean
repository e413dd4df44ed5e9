/-
  SqlClauses.Proofs.Nameless — when a call fails for a name.

  The checks of a call are made in the order in which its function names them, and the
  first that fails is the answer. `Call.Nameless` says of the arguments alone that this is
  the check of a name. The query around a call has no part in it: what is done to it after
  the checks may fail too, but not for a name.

  Main statements: `apply_eq_emptyIdentifier_iff`, the calls that fail for a name;
  `Order.ofLists_eq_emptyIdentifier_iff`, the lists that make no order for that reason.
-/

import SqlClauses.Proofs.Clauses

namespace SqlClauses

open Text (Blank)

namespace Query

variable {q q' : Query}

/-! ## Checks that fail -/

theorem requireName_bind_eq_error_iff {β : Type} {part name : String} {f : Unit → Except Error β} {e : Error} :
    (requireName part name >>= f) = .error e ↔
      Blank name ∧ .emptyIdentifier part = e ∨ ¬ Blank name ∧ f () = .error e := by
  unfold requireName
  by_cases h : Blank name
  · simp [bind, Except.bind, h]
  · simp [bind, Except.bind, h]

theorem requireColumn_bind_eq_error_iff {β : Type} {part : String} {c : Column} {f : Unit → Except Error β}
    {e : Error} :
    (requireColumn part c >>= f) = .error e ↔
      c.Partial ∧ .emptyIdentifier part = e ∨ ¬ c.Partial ∧ f () = .error e := by
  unfold requireColumn
  by_cases h : c.Partial
  · simp [bind, Except.bind, h]
  · simp [bind, Except.bind, h]

theorem requireNames_eq_error_iff {part : String} {names : List String} {e : Error} :
    names.forM (requireName part) = .error e ↔ (∃ name ∈ names, Blank name) ∧ .emptyIdentifier part = e := by
  induction names with
  | nil => simp [List.forM, pure, Except.pure]
  | cons name names ih =>
    show (requireName part name >>= fun _ => names.forM (requireName part)) = .error e ↔ _
    rw [requireName_bind_eq_error_iff, ih]
    by_cases h : Blank name
    · simp [h]
    · simp [h]

theorem requireNames_bind_eq_error_iff {β : Type} {part : String} {names : List String} {f : Unit → Except Error β}
    {e : Error} :
    (names.forM (requireName part) >>= f) = .error e ↔
      (∃ name ∈ names, Blank name) ∧ .emptyIdentifier part = e ∨
        (∀ name ∈ names, ¬ Blank name) ∧ f () = .error e := by
  rw [bind_eq_error_iff, requireNames_eq_error_iff]
  refine or_congr_right ⟨?_, ?_⟩
  · rintro ⟨_, hn, hf⟩
    exact ⟨requireNames_eq_ok_iff.mp hn, hf⟩
  · rintro ⟨hn, hf⟩
    exact ⟨(), requireNames_eq_ok_iff.mpr hn, hf⟩

theorem namedColumns_bind_eq_error_iff {β : Type} {keys : List String} {f : List Column → Except Error β} {e : Error} :
    (namedColumns keys >>= f) = .error e ↔
      (∃ key ∈ keys, Blank key) ∧ .emptyIdentifier "column" = e ∨
        (∀ key ∈ keys, ¬ Blank key) ∧ f (keys.map Column.ofText) = .error e := by
  unfold namedColumns
  rw [bind_assoc]
  exact requireNames_bind_eq_error_iff

theorem columnsFor_bind_eq_error_iff {β : Type} {keys : List String} {values : List Value}
    {f : List Column → Except Error β} {part : String} :
    (columnsFor keys values >>= f) = .error (.emptyIdentifier part) ↔
      keys.length = values.length ∧ (namedColumns keys >>= f) = .error (.emptyIdentifier part) := by
  unfold columnsFor
  by_cases h : keys.length = values.length
  · simp [h]
  · simp [bind, Except.bind, h]

/-! ## What is done after the checks -/

theorem setHead_ne_emptyIdentifier (s : Statement) (part : String) :
    q.setHead s ≠ .error (.emptyIdentifier part) := by
  unfold setHead
  split <;> simp [conflict]

theorem setUpdate_ne_emptyIdentifier (table : String) (assignments : List (Column × Value)) (part : String) :
    q.setUpdate table assignments ≠ .error (.emptyIdentifier part) := by
  unfold setUpdate
  split
  · simp
  · exact setHead_ne_emptyIdentifier _ part

theorem addKeyOn_ne_emptyIdentifier (table : String) (key : Key) (part : String) :
    q.addKeyOn table key ≠ .error (.emptyIdentifier part) := by
  unfold addKeyOn
  split
  · simp
  · split <;> simp [conflict]
  · simp [conflict]

theorem addKey_ne_emptyIdentifier (feature : String) (key : Key) (part : String) :
    q.addKey feature key ≠ .error (.emptyIdentifier part) := by
  unfold addKey
  split <;> simp

theorem addFilter_ne_emptyIdentifier (link : Link) (p : Predicate) (part : String) :
    q.addFilter link p ≠ .error (.emptyIdentifier part) := by
  unfold addFilter
  split <;> simp

/-! ## Calls -/

/-- The first check that the call does not pass is that of the name `part`. -/
def Call.Nameless (part : String) : Call → Prop
  | .select table keys names =>
    Blank table ∧ "table" = part ∨
      ¬ Blank table ∧ (names ≠ [] → names.length = keys.length) ∧ (∃ key ∈ keys, Blank key) ∧ "select key" = part
  | .insert table keys values | .update table keys values =>
    Blank table ∧ "table" = part ∨
      ¬ Blank table ∧ keys.length = values.length ∧ (∃ key ∈ keys, Blank key) ∧ "column" = part
  | .insertRow table row | .updateRow table row =>
    Blank table ∧ "table" = part ∨ ¬ Blank table ∧ (∃ key ∈ row.map (·.1), Blank key) ∧ "column" = part
  | .delete table | .truncate table => Blank table ∧ "table" = part
  | .aggregate _ table key name =>
    Blank table ∧ "table" = part ∨ ¬ Blank table ∧ (Blank key ∧ "function key" = part ∨
      ¬ Blank key ∧ Blank name ∧ "function alias" = part)
  | .fulltext s name =>
    Blank s.index ∧ "fulltext index" = part ∨ ¬ Blank s.index ∧ Blank name ∧ "fulltext alias" = part
  | .subquery _ name => Blank name ∧ "subquery alias" = part
  | .compare _ column _ _ => column.Partial ∧ "where key" = part
  | .between _ column lo hi => lo < hi ∧ column.Partial ∧ "where key" = part
  | .search _ s => Blank s.index ∧ "fulltext index" = part
  | .join _ table key target _ =>
    Blank table ∧ "join table" = part ∨ ¬ Blank table ∧ (Blank key ∧ "join key" = part ∨
      ¬ Blank key ∧ target.Partial ∧ "join target" = part)
  | .order _ | .limit _ => False

theorem select_eq_emptyIdentifier_iff {table part : String} {keys names : List String} :
    q.select table keys names = .error (.emptyIdentifier part) ↔ (Call.select table keys names).Nameless part := by
  unfold select
  rw [requireName_bind_eq_error_iff, Error.emptyIdentifier.injEq]
  refine or_congr_right (and_congr_right fun _ => ?_)
  by_cases h : names ≠ [] ∧ names.length ≠ keys.length
  · simp [throw, throwThe, MonadExceptOf.throw, bind, Except.bind, h]
  · have hn : names ≠ [] → names.length = keys.length := by simpa using h
    rw [and_iff_right hn]
    simp only [if_neg h, requireNames_bind_eq_error_iff, setHead_ne_emptyIdentifier, Error.emptyIdentifier.injEq,
      and_false, or_false]

theorem between_eq_emptyIdentifier_iff {link : Link} {column : Column} {lo hi : Int64} {part : String} :
    q.between link column lo hi = .error (.emptyIdentifier part) ↔
      (Call.between link column lo hi).Nameless part := by
  unfold between
  show _ ↔ lo < hi ∧ column.Partial ∧ "where key" = part
  by_cases h : lo < hi
  · simp only [if_pos h, requireColumn_bind_eq_error_iff, addFilter_ne_emptyIdentifier,
      Error.emptyIdentifier.injEq, and_false, or_false]
    exact (and_iff_right h).symm
  · simp [throw, throwThe, MonadExceptOf.throw, bind, Except.bind, h]

/-- Whether a call fails for a name depends on the names it is given, and on nothing else. -/
theorem apply_eq_emptyIdentifier_iff (q : Query) (c : Call) (part : String) :
    q.apply c = .error (.emptyIdentifier part) ↔ c.Nameless part := by
  -- what comes after the checks never fails for a name, so each chain of checks ends in `False`
  cases c with
  | select => exact select_eq_emptyIdentifier_iff
  | between => exact between_eq_emptyIdentifier_iff
  | insert | insertRow | update | updateRow =>
    simp only [apply, insert, insertRow, update, updateRow, Call.Nameless, requireName_bind_eq_error_iff,
      splitRow_bind, columnsFor_bind_eq_error_iff, namedColumns_bind_eq_error_iff, setHead_ne_emptyIdentifier,
      setUpdate_ne_emptyIdentifier, Error.emptyIdentifier.injEq, and_false, or_false]
  | delete | truncate =>
    simp only [apply, delete, truncate, Call.Nameless, requireName_bind_eq_error_iff, setHead_ne_emptyIdentifier,
      Error.emptyIdentifier.injEq, and_false, or_false]
  | aggregate =>
    simp only [apply_aggregate, aggregate, Call.Nameless, requireName_bind_eq_error_iff, addKeyOn_ne_emptyIdentifier,
      Error.emptyIdentifier.injEq, and_false, or_false]
  | fulltext | subquery =>
    simp only [apply, fulltext, subquery, Call.Nameless, requireName_bind_eq_error_iff, addKey_ne_emptyIdentifier,
      Error.emptyIdentifier.injEq, and_false, or_false]
  | compare | search =>
    simp only [apply, compare, search, Call.Nameless, requireName_bind_eq_error_iff,
      requireColumn_bind_eq_error_iff, addFilter_ne_emptyIdentifier, Error.emptyIdentifier.injEq, and_false, or_false]
  | join =>
    simp only [apply, join, Call.Nameless, requireName_bind_eq_error_iff, requireColumn_bind_eq_error_iff,
      Error.emptyIdentifier.injEq, pure, Except.pure, reduceCtorEq, and_false, or_false]
  | order | limit => simp only [apply, Call.Nameless, reduceCtorEq]

end Query

/-! ## Orders -/

/-- An order that is made of lists has no empty part in it, unlike one that is made of a column. -/
theorem Order.ofLists_eq_emptyIdentifier_iff {cs : List Column} {ds : List Direction} {part : String} :
    ofLists cs ds = .error (.emptyIdentifier part) ↔
      cs.length = ds.length ∧ (∃ c ∈ cs, c.Partial) ∧ "order key" = part := by
  unfold ofLists
  by_cases hl : cs.length = ds.length
  · by_cases hp : ∃ c ∈ cs, c.Partial
    · simp only [ne_eq, hl, not_true_eq_false, if_false, if_pos hp, Except.error.injEq, Error.emptyIdentifier.injEq,
        true_and, and_iff_right hp]
    · simp only [ne_eq, hl, not_true_eq_false, if_false, if_neg hp, reduceCtorEq, true_and, false_iff]
      exact fun h => hp h.1
  · simp [hl]

end SqlClauses
