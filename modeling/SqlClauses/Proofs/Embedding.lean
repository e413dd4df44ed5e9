/-
  SqlClauses.Proofs.Embedding — what a query takes from those that it embeds.

  A subquery stands in the text of its key as its own text, and nothing else of it is there:
  not how it came about, and not the SQL that was stored with it, which may be older than its
  latest clauses. The query around a subquery is a `Frame`. Its text is made from the
  subquery's result, so queries that render alike can stand for each other, however deep.

  Main statements: `renderLogged_forget`, rendering reads nothing stored at any depth;
  `Frame.render_fill`, the text around a subquery; `render_plug_congr`, one subquery for another
  at any depth; `everywhere_iff_plug`, frames in frames reach all that a query embeds;
  `render_compositional`, all of it.
-/

import SqlClauses.Proofs.Increments

namespace SqlClauses

/-! ## Nothing stored -/

mutual

def Key.forget : Key → Key
  | .column ref name => .column ref name
  | .aggregate f ref name => .aggregate f ref name
  | .fulltext s name => .fulltext s name
  | .subquery query name => .subquery query.forget name

def Key.forgetAll : List Key → List Key
  | [] => []
  | key :: keys => key.forget :: Key.forgetAll keys

def Statement.forget : Statement → Statement
  | .select table keys => .select table (Key.forgetAll keys)
  | .insert table columns values => .insert table columns values
  | .update table assignments => .update table assignments
  | .delete table => .delete table
  | .truncate table => .truncate table

/-- The query with nothing stored, nor in any query that it embeds. -/
def Query.forget : Query → Query
  | ⟨none, filters, joins, orders, limit, _⟩ => ⟨none, filters, joins, orders, limit, none⟩
  | ⟨some statement, filters, joins, orders, limit, _⟩ =>
    ⟨some statement.forget, filters, joins, orders, limit, none⟩

end

theorem Statement.kind_forget (s : Statement) : s.forget.kind = s.kind := by
  cases s <;> rfl

theorem Statement.table_forget (s : Statement) : s.forget.table = s.table := by
  cases s <;> rfl

mutual

theorem Key.render_forget : (k : Key) → k.forget.render = k.render
  | .column .. | .aggregate .. | .fulltext .. => rfl
  | .subquery query name => by rw [Key.forget, Key.render, Key.render, Query.renderLogged_forget query]

theorem Key.renderAll_forgetAll : (keys : List Key) → Key.renderAll (Key.forgetAll keys) = Key.renderAll keys
  | [] => rfl
  | key :: keys => by
    rw [Key.forgetAll, Key.renderAll, Key.renderAll, Key.render_forget key, Key.renderAll_forgetAll keys]

theorem Statement.render_forget : (s : Statement) → s.forget.render = s.render
  | .select table keys => by rw [Statement.forget, Statement.render, Statement.render, Key.renderAll_forgetAll keys]
  | .insert .. | .update .. | .delete _ | .truncate _ => rfl

/-- Rendering and its log read nothing that is stored. -/
theorem Query.renderLogged_forget : (q : Query) → q.forget.renderLogged = q.renderLogged
  | ⟨none, _, _, _, _, _⟩ => rfl
  | ⟨some s, filters, joins, orders, limit, stored⟩ => by
    rw [Query.forget, Query.renderLogged, Query.renderLogged, Statement.render_forget s, s.kind_forget, s.table_forget]

end

namespace Query

theorem forget_store (q : Query) (sql : String) : (q.store sql).forget = q.forget := by
  obtain ⟨_ | s, filters, joins, orders, limit, stored⟩ := q <;> rfl

/-- Preparing a query changes nothing but what is stored. -/
theorem forget_prepare (q : Query) : (q.afterAction .prepare).forget = q.forget := by
  cases h : q.render with
  | ok sql => rw [afterAction_prepare_of_ok h, forget_store]
  | error e => rw [afterAction_prepare_of_error h]

theorem renderLogged_congr {q p : Query} (h : q.forget = p.forget) : q.renderLogged = p.renderLogged := by
  rw [← q.renderLogged_forget, h, p.renderLogged_forget]

/-! ## The query around a subquery -/

/-- A select with a place for a subquery in its list. Its other clauses are those of `rest`. -/
structure Frame where
  table : String
  before : List Key
  name : String
  after : List Key
  rest : Query

namespace Frame

def fill (f : Frame) (n : Query) : Query :=
  { f.rest with statement := some (.select f.table (f.before ++ .subquery n f.name :: f.after)) }

/-- The text of the select, if its list is written as `items`. -/
def write (f : Frame) (items : List String) : Except Error String :=
  (Limit.clause f.rest.limit).map fun limitSql =>
    joinStages ["SELECT " ++ ",".intercalate items ++ " FROM " ++ Identifier.quote f.table,
      Join.clause f.table f.rest.joins, Filter.clause f.rest.filters, Order.clause f.rest.orders, limitSql]

end Frame

end Query

theorem Key.outcome_render_subquery (n : Query) (name : String) :
    (subquery n name).render.outcome = n.render.map fun sql => "(" ++ sql ++ ") AS " ++ Identifier.quote name := by
  have hname (sql : String) : "(" ++ sql ++ ")" ++ nameSql name = "(" ++ sql ++ ") AS " ++ Identifier.quote name := by
    have has : ") AS " = ")" ++ " AS " := rfl
    rw [nameSql, has]
    simp only [String.append_assoc]
  rw [outcome_render, body, name?]
  cases n.render with
  | error e => rfl
  | ok sql => exact congrArg Except.ok (hname sql)

namespace Query

/-- A subquery gives the text around it its own, in parentheses and under its name, or its error if no
key before it has one. -/
theorem Frame.render_fill (f : Frame) (n : Query) :
    (f.fill n).render = (Key.renderAll f.before).outcome.bind fun before => n.render.bind fun sql =>
      (Key.renderAll f.after).outcome.bind fun after =>
        f.write (before ++ ("(" ++ sql ++ ") AS " ++ Identifier.quote f.name) :: after) := by
  have hs : (f.fill n).statement = some (.select f.table (f.before ++ .subquery n f.name :: f.after)) := rfl
  rw [render_eq_stageTexts, mapM_stageText hs, Statement.render, Logged.outcome_bind, Key.outcome_renderAll_around,
    Key.outcome_render_subquery]
  cases (Key.renderAll f.before).outcome with
  | error e => rfl
  | ok before =>
    cases n.render with
    | error e => rfl
    | ok sql =>
      cases (Key.renderAll f.after).outcome with
      | error e => rfl
      | ok after =>
        have hitems : (before ++ ("(" ++ sql ++ ") AS " ++ Identifier.quote f.name) :: after).isEmpty = false := by simp
        have hlimit : (f.fill n).limit = f.rest.limit := rfl
        simp only [Except.bind, Except.map, Logged.outcome_pure, hitems, hlimit, write, Bool.false_eq_true, if_false]
        cases Limit.clause f.rest.limit <;> rfl

/-- Frames in frames, the innermost last. -/
def plug (fs : List Frame) (n : Query) : Query := fs.foldr Frame.fill n

theorem render_plug_congr {n m : Query} (h : n.render = m.render) (fs : List Frame) :
    (plug fs n).render = (plug fs m).render := by
  induction fs with
  | nil => exact h
  | cons f fs ih =>
    show (f.fill (plug fs n)).render = (f.fill (plug fs m)).render
    rw [Frame.render_fill, Frame.render_fill, ih]

theorem mem_subqueries_iff_fill {q n : Query} : n ∈ q.subqueries ↔ ∃ f : Frame, f.fill n = q := by
  constructor
  · intro h
    obtain ⟨_ | s, filters, joins, orders, limit, stored⟩ := q
    · cases h
    · cases s with
      | select table keys =>
        obtain ⟨k, hk, hn⟩ := List.mem_filterMap.mp h
        obtain ⟨before, after, rfl⟩ := List.append_of_mem hk
        cases k with
        | subquery query name =>
          cases hn
          exact ⟨⟨table, before, name, after, ⟨none, filters, joins, orders, limit, stored⟩⟩, rfl⟩
        | column | aggregate | fulltext => cases hn
      | insert | update | delete | truncate => cases h
  · rintro ⟨f, rfl⟩
    refine List.mem_filterMap.mpr ⟨.subquery n f.name, ?_, rfl⟩
    exact List.mem_append_right _ (List.mem_cons_self ..)

theorem exists_key_of_mem_subqueries {q n : Query} (h : n ∈ q.subqueries) : ∃ name, .subquery n name ∈ q.keys := by
  obtain ⟨f, rfl⟩ := mem_subqueries_iff_fill.mp h
  exact ⟨f.name, List.mem_append_right _ (List.mem_cons_self ..)⟩

/-- Frames in frames reach all that a query embeds, and the query itself. -/
theorem everywhere_iff_plug {P : Query → Prop} {q : Query} : q.Everywhere P ↔ ∀ fs n, plug fs n = q → P n := by
  constructor
  · intro h fs
    induction fs generalizing q with
    | nil =>
      rintro n rfl
      exact h.here
    | cons f fs ih =>
      rintro n rfl
      exact ih (h.nested (mem_subqueries_iff_fill.mpr ⟨f, rfl⟩)) n rfl
  · intro h
    induction q using induct_subqueries with
    | step q ih =>
      refine .intro (h [] q rfl) fun n hn => ih n hn fun fs m hm => ?_
      obtain ⟨f, rfl⟩ := mem_subqueries_iff_fill.mp hn
      subst hm
      exact h (f :: fs) m rfl

/-- Queries that differ in nothing but what is stored, at any depth, render alike and log alike, and
`prepare` makes no other difference. What a query takes from one that it embeds is its text, in
parentheses and under its name, or its error; whatever else renders to the same can stand there,
at any depth. -/
theorem render_compositional (q : Query) :
    (q.afterAction .prepare).forget = q.forget ∧
      (∀ p : Query, p.forget = q.forget → p.render = q.render ∧ p.renderLogged = q.renderLogged) ∧
      (∀ (f : Frame) n, f.fill n = q →
        q.render = (Key.renderAll f.before).outcome.bind fun before => n.render.bind fun sql =>
          (Key.renderAll f.after).outcome.bind fun after =>
            f.write (before ++ ("(" ++ sql ++ ") AS " ++ Identifier.quote f.name) :: after)) ∧
      (∀ n, n ∈ q.subqueries ↔ ∃ f : Frame, f.fill n = q) ∧
      (∀ P : Query → Prop, q.Everywhere P ↔ ∀ fs n, plug fs n = q → P n) ∧
      ∀ fs n m, plug fs n = q → m.render = n.render → (plug fs m).render = q.render := by
  refine ⟨q.forget_prepare, fun p hp => ?_, fun f n hq => ?_, fun n => mem_subqueries_iff_fill,
    fun P => everywhere_iff_plug, fun fs n m hq hm => ?_⟩
  · have hlogged := renderLogged_congr hp
    exact ⟨congrArg Logged.outcome hlogged, hlogged⟩
  · rw [← hq, f.render_fill]
  · rw [← hq, render_plug_congr hm fs]

/-- A subquery that is prepared and then goes on, one that is never prepared, and one with an order of
no column. -/
theorem render_compositional_stale :
    let stale := Query.runActions ∅ [.call (.select "posts" ["id"] []), .prepare, .call (.limit .firstPage)]
    let fresh := Query.runActions ∅ [.call (.select "posts" ["id"] []), .call (.limit .firstPage)]
    let around := Frame.mk "users" [] "p" [] ∅
    stale.stored = some "SELECT \x60posts\x60.\x60id\x60 FROM \x60posts\x60" ∧
      (around.fill stale).forget = (around.fill fresh).forget ∧
      (around.fill stale).render = (around.fill fresh).render ∧
      (around.fill (fresh.order ⟨[]⟩)).render = (around.fill fresh).render := by
  intro stale fresh around
  obtain ⟨-, hforget, -, -, -, hreplace⟩ := render_compositional (around.fill fresh)
  have hstored : stale.stored = some "SELECT \x60posts\x60.\x60id\x60 FROM \x60posts\x60" := by decide +kernel
  have hsame : (around.fill stale).forget = (around.fill fresh).forget := rfl
  exact ⟨hstored, hsame, (hforget _ hsame).1, hreplace [around] fresh _ rfl rfl⟩

end Query

end SqlClauses
