/-
  SqlClauses.Proofs.Increments — what one clause call changes in the text of a query.

  The text of a query is that of its five stages, and each stage has a text of its own
  (`Query.stageText`), whatever becomes of the others. A call to a query that has its head adds
  one record (`Addition`), and only the text of that record's stage changes. How it changes is
  a matter of texts alone (`Addition.Splices`): what the record says is put in at one place of
  what was there, and nothing before that place depends on it.

  Main statements: `render_eq_stageTexts`, the text as those of the stages; `gains_of_apply`,
  the record that a call adds; `Gains.splices`, the change that it makes, from one law for each
  kind of record; `Renders.one_stage_goes_on`, all of it.
-/

import SqlClauses.Proofs.Growth
import SqlClauses.Proofs.RenderLog

namespace SqlClauses

/-! ## A stage on its own -/

/-- In the order in which they are rendered. -/
def Stage.all : List Stage := [.head, .join, .filter, .order, .limit]

namespace Query

/-- The text of one stage, whatever becomes of the others. A head and joins need a statement. -/
def stageText (q : Query) : Stage → Except Error String
  | .head => q.statement.elim (.error .noStatement) fun s => s.render.outcome
  | .join => q.statement.elim (.error .noStatement) fun s => .ok (Join.clause s.table q.joins)
  | .filter => .ok (Filter.clause q.filters)
  | .order => .ok (Order.clause q.orders)
  | .limit => Limit.clause q.limit

theorem mapM_stageText {q : Query} {s : Statement} (hs : q.statement = some s) :
    Stage.all.mapM q.stageText = s.render.outcome.bind fun head =>
      (Limit.clause q.limit).map fun limitSql => q.stageTexts s head ++ [limitSql] := by
  simp only [Stage.all, List.mapM_cons, List.mapM_nil, stageText, hs, Option.elim_some]
  cases s.render.outcome with
  | error e => rfl
  | ok head => cases Limit.clause q.limit <;> rfl

/-- Rendering fails where the first stage fails, and otherwise joins the texts of all of them. -/
theorem render_eq_stageTexts (q : Query) : q.render = (Stage.all.mapM q.stageText).map joinStages := by
  cases hs : q.statement with
  | none =>
    rw [render_of_statement_eq_none hs]
    simp only [Stage.all, List.mapM_cons, stageText, hs, Option.elim_none]
    rfl
  | some s =>
    rw [mapM_stageText hs]
    obtain ⟨statement, filters, joins, orders, limit, stored⟩ := q
    cases hs
    simp only [render, renderLogged, Logged.outcome_bind, Logged.outcome_emit, Logged.outcome_quiet,
      Logged.outcome_pure]
    cases s.render.outcome with
    | error e => rfl
    | ok head => cases Limit.clause limit <;> rfl

/-- Where a query renders, each stage has its text. -/
theorem Renders.exists_stageText {q : Query} (h : q.Renders) (t : Stage) : ∃ text, q.stageText t = .ok text := by
  obtain ⟨sql, h⟩ := h
  obtain ⟨s, head, limitSql, hs, hh, hl, -⟩ := render_eq_ok_iff.mp h
  cases t with
  | head => exact ⟨head, by rw [stageText, hs, Option.elim_some, hh]⟩
  | join => exact ⟨_, by rw [stageText, hs, Option.elim_some]⟩
  | filter | order => exact ⟨_, rfl⟩
  | limit => exact ⟨limitSql, hl⟩

/-- These are the texts that are logged, one event for each stage, behind the logs of the subqueries. -/
theorem log_eq_stageTexts {q : Query} {sql : String} (h : q.render = .ok sql) :
    ∃ s texts, q.statement = some s ∧ Stage.all.mapM q.stageText = .ok texts ∧
      q.log = q.subqueries.flatMap log ++ stageEvents texts ++ [.rendered s.kind s.table sql] := by
  obtain ⟨s, head, limitSql, hw⟩ := exists_written h
  refine ⟨s, _, hw.hasStatement, ?_, hw.logged⟩
  rw [mapM_stageText hw.hasStatement, hw.hasHead, hw.hasLimit]
  rfl

end Query

/-! ## What a call adds -/

/-- A record for a query that has its head. -/
inductive Addition where
  | key (k : Key)
  | join (j : Join)
  | filter (f : Filter)
  | order (o : Order)
  | limit (l : Limit)

namespace Addition

def stage : Addition → Stage
  | .key _ => .head
  | .join _ => .join
  | .filter _ => .filter
  | .order _ => .order
  | .limit _ => .limit

/-- Each column of an order with its own direction. -/
def orderItems (o : Order) : List String :=
  List.zipWith (fun column direction => column.quoted ++ " " ++ direction.sql) o.columns o.directions

/-- What the record says, in a statement on the table `base`. -/
def text (base : String) : Addition → Except Error String
  | .key k => k.render.outcome
  | .join j => .ok (j.sql base)
  | .filter f => .ok f.predicate.sql
  | .order o => .ok (", ".intercalate (orderItems o))
  | .limit l => l.sql

/-- How `added` is put into the text `old` of the stage, in a statement on the table `base`. -/
inductive Splices (base added : String) : Addition → (old new : String) → Prop
  | firstFilter (p : Predicate) : Splices base added (.filter ⟨.first, p⟩) "" ("WHERE (" ++ added ++ ")")
  | and (p : Predicate) (body : String) :
      Splices base added (.filter ⟨.and, p⟩) (body ++ ")") (body ++ " AND " ++ added ++ ")")
  | or (p : Predicate) (body : String) :
      Splices base added (.filter ⟨.or, p⟩) (body ++ ")") (body ++ ")" ++ " OR (" ++ added ++ ")")
  | firstJoin (j : Join) : Splices base added (.join j) "" added
  | join (j : Join) {old : String} : old ≠ "" → Splices base added (.join j) old (old ++ " " ++ added)
  | emptyOrder (old : String) : Splices base added (.order ⟨[]⟩) old old
  | firstOrder {o : Order} : o.terms ≠ [] → Splices base added (.order o) "" ("ORDER BY " ++ added)
  | order {o : Order} {old : String} : o.terms ≠ [] → old ≠ "" →
      Splices base added (.order o) old (old ++ ", " ++ added)
  | limit (offset amount : UInt64) (old : String) : Splices base added (.limit ⟨some offset, some amount⟩) old
      ("LIMIT " ++ toString offset.toNat ++ ", " ++ toString amount.toNat)
  | noLimit (old : String) : Splices base added (.limit ⟨none, none⟩) old ""
  | firstKey (k : Key) : Splices base added (.key k) ("SELECT * FROM " ++ Identifier.quote base)
      ("SELECT " ++ added ++ " FROM " ++ Identifier.quote base)
  | key (k : Key) {items : String} : items ≠ "*" →
      Splices base added (.key k) ("SELECT " ++ items ++ " FROM " ++ Identifier.quote base)
        ("SELECT " ++ (items ++ "," ++ added) ++ " FROM " ++ Identifier.quote base)

variable {base added : String} {a : Addition}

theorem select_all (base : String) :
    "SELECT * FROM " ++ Identifier.quote base = "SELECT " ++ "*" ++ " FROM " ++ Identifier.quote base := rfl

/-- What was there and what is added make up the new text. -/
theorem Splices.unique {old new old' new' : String} (h : Splices base added a old new)
    (h' : Splices base added a old' new') (ho : old = old') : new = new' := by
  cases h with
  | firstFilter | limit | noLimit =>
    cases h'
    rfl
  | and p body | or p body =>
    cases h'
    rw [(String.append_left_inj _).mp ho]
  | firstJoin j =>
    cases h' with
    | firstJoin => rfl
    | join _ hold => exact absurd ho.symm hold
  | join j hold =>
    cases h' with
    | firstJoin => exact absurd ho hold
    | join => rw [ho]
  | emptyOrder old =>
    cases h' with
    | emptyOrder => exact ho
    | firstOrder hne | order hne => exact absurd rfl hne
  | firstOrder hne =>
    cases h' with
    | emptyOrder => exact absurd rfl hne
    | firstOrder => rfl
    | order _ hold => exact absurd ho.symm hold
  | order hne hold =>
    cases h' with
    | emptyOrder => exact absurd rfl hne
    | firstOrder => exact absurd ho hold
    | order => rw [ho]
  | firstKey k =>
    cases h' with
    | firstKey => rfl
    | key _ hitems =>
      rw [select_all] at ho
      simp only [String.append_left_inj, String.append_right_inj] at ho
      exact absurd ho.symm hitems
  | key k hitems =>
    cases h' with
    | firstKey =>
      rw [select_all] at ho
      simp only [String.append_left_inj, String.append_right_inj] at ho
      exact absurd ho hitems
    | key _ _ =>
      simp only [String.append_left_inj, String.append_right_inj] at ho
      rw [ho]

/-- Only a join on a bare target says something that depends on the table of the statement. -/
theorem text_congr {base' : String} (h : ∀ j key, a = .join j → j.target ≠ .bare key) :
    a.text base = a.text base' := by
  cases a with
  | join j =>
    have hq : j.target.qualify base = j.target.qualify base' := by
      cases ht : j.target with
      | bare key => exact absurd ht (h j key rfl)
      | qualified ref => rfl
    show Except.ok (j.sql base) = .ok (j.sql base')
    rw [Join.sql, hq]
    rfl
  | key | filter | order | limit => rfl

end Addition

namespace Query

/-- The record that a call is there to add. A call that opens a statement adds none to one that is open. -/
def Call.addition? : Call → Option Addition
  | .aggregate f table key name => some (.key (.aggregate f ((Column.ofText key).qualify table) name))
  | .fulltext s name => some (.key (.fulltext s name))
  | .subquery nested name => some (.key (.subquery nested name))
  | .compare link column operator value => some (.filter ⟨link, .compare column operator value⟩)
  | .between link column lo hi => some (.filter ⟨link, .between column lo hi⟩)
  | .search link s => some (.filter ⟨link, .search s⟩)
  | .join side table key target operator => some (.join ⟨side, table, Column.ofText key, target, operator⟩)
  | .order o => some (.order o)
  | .limit l => some (.limit l)
  | .select .. | .insert .. | .insertRow .. | .update .. | .updateRow .. | .delete _ | .truncate _ => none

/-- The query with the record, which it can take. -/
inductive Gains (q : Query) : Addition → Query → Prop
  | key {table : String} {keys : List Key} (k : Key) : q.statement = some (.select table keys) →
      Gains q (.key k) { q with statement := some (.select table (keys ++ [k])) }
  | join (j : Join) : Gains q (.join j) { q with joins := q.joins ++ [j] }
  | filter (f : Filter) : (f.link = .first ↔ q.filters = []) →
      Gains q (.filter f) { q with filters := q.filters ++ [f] }
  | order (o : Order) : Gains q (.order o) { q with orders := q.orders ++ [o] }
  | limit (l : Limit) : Gains q (.limit l) { q with limit := some l }

variable {q q' : Query} {c : Call} {s : Statement}

theorem stage_of_addition? {a : Addition} (h : c.addition? = some a) : a.stage = c.stage := by
  cases c <;> cases h <;> rfl

theorem gains_of_addKey {feature : String} {k : Key} (h : q.addKey feature k = .ok q') : q.Gains (.key k) q' := by
  obtain ⟨table, keys, hq, rfl⟩ := addKey_eq_ok_iff.mp h
  exact .key k hq

theorem gains_of_addFilter {link : Link} {p : Predicate} (h : q.addFilter link p = .ok q') :
    q.Gains (.filter ⟨link, p⟩) q' := by
  obtain ⟨hl, rfl⟩ := addFilter_eq_ok_iff.mp h
  exact .filter ⟨link, p⟩ hl

/-- Once there is a head, every call that succeeds adds its record. -/
theorem gains_of_apply (hs : q.statement = some s) (h : q.apply c = .ok q') :
    ∃ a, c.addition? = some a ∧ q.Gains a q' := by
  have hopen : c.kind? = none := by
    cases hk : c.kind? with
    | none => rfl
    | some kind =>
      rw [head_refuses hs (valid_of_apply h) hk] at h
      cases h
  cases c with
  | aggregate f table key name =>
    obtain ⟨-, -, -, h⟩ := apply_aggregate_eq_ok_iff.mp h
    rcases addKeyOn_eq_ok_iff.mp h with ⟨hn, -⟩ | ⟨keys, hq, rfl⟩
    · rw [hs] at hn
      cases hn
    · exact ⟨_, rfl, .key _ hq⟩
  | fulltext => exact ⟨_, rfl, gains_of_addKey (fulltext_eq_ok_iff.mp h).2.2⟩
  | subquery => exact ⟨_, rfl, gains_of_addKey (subquery_eq_ok_iff.mp h).2⟩
  | compare => exact ⟨_, rfl, gains_of_addFilter (compare_eq_ok_iff.mp h).2⟩
  | between => exact ⟨_, rfl, gains_of_addFilter (between_eq_ok_iff.mp h).2.2⟩
  | search => exact ⟨_, rfl, gains_of_addFilter (search_eq_ok_iff.mp h).2⟩
  | join =>
    obtain ⟨-, -, -, rfl⟩ := join_eq_ok_iff.mp h
    exact ⟨_, rfl, .join _⟩
  | order o =>
    cases h
    exact ⟨_, rfl, .order o⟩
  | limit l =>
    cases h
    exact ⟨_, rfl, .limit l⟩
  | select | insert | insertRow | update | updateRow | delete | truncate => cases hopen

end Query

/-! ## What that does to the text of a stage -/

namespace Filter

theorem linkedSql_append (fs : List Filter) (f : Filter) :
    linkedSql (fs ++ [f]) = linkedSql fs ++ (separator f.link ++ f.predicate.sql) := by
  induction fs with
  | nil => simp [linkedSql]
  | cons g fs ih =>
    rw [List.cons_append, linkedSql, ih, linkedSql]
    simp only [String.append_assoc]

/-- A filter goes in before the last parenthesis, or behind it. -/
theorem splices (base : String) {fs : List Filter} {f : Filter} (h : f.link = .first ↔ fs = []) :
    (Addition.filter f).Splices base f.predicate.sql (clause fs) (clause (fs ++ [f])) := by
  obtain ⟨link, p⟩ := f
  cases fs with
  | nil =>
    obtain rfl : link = .first := h.mpr rfl
    rw [List.nil_append, clause_cons, linkedSql, String.append_empty]
    exact .firstFilter p
  | cons g fs =>
    rw [List.cons_append, clause_cons, clause_cons, linkedSql_append, ← String.append_assoc]
    cases link with
    | first => cases h.mp rfl
    | and =>
      have h : Addition.Splices base p.sql (.filter ⟨.and, p⟩) _ _ :=
        .and p ("WHERE (" ++ g.predicate.sql ++ linkedSql fs)
      simpa only [separator, String.append_assoc] using h
    | or =>
      have hsep : separator .or = ")" ++ " OR (" := rfl
      have h : Addition.Splices base p.sql (.filter ⟨.or, p⟩) _ _ :=
        .or p ("WHERE (" ++ g.predicate.sql ++ linkedSql fs)
      simpa only [hsep, String.append_assoc] using h

end Filter

theorem Firm.ne_empty {s : String} (h : Firm s) : s ≠ "" := by
  rintro rfl
  obtain ⟨c, hc, -⟩ := h
  cases hc

theorem Join.splices (base : String) (js : List Join) (j : Join) :
    (Addition.join j).Splices base (j.sql base) (clause base js) (clause base (js ++ [j])) := by
  by_cases h : js = []
  · subst h
    have hsingle : clause base ([] ++ [j]) = j.sql base := String.intercalate_singleton
    rw [hsingle]
    exact .firstJoin j
  · have happend : clause base (js ++ [j]) = clause base js ++ " " ++ j.sql base := by
      rw [clause, clause, List.map_append, List.map_singleton,
        String.intercalate_append_of_ne_nil (by simpa using h) (List.cons_ne_nil _ _), String.intercalate_singleton]
    rw [happend]
    exact .join j (firm_clause_of_ne_nil base h).ne_empty

namespace Order

theorem length_orderItems (o : Order) : (Addition.orderItems o).length = o.columns.length := by
  rw [Addition.orderItems, List.length_zipWith, o.wellFormed.arity, Nat.min_self]

theorem orderItems_eq (o : Order) : Addition.orderItems o = o.terms.map termSql := by
  rw [Addition.orderItems, columns, directions, List.zipWith_map_left, List.zipWith_map_right, List.zipWith_self]
  rfl

theorem clause_of_terms {os : List Order} (h : os.flatMap (·.terms) ≠ []) :
    clause os = "ORDER BY " ++ ", ".intercalate ((os.flatMap (·.terms)).map termSql) := by
  rw [clause, if_neg (by simpa using h)]

theorem splices (base : String) (os : List Order) (o : Order) :
    (Addition.order o).Splices base (", ".intercalate (Addition.orderItems o)) (clause os) (clause (os ++ [o])) := by
  have hterms : (os ++ [o]).flatMap (·.terms) = os.flatMap (·.terms) ++ o.terms := by simp
  rw [orderItems_eq]
  obtain ⟨terms⟩ := o
  by_cases ho : terms = []
  · subst ho
    have hsame : clause (os ++ [⟨[]⟩]) = clause os := by
      unfold clause
      rw [hterms, List.append_nil]
    rw [hsame]
    exact .emptyOrder _
  · have hne : (os ++ [Order.mk terms]).flatMap (·.terms) ≠ [] := by
      rw [hterms]
      exact List.append_ne_nil_of_right_ne_nil _ ho
    rw [clause_of_terms hne, hterms]
    by_cases hos : os.flatMap (·.terms) = []
    · have hnone : clause os = "" := by
        rw [clause, if_pos (by rw [hos]; rfl)]
      rw [hos, hnone]
      exact .firstOrder ho
    · have hold := clause_of_terms hos
      have happend : "ORDER BY " ++ ", ".intercalate ((os.flatMap (·.terms) ++ terms).map termSql) =
          clause os ++ ", " ++ ", ".intercalate (terms.map termSql) := by
        rw [hold, List.map_append, String.intercalate_append_of_ne_nil (by simpa using hos) (by simpa using ho)]
        simp only [String.append_assoc]
      rw [happend]
      refine .order ho ?_
      rw [hold]
      intro hempty
      exact absurd (String.append_eq_empty_iff.mp hempty).1 (by decide)

end Order

namespace Key

/-- The text of the key without its name. -/
def body : Key → Except Error String
  | .column ref _ => .ok ref.quoted
  | .aggregate f ref _ => .ok (f.sql ++ "(" ++ ref.quoted ++ ")")
  | .fulltext s _ => .ok s.sql
  | .subquery query _ => query.render.map fun sql => "(" ++ sql ++ ")"

/-- The name stands behind the rest, which does not depend on it. -/
theorem outcome_render (k : Key) :
    k.render.outcome = k.body.map fun body => body ++ (k.name?.map nameSql).getD "" := by
  cases k with
  | column | aggregate | fulltext => rfl
  | subquery query name =>
    rw [render, Logged.outcome_bind, body]
    show query.render.bind _ = _
    cases query.render <;> rfl

/-- Keys are rendered one after the other, and the first that fails ends the list. -/
theorem outcome_renderAll_around (before after : List Key) (k : Key) :
    (renderAll (before ++ k :: after)).outcome = (renderAll before).outcome.bind fun items =>
      k.render.outcome.bind fun item => (renderAll after).outcome.map fun rest => items ++ item :: rest := by
  induction before with
  | nil =>
    simp only [List.nil_append, renderAll, Logged.outcome_bind, Logged.outcome_pure]
    rfl
  | cons key keys ih =>
    simp only [List.cons_append, renderAll, Logged.outcome_bind, Logged.outcome_pure, ih]
    cases key.render.outcome with
    | error e => rfl
    | ok item =>
      cases (renderAll keys).outcome with
      | error e => rfl
      | ok items =>
        cases k.render.outcome with
        | error e => rfl
        | ok item' => cases (renderAll after).outcome <;> rfl

/-- What a key is written as ends in a quoted name: its own, or that of a column. -/
theorem getLast?_of_render {k : Key} {sql : String} (h : k.render.outcome = .ok sql) :
    sql.toList.getLast? = some Identifier.tick := by
  rw [outcome_render] at h
  cases hbody : k.body with
  | error e =>
    rw [hbody] at h
    cases h
  | ok body =>
    rw [hbody] at h
    obtain rfl : body ++ (k.name?.map nameSql).getD "" = sql := Except.ok.inj h
    cases hname : k.name? with
    | some name =>
      rw [Option.map_some, Option.getD_some, nameSql, String.toList_append, String.toList_append, List.getLast?_append,
        List.getLast?_append, getLast?_quote]
      rfl
    | none =>
      cases k with
      | column ref name =>
        obtain rfl : ref.quoted = body := Except.ok.inj hbody
        rw [Option.map_none, Option.getD_none, String.append_empty, Reference.quoted, String.toList_append,
          List.getLast?_append, getLast?_quote]
        rfl
      | aggregate | fulltext | subquery => cases hname

theorem getLast?_of_mem {keys : List Key} {items : List String}
    (h : List.Forall₂ (fun k item => k.render.outcome = .ok item) keys items) :
    ∀ item ∈ items, item.toList.getLast? = some Identifier.tick := by
  induction h with
  | nil => exact List.forall_mem_nil _
  | cons hk _ ih => exact List.forall_mem_cons.mpr ⟨getLast?_of_render hk, ih⟩

theorem items_ne_star {keys : List Key} {items : List String} (hne : items ≠ [])
    (h : List.Forall₂ (fun k item => k.render.outcome = .ok item) keys items) : ",".intercalate items ≠ "*" := by
  intro hstar
  have hlast : (",".intercalate items).toList.getLast? = some Identifier.tick := by
    rw [String.toList_intercalate]
    refine getLast?_intercalate (by simpa using hne) fun s hs => ?_
    obtain ⟨item, hitem, rfl⟩ := List.mem_map.mp hs
    exact getLast?_of_mem h item hitem
  rw [hstar] at hlast
  exact absurd hlast (by decide)

end Key

/-- The text of a head with one key more, if that key is written. -/
theorem Statement.key_splices {table head added : String} {keys : List Key} {k : Key}
    (hh : (select table keys).render.outcome = .ok head) (hk : k.render.outcome = .ok added) :
    ∃ new, (select table (keys ++ [k])).render.outcome = .ok new ∧
      (Addition.key k).Splices table added head new := by
  obtain ⟨items, hitems, rfl⟩ := render_select_eq_ok_iff.mp hh
  have hall : (Key.renderAll (keys ++ [k])).outcome = .ok (items ++ [added]) := by
    rw [Key.outcome_renderAll_around, Key.renderAll_eq_ok_iff.mpr hitems, hk]
    rfl
  refine ⟨_, render_select_eq_ok_iff.mpr ⟨_, Key.renderAll_eq_ok_iff.mp hall, rfl⟩, ?_⟩
  by_cases hne : items = []
  · subst hne
    have hsingle : ",".intercalate [added] = added := String.intercalate_singleton
    show (Addition.key k).Splices table added ("SELECT * FROM " ++ Identifier.quote table)
      ("SELECT " ++ ",".intercalate [added] ++ " FROM " ++ Identifier.quote table)
    rw [hsingle]
    exact .firstKey k
  · have happend : ",".intercalate (items ++ [added]) = ",".intercalate items ++ "," ++ added := by
      rw [String.intercalate_append_of_ne_nil hne (List.cons_ne_nil _ _), String.intercalate_singleton]
    rw [if_neg (by simpa using hne), if_neg (by simp), happend]
    exact .key k (Key.items_ne_star hne hitems)

theorem Statement.key_fails {table head : String} {keys : List Key} {k : Key} {e : Error}
    (hh : (select table keys).render.outcome = .ok head) (hk : k.render.outcome = .error e) :
    (select table (keys ++ [k])).render.outcome = .error e := by
  obtain ⟨items, hitems, -⟩ := render_select_eq_ok_iff.mp hh
  have hall : (Key.renderAll (keys ++ [k])).outcome = .error e := by
    rw [Key.outcome_renderAll_around, Key.renderAll_eq_ok_iff.mpr hitems, hk]
    rfl
  rw [render, Logged.outcome_bind, hall]
  rfl

namespace Query

variable {q q' : Query} {s : Statement} {a : Addition}

theorem Gains.stageText_of_ne (h : q.Gains a q') {t : Stage} (ht : t ≠ a.stage) : q'.stageText t = q.stageText t := by
  cases h with
  | key k hq =>
    cases t with
    | head => exact absurd rfl ht
    | join =>
      simp only [stageText, hq, Option.elim_some]
      rfl
    | filter | order | limit => rfl
  | join | filter | order | limit => cases t <;> first | rfl | exact absurd rfl ht

/-- The record is written, and put in at its place; if it cannot be written, neither can its stage. -/
theorem Gains.splices {old : String} (h : q.Gains a q') (hs : q.statement = some s)
    (hold : q.stageText a.stage = .ok old) :
    (∀ e, a.text s.table = .error e → q'.stageText a.stage = .error e) ∧
      ∀ added, a.text s.table = .ok added →
        ∃ new, q'.stageText a.stage = .ok new ∧ a.Splices s.table added old new := by
  cases h with
  | key k hq =>
    cases hs.symm.trans hq
    rw [Addition.stage, stageText, hs, Option.elim_some] at hold
    exact ⟨fun e => Statement.key_fails hold, fun added => Statement.key_splices hold⟩
  | join j =>
    rw [Addition.stage, stageText, hs, Option.elim_some] at hold
    cases hold
    refine ⟨nofun, fun added ha => ⟨Join.clause s.table (q.joins ++ [j]), ?_, ?_⟩⟩
    · rw [Addition.stage, stageText, hs, Option.elim_some]
    · cases ha
      exact Join.splices s.table q.joins j
  | filter f hf =>
    cases hold
    refine ⟨nofun, fun added ha => ?_⟩
    cases ha
    exact ⟨_, rfl, Filter.splices _ hf⟩
  | order o =>
    cases hold
    refine ⟨nofun, fun added ha => ?_⟩
    cases ha
    exact ⟨_, rfl, Order.splices _ _ o⟩
  | limit l =>
    refine ⟨fun e he => he, fun added ha => ⟨added, ha, ?_⟩⟩
    rcases l with ⟨_ | offset, _ | amount⟩ <;> cases ha
    · exact .noLimit old
    · exact .limit offset amount old

/-- A call that succeeds on a query that renders leaves the text of every stage but its own as it was.
Its own goes on by one record: what that says is put into what was there, in one way, and it says
nothing of the query but the table that a join on a bare target means. If the record cannot be
written, neither can the stage. The texts of the stages are what is rendered and what is logged. -/
theorem Renders.one_stage_goes_on {q q' : Query} {c : Call} (h : q.Renders) (hc : q.apply c = .ok q') :
    (∀ t, t ≠ c.stage → q'.stageText t = q.stageText t) ∧
      (∃ s a old, q.statement = some s ∧ c.addition? = some a ∧ q.stageText c.stage = .ok old ∧
        (∀ e, a.text s.table = .error e → q'.stageText c.stage = .error e) ∧
        (∀ added, a.text s.table = .ok added → ∃ new, q'.stageText c.stage = .ok new ∧
          ∀ new', a.Splices s.table added old new' ↔ new' = new) ∧
        (∀ o, a = .order o → (Addition.orderItems o).length = o.columns.length) ∧
        ((∀ j key, a = .join j → j.target ≠ .bare key) → ∀ base, a.text base = a.text s.table)) ∧
      (∀ p : Query, p.render = (Stage.all.mapM p.stageText).map joinStages) ∧
      ∀ p sql, Query.render p = .ok sql →
        ∃ s texts, p.statement = some s ∧ Stage.all.mapM p.stageText = .ok texts ∧
          p.log = p.subqueries.flatMap log ++ stageEvents texts ++ [.rendered s.kind s.table sql] := by
  obtain ⟨old, hold⟩ := h.exists_stageText c.stage
  obtain ⟨sql, hr⟩ := h
  obtain ⟨s, texts, hs, -⟩ := log_eq_stageTexts hr
  obtain ⟨a, ha, hgains⟩ := gains_of_apply hs hc
  rw [← stage_of_addition? ha] at hold ⊢
  obtain ⟨hfails, hsplices⟩ := hgains.splices hs hold
  refine ⟨fun t => hgains.stageText_of_ne, ⟨s, a, old, hs, ha, hold, hfails, fun added hadded => ?_,
    fun o _ => o.length_orderItems, ?_⟩, render_eq_stageTexts, fun _ _ => log_eq_stageTexts⟩
  · obtain ⟨new, hnew, hsplice⟩ := hsplices added hadded
    refine ⟨new, hnew, fun new' => ⟨fun h' => h'.unique hsplice rfl, ?_⟩⟩
    rintro rfl
    exact hsplice
  · exact fun hbare base => Addition.text_congr hbare

/-- A second filter, and the order behind it. -/
theorem one_stage_goes_on_second_filter :
    let q := Query.runActions ∅ [.call (.select "users" ["id"] []),
      .call (.compare .first (.bare "id") .gt (.uint 1)), .call (.order (.single (.bare "id") .desc))]
    let c := Call.compare .and (.bare "name") .ne .null
    q.Renders ∧ ∃ q', q.apply c = .ok q' ∧ q.stageText .filter = .ok "WHERE (\x60id\x60 > 1)" ∧
      q'.stageText .filter = .ok "WHERE (\x60id\x60 > 1 AND \x60name\x60 IS NOT NULL)" ∧
      q'.stageText .order = q.stageText .order := by
  intro q c
  have hq : q.Renders := ⟨_, rfl⟩
  have hc : q.apply c = .ok _ := rfl
  obtain ⟨hothers, ⟨s, a, old, hs, ha, hold, -, hsplice, -⟩, -⟩ := hq.one_stage_goes_on hc
  have hfirst : q.stageText .filter = .ok ("WHERE (\x60id\x60 > 1" ++ ")") := by decide +kernel
  obtain rfl : old = "WHERE (\x60id\x60 > 1" ++ ")" := by
    rw [show c.stage = .filter from rfl, hfirst] at hold
    cases hold
    rfl
  cases ha
  obtain ⟨new, hnew, hunique⟩ := hsplice _ rfl
  have htext := (hunique _).mp (.and _ "WHERE (\x60id\x60 > 1")
  refine ⟨hq, _, hc, hfirst, ?_, hothers .order nofun⟩
  rw [show Stage.filter = c.stage from rfl, hnew, ← htext]
  decide +kernel

end Query

end SqlClauses
