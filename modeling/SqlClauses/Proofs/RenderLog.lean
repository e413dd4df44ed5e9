/-
  SqlClauses.Proofs.RenderLog — what rendering logs, and what it leaves off at the end.

  The log of a query that renders is the logs of its subqueries, in the order of the keys,
  and then six events of its own. If it does not render, the log ends where the work did.

  The white space at the end of the text is cut off. The texts of the stages are such that
  there is none to cut, with one exception: nothing stands behind the last value of an
  update that has no other clause, and if that value is raw SQL, its own end is cut.

  Main statements: `joinStages_ne_iff`, when something is cut; `BareUpdate.exists_text`, how
  much; `length_log`, six events for each query there is; `log_and_text_exact`, all of it.
-/

import Mathlib.Algebra.BigOperators.Ring.List
import Mathlib.Algebra.Ring.Nat
import SqlClauses.Proofs.Rendering

namespace SqlClauses

/-! ## Texts that are cut -/

theorem Text.dropBlankEnd_append {cs : List Char} (h : dropBlankEnd cs = cs) (ds : List Char) :
    dropBlankEnd (cs ++ ds) = cs ++ dropBlankEnd ds := by
  unfold dropBlankEnd at *
  rw [List.reverse_append, List.dropWhile_append]
  split
  · next hd => rw [h, List.isEmpty_iff.mp hd, List.reverse_nil, List.append_nil]
  · rw [List.reverse_append, List.reverse_reverse]

theorem Text.length_dropBlankEnd_lt {cs : List Char} {c : Char} (h : isBlank c = true) :
    (dropBlankEnd (cs ++ [c])).length < (cs ++ [c]).length := by
  have hle := (List.dropWhile_suffix isBlank (l := cs.reverse)).length_le
  simp only [dropBlankEnd, List.reverse_append, List.reverse_singleton, List.singleton_append, List.length_reverse,
    List.dropWhile_cons_of_pos h, List.length_append, List.length_singleton] at *
  omega

/-- A text is not cut if it is empty, or does not end in white space. -/
theorem trimEnd_eq_self_iff {s : String} : Text.trimEnd s = s ↔ s = "" ∨ Firm s := by
  constructor
  · intro h
    rcases List.eq_nil_or_concat s.toList with hs | ⟨cs, c, hs⟩
    · exact .inl (String.toList_inj.mp hs)
    · refine .inr ⟨c, by simp [hs], ?_⟩
      have hcut : Text.dropBlankEnd (cs ++ [c]) = cs ++ [c] := by
        rw [← List.concat_eq_append, ← hs, ← String.toList_ofList (l := Text.dropBlankEnd _)]
        exact congrArg String.toList h
      by_contra hb
      have hlt : (Text.dropBlankEnd (cs ++ [c])).length < (cs ++ [c]).length :=
        Text.length_dropBlankEnd_lt (eq_true_of_ne_false hb)
      rw [hcut] at hlt
      omega
  · rintro (rfl | h)
    · rfl
    · exact trimEnd_of_firm h

/-- A text is cut only as far as one that does not end in white space. -/
theorem trimEnd_append_of_firm {s : String} (h : Firm s) (t : String) :
    Text.trimEnd (s ++ t) = s ++ Text.trimEnd t := by
  have hs : Text.dropBlankEnd s.toList = s.toList := by
    rw [← String.toList_ofList (l := Text.dropBlankEnd _)]
    exact congrArg String.toList (trimEnd_of_firm h)
  apply String.toList_inj.mp
  simp only [Text.trimEnd, String.toList_append, String.toList_ofList, Text.dropBlankEnd_append hs]

/-! ## Texts of stages -/

/-- The texts that are not empty, with a space between each two. -/
def spaced (texts : List String) : String := " ".intercalate (texts.filter fun t => !t.isEmpty)

theorem joinStages_eq_trimEnd (texts : List String) : joinStages texts = Text.trimEnd (spaced texts) := rfl

theorem spaced_of_rest_empty {head : String} {rest : List String} (h : ∀ t ∈ rest, t = "") :
    spaced (head :: rest) = head := by
  have hrest : rest.filter (fun t => !t.isEmpty) = [] := List.filter_eq_nil_iff.mpr fun t ht => by simp [h t ht]
  by_cases hh : head = ""
  · simp [spaced, hh, hrest]
  · simp [spaced, hh, hrest]

/-- The first text is at the front, be it empty or not. -/
theorem exists_spaced_cons (head : String) (texts : List String) : ∃ rest, spaced (head :: texts) = head ++ rest := by
  by_cases hh : head = ""
  · exact ⟨_, by rw [hh, String.empty_append]⟩
  · obtain ⟨rest, hrest, -⟩ := exists_intercalate_cons " " head (texts.filter fun t => !t.isEmpty)
    refine ⟨rest, ?_⟩
    rw [spaced, List.filter_cons_of_pos (by simpa using hh), hrest]

/-- The last text that is not empty is what counts. -/
theorem firm_spaced {head : String} {rest : List String} (h : ∀ t ∈ rest, t = "" ∨ Firm t)
    (hh : Firm head ∨ ∃ t ∈ rest, t ≠ "") : Firm (spaced (head :: rest)) := by
  by_cases hrest : ∃ t ∈ rest, t ≠ ""
  · obtain ⟨t, ht, hne⟩ := hrest
    rcases List.eq_nil_or_concat (rest.filter fun t => !t.isEmpty) with hf | ⟨front, last, hf⟩
    · exact absurd (List.filter_eq_nil_iff.mp hf t ht) (by simpa using hne)
    · have hlast : last ∈ rest.filter fun t => !t.isEmpty := by simp [hf]
      obtain ⟨hm, hl⟩ := List.mem_filter.mp hlast
      have hfirm : Firm last := (h last hm).resolve_left (by simpa using hl)
      obtain ⟨before, hb⟩ := exists_intercalate_concat " " ([head].filter (fun t => !t.isEmpty) ++ front)
      rw [spaced, ← List.singleton_append, List.filter_append, hf, List.concat_eq_append, ← List.append_assoc, hb]
      exact hfirm.append before
  · have hempty : ∀ t ∈ rest, t = "" := by simpa using hrest
    rw [spaced_of_rest_empty hempty]
    exact hh.resolve_right hrest

/-! ## Texts of updates -/

theorem Value.trimEnd_sql_ne_iff {v : Value} :
    Text.trimEnd v.sql ≠ v.sql ↔ ∃ raw, v = .raw raw ∧ Text.trimEnd raw ≠ raw := by
  constructor
  · intro h
    by_cases hv : ∃ raw, v = .raw raw
    · obtain ⟨raw, rfl⟩ := hv
      exact ⟨raw, rfl, h⟩
    · exact absurd (trimEnd_of_firm (firm_sql fun raw hr => hv ⟨raw, hr⟩)) h
  · rintro ⟨raw, rfl, h⟩
    exact h

namespace Statement

/-- The last value that an update sets is the end of its head. -/
theorem exists_render_update (table : String) (front : List (Column × Value)) (column : Column) :
    ∃ before, Firm before ∧
      ∀ v, (update table (front ++ [(column, v)])).render.outcome = .ok (before ++ v.sql) := by
  obtain ⟨sets, hsets⟩ := exists_intercalate_concat ", " (front.map fun a => a.1.quoted ++ "=" ++ a.2.sql)
  refine ⟨"UPDATE " ++ Identifier.quote table ++ " SET " ++ (sets ++ (column.quoted ++ "=")), ?_, fun v => ?_⟩
  · exact Firm.append _ (Firm.append _ (Firm.append _ (by decide)))
  · rw [render, List.map_append, List.map_singleton, hsets, Logged.outcome_pure]
    simp only [String.append_assoc]

theorem firm_or_update {s : Statement} {head : String} (h : s.render.outcome = .ok head) :
    Firm head ∨ ∃ table as, s = .update table as := by
  by_cases hu : ∃ table as, s = .update table as
  · exact .inr hu
  · exact .inl (s.firm_render h fun table as hs => absurd ⟨table, as, hs⟩ hu)

end Statement

namespace Query

/-- The query is an update that sets `as`, and has no text besides. -/
def BareUpdate (q : Query) (as : List (Column × Value)) : Prop :=
  ∃ table, q.statement = some (.update table as) ∧ Join.clause table q.joins = "" ∧ Filter.clause q.filters = "" ∧
    Order.clause q.orders = "" ∧ Limit.clause q.limit = .ok ""

/-- Nothing stands behind the last value that an update sets, and that is raw SQL with white space at
its end. An update that sets nothing counts too; no call makes one. -/
def EndsLoose (q : Query) : Prop :=
  ∃ as, q.BareUpdate as ∧ ∀ a ∈ as.getLast?, ∃ raw, a.2 = .raw raw ∧ Text.trimEnd raw ≠ raw

variable {q : Query} {s : Statement} {head limitSql : String}

theorem firm_rest (hl : Limit.clause q.limit = .ok limitSql) :
    ∀ t ∈ [Join.clause s.table q.joins, Filter.clause q.filters, Order.clause q.orders, limitSql], t = "" ∨ Firm t := by
  simp only [List.forall_mem_cons, List.not_mem_nil, false_implies, implies_true, and_true]
  exact ⟨Join.firm_clause _ _, Filter.firm_clause _, Order.firm_clause _, Limit.firm_clause hl⟩

theorem BareUpdate.text_eq_head {as : List (Column × Value)} (hq : q.BareUpdate as) (hs : q.statement = some s)
    (hl : Limit.clause q.limit = .ok limitSql) : spaced (q.stageTexts s head ++ [limitSql]) = head := by
  obtain ⟨table, hq, hj, hf, ho, hlimit⟩ := hq
  cases hs.symm.trans hq
  cases hl.symm.trans hlimit
  show spaced (head :: [Join.clause table q.joins, Filter.clause q.filters, Order.clause q.orders, ""]) = head
  exact spaced_of_rest_empty (by simp [hj, hf, ho])

/-- The text of a bare update, and what is left of it: no more is cut than of its last value. -/
theorem BareUpdate.exists_text {front : List (Column × Value)} {column : Column} {v : Value}
    (hq : q.BareUpdate (front ++ [(column, v)])) (hs : q.statement = some s) (hh : s.render.outcome = .ok head)
    (hl : Limit.clause q.limit = .ok limitSql) :
    ∃ before, spaced (q.stageTexts s head ++ [limitSql]) = before ++ v.sql ∧
      joinStages (q.stageTexts s head ++ [limitSql]) = before ++ Text.trimEnd v.sql := by
  have htext : spaced (q.stageTexts s head ++ [limitSql]) = head := hq.text_eq_head hs hl
  obtain ⟨table, hq, -⟩ := hq
  cases hs.symm.trans hq
  obtain ⟨before, hfirm, hb⟩ := Statement.exists_render_update table front column
  cases hh.symm.trans (hb v)
  exact ⟨before, htext, by rw [joinStages_eq_trimEnd, htext, trimEnd_append_of_firm hfirm]⟩

theorem BareUpdate.trimEnd_ne_of_nil (hq : q.BareUpdate []) (hs : q.statement = some s)
    (hh : s.render.outcome = .ok head) : Text.trimEnd head ≠ head := by
  obtain ⟨table, hq, -⟩ := hq
  cases hs.symm.trans hq
  have hfirm : Firm ("UPDATE " ++ Identifier.quote table ++ " SET") := Firm.append _ (by decide)
  have hhead : head = "UPDATE " ++ Identifier.quote table ++ " SET" ++ " " := by
    rw [Statement.render, Logged.outcome_pure] at hh
    cases hh
    simp [String.append_assoc]
  rw [hhead, trimEnd_append_of_firm hfirm, Ne, String.append_right_inj]
  decide

/-- Where something is cut, there is nothing but the head of an update. -/
theorem exists_bareUpdate_of_not_firm (hs : q.statement = some s) (hh : s.render.outcome = .ok head)
    (hl : Limit.clause q.limit = .ok limitSql) (h : ¬ Firm (spaced (q.stageTexts s head ++ [limitSql]))) :
    ∃ as, q.BareUpdate as := by
  have hrest := firm_rest (q := q) (s := s) hl
  have hnot : ¬ (Firm head ∨
      ∃ t ∈ [Join.clause s.table q.joins, Filter.clause q.filters, Order.clause q.orders, limitSql], t ≠ "") :=
    fun hh => h (firm_spaced hrest hh)
  obtain ⟨hhead, hempty⟩ := not_or.mp hnot
  obtain ⟨table, as, rfl⟩ := (Statement.firm_or_update hh).resolve_left hhead
  simp only [List.mem_cons, List.not_mem_nil, or_false, ne_eq, exists_eq_or_imp, exists_eq_left, not_or,
    Decidable.not_not] at hempty
  obtain ⟨hj, hf, ho, rfl⟩ := hempty
  exact ⟨as, table, hs, hj, hf, ho, hl⟩

theorem joinStages_ne_iff (hs : q.statement = some s) (hh : s.render.outcome = .ok head)
    (hl : Limit.clause q.limit = .ok limitSql) :
    joinStages (q.stageTexts s head ++ [limitSql]) ≠ spaced (q.stageTexts s head ++ [limitSql]) ↔ q.EndsLoose := by
  constructor
  · intro h
    obtain ⟨as, hq⟩ := exists_bareUpdate_of_not_firm hs hh hl fun hf => h (trimEnd_of_firm hf)
    refine ⟨as, hq, fun a ha => ?_⟩
    obtain ⟨front, rfl⟩ := List.getLast?_eq_some_iff.mp ha
    obtain ⟨before, htext, hjoin⟩ := hq.exists_text hs hh hl
    rw [htext, hjoin, Ne, String.append_right_inj] at h
    exact Value.trimEnd_sql_ne_iff.mp h
  · rintro ⟨as, hq, hlast⟩
    rcases List.eq_nil_or_concat as with rfl | ⟨front, ⟨column, v⟩, rfl⟩
    · rw [joinStages_eq_trimEnd, hq.text_eq_head hs hl]
      exact hq.trimEnd_ne_of_nil hs hh
    · rw [List.concat_eq_append] at hq hlast
      obtain ⟨before, htext, hjoin⟩ := hq.exists_text hs hh hl
      rw [htext, hjoin, Ne, String.append_right_inj]
      exact Value.trimEnd_sql_ne_iff.mpr (hlast _ List.getLast?_concat)

/-- Of the queries that can be made, only such updates end loose that have a last value. -/
theorem Reachable.endsLoose_iff {q : Query} (h : q.Reachable) :
    q.EndsLoose ↔ ∃ front column raw, q.BareUpdate (front ++ [(column, .raw raw)]) ∧ Text.trimEnd raw ≠ raw := by
  constructor
  · rintro ⟨as, hq, hlast⟩
    have hne : as ≠ [] := by
      obtain ⟨table, hs, -⟩ := hq
      exact (h.wellFormed.statement _ hs).2
    rcases List.eq_nil_or_concat as with rfl | ⟨front, ⟨column, v⟩, rfl⟩
    · exact absurd rfl hne
    · rw [List.concat_eq_append] at hq hlast
      obtain ⟨raw, rfl, hraw⟩ := hlast _ List.getLast?_concat
      exact ⟨front, column, raw, hq, hraw⟩
  · rintro ⟨front, column, raw, hq, hraw⟩
    refine ⟨_, hq, fun a ha => ?_⟩
    rw [List.getLast?_concat, Option.mem_some_iff] at ha
    exact ⟨raw, by rw [← ha], hraw⟩

end Query

/-! ## How many events -/

mutual

def Key.nodeCount : Key → Nat
  | .subquery query _ => query.nodeCount
  | .column .. | .aggregate .. | .fulltext .. => 0

def Key.nodeCountAll : List Key → Nat
  | [] => 0
  | key :: keys => key.nodeCount + Key.nodeCountAll keys

def Statement.nodeCount : Statement → Nat
  | .select _ keys => Key.nodeCountAll keys
  | .insert .. | .update .. | .delete _ | .truncate _ => 0

/-- How many queries there are: this one, and those it embeds at any depth. -/
def Query.nodeCount : Query → Nat
  | ⟨none, _, _, _, _, _⟩ => 1
  | ⟨some statement, _, _, _, _, _⟩ => statement.nodeCount + 1

end

theorem Key.nodeCountAll_eq_sum (keys : List Key) :
    nodeCountAll keys = ((keys.filterMap nested?).map Query.nodeCount).sum := by
  induction keys with
  | nil => rfl
  | cons k keys ih =>
    rw [nested_cons, List.map_append, List.sum_append_nat, nodeCountAll, ih]
    congr 1
    cases k with
    | subquery query name => simp [nodeCount, nested?]
    | column | aggregate | fulltext => rfl

namespace Query

theorem nodeCount_eq (q : Query) : q.nodeCount = (q.subqueries.map nodeCount).sum + 1 := by
  obtain ⟨_ | s, filters, joins, orders, limit, stored⟩ := q
  · rfl
  · rw [nodeCount]
    cases s with
    | select table keys =>
      rw [Statement.nodeCount, Key.nodeCountAll_eq_sum]
      rfl
    | insert | update | delete | truncate => rfl

/-! ## The log -/

/-- The log and the text of a query that renders to `sql`, said of its stages. -/
structure Written (q : Query) (sql : String) (s : Statement) (head limitSql : String) : Prop where
  hasStatement : q.statement = some s
  hasHead : s.render.outcome = .ok head
  hasLimit : Limit.clause q.limit = .ok limitSql
  logged : q.log = q.subqueries.flatMap log ++ stageEvents (q.stageTexts s head ++ [limitSql]) ++
    [.rendered s.kind s.table sql]
  levels : (stageEvents (q.stageTexts s head ++ [limitSql]) ++ [Event.rendered s.kind s.table sql]).map Event.level =
    [.trace, .trace, .trace, .trace, .trace, .debug]
  cut : sql ≠ spaced (q.stageTexts s head ++ [limitSql]) ↔ q.EndsLoose
  /-- What is cut is the white space at the end of the raw SQL, and no more. -/
  kept : ∀ front column raw, q.BareUpdate (front ++ [(column, .raw raw)]) →
    ∃ before, spaced (q.stageTexts s head ++ [limitSql]) = before ++ raw ∧ sql = before ++ Text.trimEnd raw

/-- The log of a query that fails with `e`: that of the queries before the one that fails and of that
one, or its own stages before the limit. -/
inductive Stopped (q : Query) (e : Error) : Prop
  | unstated : q.statement = none → e = .noStatement → q.log = [] → Stopped q e
  | nested {table : String} {before after : List Key} {n : Query} {name : String} :
      q.statement = some (.select table (before ++ .subquery n name :: after)) →
      (∀ p ∈ before.filterMap Key.nested?, p.Renders) → n.render = .error e →
      q.log = (before.filterMap Key.nested?).flatMap log ++ n.log → Stopped q e
  | unlimited {s : Statement} {head : String} : q.statement = some s → (∀ n ∈ q.subqueries, n.Renders) →
      s.render.outcome = .ok head → Limit.clause q.limit = .error e →
      q.log = q.subqueries.flatMap log ++ stageEvents (q.stageTexts s head) → Stopped q e

theorem exists_written {q : Query} {sql : String} (h : q.render = .ok sql) :
    ∃ s head limitSql, q.Written sql s head limitSql := by
  have hq := rendering_of_ok h
  generalize hlog : q.log = es at hq
  cases hq with
  | @finished s head limitSql hs _ hh hl =>
    refine ⟨s, head, limitSql, hs, hh, hl, hlog, rfl, joinStages_ne_iff hs hh hl, fun front column raw hb => ?_⟩
    exact hb.exists_text hs hh hl

theorem stopped_of_render {q : Query} {e : Error} (h : q.render = .error e) : q.Stopped e := by
  have hq := rendering_of_error h
  generalize hlog : q.log = es at hq
  cases hq with
  | unstated hs => exact .unstated hs rfl hlog
  | nested hs hb hn => exact .nested hs hb hn hlog
  | unlimited hs hn hh hl => exact .unlimited hs hn hh hl hlog

/-- Six events for each query, embedded or not. -/
theorem length_log {q : Query} (h : q.Renders) : q.log.length = 6 * q.nodeCount := by
  induction q using induct_subqueries with
  | step q ih =>
    obtain ⟨sql, hr⟩ := h
    obtain ⟨s, head, limitSql, hw⟩ := exists_written hr
    have hsub : (q.subqueries.map fun n => n.log.length) = q.subqueries.map fun n => 6 * n.nodeCount :=
      List.map_congr_left fun n hn => ih n hn (Renders.nested ⟨sql, hr⟩ hn)
    have hsix : (stageEvents (q.stageTexts s head ++ [limitSql]) ++
        [Event.rendered s.kind s.table sql]).length = 6 := rfl
    rw [hw.logged, List.append_assoc, List.length_append, hsix, List.length_flatMap, hsub,
      List.sum_map_mul_left q.subqueries nodeCount 6, nodeCount_eq, Nat.mul_add]

/-- Whether a query renders or not, its log and its text are those of its stages; only at the end of
raw SQL that ends an update can there be white space to cut. -/
theorem log_and_text_exact (q : Query) :
    (∀ sql, q.render = .ok sql → ∃ s head limitSql, q.Written sql s head limitSql) ∧
      (∀ e, q.render = .error e → q.Stopped e) ∧ (q.Renders → q.log.length = 6 * q.nodeCount) ∧
      (q.Reachable → (q.EndsLoose ↔
        ∃ front column raw, q.BareUpdate (front ++ [(column, .raw raw)]) ∧ Text.trimEnd raw ≠ raw)) :=
  ⟨fun _ => exists_written, fun _ => stopped_of_render, length_log, Reachable.endsLoose_iff⟩

/-- A select with two subqueries: three queries, eighteen events. -/
theorem log_and_text_exact_two_subqueries :
    let nested := Query.runActions ∅ [.call (.select "posts" ["id"] []), .call (.limit .firstPage)]
    let q := Query.runActions ∅ [.call (.select "users" ["id"] []), .call (.subquery nested "a"),
      .call (.subquery nested "b")]
    q.Renders ∧ (∃ sql s head limitSql, q.Written sql s head limitSql) ∧ q.log.length = 18 := by
  intro nested q
  obtain ⟨sql, hr⟩ : q.Renders := ⟨_, rfl⟩
  obtain ⟨hwritten, -, hlength, -⟩ := log_and_text_exact q
  exact ⟨⟨sql, hr⟩, ⟨sql, hwritten sql hr⟩, hlength ⟨sql, hr⟩⟩

/-- Raw SQL can end in white space, and then the text does not end as the stages do. -/
theorem render_cuts_raw :
    let q := Query.runActions ∅ [.call (.update "t" ["a"] [.raw "CURRENT_TIMESTAMP "])]
    q.Reachable ∧ ∃ sql s head limitSql, q.render = .ok sql ∧ q.statement = some s ∧ s.render.outcome = .ok head ∧
      Limit.clause q.limit = .ok limitSql ∧ sql ≠ spaced (q.stageTexts s head ++ [limitSql]) := by
  intro q
  have hq : q.Reachable := .runActions .empty fun a ha n h => by
    obtain rfl := List.mem_singleton.mp ha
    cases h
  have hs : q.statement = some (.update "t" [(.bare "a", .raw "CURRENT_TIMESTAMP ")]) := rfl
  have hr : q.render = .ok "UPDATE \x60t\x60 SET \x60a\x60=CURRENT_TIMESTAMP" := by decide +kernel
  refine ⟨hq, _, _, _, _, hr, hs, rfl, rfl, ?_⟩
  decide +kernel

end Query

end SqlClauses
