/-
  SqlClauses.Proofs.Null — null is the same thing wherever it is decided.

  It is decided three times, each time from the value alone: when a float is taken in, before the
  operator of a comparison is written, and when the literal behind it is. A value is null for all
  three or for none. So a float that is no number may as well have been null from the start, at
  whatever depth it stands and in whatever call it came; and of a comparison that is not with raw
  SQL, the operator can be told from the literal that is written behind it.

  Main statements: `Value.takenIn_alike`, taking a value in changes nothing that rendering asks;
  `Value.sql_eq_null_iff`, which literals are `NULL`; `Predicate.sql_compare`, the operator from
  the literal; `everywhere_exists_filter`, where the filters of all embedded queries are written;
  `null_decided_alike`, all of it.
-/

import SqlClauses.Proofs.Aliases
import SqlClauses.Proofs.Decoding
import SqlClauses.Proofs.Embedding
import SqlClauses.Proofs.Replacement

namespace SqlClauses

open Lexer Token

/-! ## Values -/

namespace Value

/-- A float becomes what it is taken in as, and any other value stays what it is. -/
def takenIn : Value → Value
  | .float x => ofDouble x
  | v => v

theorem takenIn_eq (v : Value) : v.takenIn = if v.isNull then .null else v := by
  cases v with
  | float x => cases hx : x.isFinite <;> simp [takenIn, ofDouble, isNull, hx]
  | _ => rfl

theorem takenIn_alike (v : Value) : v.takenIn.Alike v := by
  rw [takenIn_eq]
  cases hv : v.isNull with
  | true => exact ⟨(sql_of_isNull hv).symm, hv.symm⟩
  | false => exact ⟨rfl, rfl⟩

/-- What was taken in has a literal of its own if it is a float. -/
theorem isFinite_of_takenIn_eq {v : Value} {x : Double} (h : v.takenIn = .float x) : x.isFinite = true := by
  rw [takenIn_eq] at h
  split at h
  · cases h
  · next hv =>
    subst h
    simpa [isNull] using hv

variable {v : Value} (hv : ∀ raw, v ≠ .raw raw)
include hv

theorem null_mem_tokens_iff : word "NULL" ∈ v.tokens ↔ v.isNull = true := by
  rw [tokens_eq_singleton hv, List.mem_singleton, isNull_iff_normalForm]
  constructor
  · intro h
    exact ValueForm.token_inj (normalForm_ne_raw hv) nofun h.symm
  · intro h
    rw [h]
    rfl

/-- No number, no truth value and no text has the literal of null. -/
theorem sql_eq_null_iff : v.sql = "NULL" ↔ v.isNull = true := by
  constructor
  · intro h
    have hlex : lex v.sql = some v.tokens := (Value.reads fun raw hraw => absurd hraw (hv raw)).lex
    have hnull : lex "NULL" = some [word "NULL"] := (reads_word rfl).lex
    rw [h, hnull] at hlex
    rw [← null_mem_tokens_iff hv, ← Option.some.inj hlex]
    exact List.mem_singleton_self _
  · exact sql_of_isNull

end Value

/-! ## Comparisons -/

theorem word_not_mem_ofPath (w : String) (path : List String) : word w ∉ ofPath path := by
  cases path with
  | nil => exact List.not_mem_nil
  | cons name path => simp [ofPath_cons]

namespace Predicate

variable (column : Column) (operator : Operator) {v : Value} (hv : ∀ raw, v ≠ .raw raw)
include hv

/-- NULL is never part of a name or an operator, so where it is read it is the value. -/
theorem null_mem_tokens_compare_iff :
    word "NULL" ∈ (compare column operator v).tokens ↔ v.isNull = true := by
  have hoperator : word "NULL" ∉ operator.tokensAgainst v.isNull := fun h => by
    cases Operator.isOperatorPart_of_mem _ h
  show word "NULL" ∈ ofPath column.path ++ operator.tokensAgainst v.isNull ++ v.tokens ↔ _
  rw [List.mem_append, List.mem_append, Value.null_mem_tokens_iff hv]
  simp only [word_not_mem_ofPath, hoperator, false_or]

theorem reads_compare : Reads Breaks (compare column operator v).sql (compare column operator v).tokens := by
  refine Predicate.reads (fun raw h => ?_) (List.forall_mem_nil _)
  exact absurd (List.mem_singleton.mp h).symm (hv raw)

/-- The literal tells which operator stands before it. -/
theorem sql_compare :
    (compare column operator v).sql = column.quoted ++
      (if v.sql = "NULL" then " " ++ operator.sqlForNull ++ " NULL" else " " ++ operator.sql ++ " " ++ v.sql) := by
  have hnull : " NULL" = " " ++ "NULL" := rfl
  rw [sql]
  split
  · next h =>
    rw [if_pos (Value.sql_of_isNull h), Value.sql_of_isNull h, hnull]
    simp only [String.append_assoc]
  · next h =>
    rw [if_neg (mt (Value.sql_eq_null_iff hv).mp h)]
    simp only [String.append_assoc]

end Predicate

/-! ## Where they stand -/

/-- A stage that does not end in white space is in the text as it is. -/
theorem exists_joinStages_of_mem {texts : List String} {t : String} (ht : t ∈ texts) (h : Firm t) :
    ∃ lead rest, joinStages texts = lead ++ t ++ rest := by
  have hmem : t ∈ texts.filter fun s => !s.isEmpty := List.mem_filter.mpr ⟨ht, by simpa using h.ne_empty⟩
  obtain ⟨l, r, hl⟩ := List.append_of_mem hmem
  obtain ⟨lead, rest, hrest, -⟩ := exists_intercalate_append_cons " " l t r
  refine ⟨lead, Text.trimEnd rest, ?_⟩
  rw [joinStages_eq_trimEnd, spaced, hl, hrest, trimEnd_append_of_firm (h.append lead)]

namespace Filter

theorem breaks_linkedSql_close (fs : List Filter) (r : List Char) : Breaks ((linkedSql fs ++ ")").toList ++ r) := by
  rw [String.toList_append, List.append_assoc]
  exact breaks_linkedSql fs (breaks_append rfl r)

theorem exists_linkedSql_of_mem {fs : List Filter} {f : Filter} (h : f ∈ fs) :
    ∃ lead rest, linkedSql fs ++ ")" = lead ++ f.predicate.sql ++ rest ∧ ∀ r, Breaks (rest.toList ++ r) := by
  induction fs with
  | nil => cases h
  | cons g fs ih =>
    rcases List.mem_cons.mp h with rfl | h
    · refine ⟨separator f.link, linkedSql fs ++ ")", ?_, breaks_linkedSql_close fs⟩
      rw [linkedSql]
      simp only [String.append_assoc]
    · obtain ⟨lead, rest, hrest, hbreaks⟩ := ih h
      refine ⟨separator g.link ++ g.predicate.sql ++ lead, rest, ?_, hbreaks⟩
      rw [linkedSql, String.append_assoc, hrest]
      simp only [String.append_assoc]

/-- Behind each filter there is another one, or the last parenthesis. -/
theorem exists_clause_of_mem {fs : List Filter} {f : Filter} (h : f ∈ fs) :
    ∃ lead rest, clause fs = lead ++ f.predicate.sql ++ rest ∧ ∀ r, Breaks (rest.toList ++ r) := by
  cases fs with
  | nil => cases h
  | cons g fs =>
    rcases List.mem_cons.mp h with rfl | h
    · refine ⟨"WHERE (", linkedSql fs ++ ")", ?_, breaks_linkedSql_close fs⟩
      rw [clause_cons, String.append_assoc]
    · obtain ⟨lead, rest, hrest, hbreaks⟩ := exists_linkedSql_of_mem h
      refine ⟨"WHERE (" ++ g.predicate.sql ++ lead, rest, ?_, hbreaks⟩
      rw [clause_cons, String.append_assoc, hrest]
      simp only [String.append_assoc]

theorem firm_clause_of_mem {fs : List Filter} {f : Filter} (h : f ∈ fs) : Firm (clause fs) := by
  refine (firm_clause fs).resolve_left fun hempty => ?_
  obtain ⟨g, fs, rfl⟩ := List.exists_cons_of_ne_nil (List.ne_nil_of_mem h)
  simp [clause_cons] at hempty

end Filter

namespace Query

variable {q : Query} {sql : String}

theorem exists_text_of_filter {f : Filter} (hf : f ∈ q.filters) (hr : q.render = .ok sql) :
    ∃ lead rest, sql = lead ++ f.predicate.sql ++ rest ∧ ∀ r, Breaks (rest.toList ++ r) := by
  obtain ⟨s, head, limitSql, -, -, -, rfl⟩ := render_eq_ok_iff.mp hr
  have hmem : Filter.clause q.filters ∈
      [head, Join.clause s.table q.joins, Filter.clause q.filters, Order.clause q.orders, limitSql] := by simp
  obtain ⟨lead, rest, htext⟩ := exists_joinStages_of_mem hmem (Filter.firm_clause_of_mem hf)
  obtain ⟨lead', rest', hclause, hbreaks⟩ := Filter.exists_clause_of_mem hf
  refine ⟨lead ++ lead', rest' ++ rest, ?_, fun r => ?_⟩
  · rw [htext, hclause]
    simp only [String.append_assoc]
  · rw [String.toList_append, List.append_assoc]
    exact hbreaks _

/-- An embedded query is written as it is on its own. -/
theorem exists_text_of_subquery {n : Query} (hn : n ∈ q.subqueries) (hr : q.render = .ok sql) :
    ∃ nsql lead rest, n.render = .ok nsql ∧ sql = lead ++ nsql ++ rest := by
  obtain ⟨name, hk⟩ := exists_key_of_mem_subqueries hn
  obtain ⟨lead, item, rest, hitem, rfl, -⟩ := exists_text_of_key hk hr
  obtain ⟨nsql, hnsql, rfl⟩ := Key.render_subquery_eq_ok_iff.mp hitem
  refine ⟨nsql, lead ++ "(", ")" ++ nameSql name ++ rest, hnsql, ?_⟩
  simp only [String.append_assoc]

theorem everywhere_exists_text (hr : q.render = .ok sql) :
    q.Everywhere fun n => ∃ nsql lead rest, n.render = .ok nsql ∧ sql = lead ++ nsql ++ rest := by
  induction q using induct_subqueries generalizing sql with
  | step q ih =>
    refine .intro ⟨sql, "", "", hr, by simp⟩ fun n hn => ?_
    obtain ⟨nsql, lead, rest, hnsql, rfl⟩ := exists_text_of_subquery hn hr
    refine (ih n hn hnsql).mono fun m ⟨msql, lead', rest', hmsql, htext⟩ => ?_
    refine ⟨msql, lead ++ lead', rest' ++ rest, hmsql, ?_⟩
    rw [htext]
    simp only [String.append_assoc]

/-- Every filter there is, at whatever depth, is written, and ends before a space or a parenthesis. -/
theorem everywhere_exists_filter (hr : q.render = .ok sql) :
    q.Everywhere fun n => ∀ f ∈ n.filters,
      ∃ lead rest, sql = lead ++ f.predicate.sql ++ rest ∧ Breaks rest.toList := by
  refine (everywhere_exists_text hr).mono fun n ⟨nsql, lead, rest, hnsql, htext⟩ f hf => ?_
  obtain ⟨lead', rest', hfilter, hbreaks⟩ := exists_text_of_filter hf hnsql
  refine ⟨lead ++ lead', rest' ++ rest, ?_, ?_⟩
  · rw [htext, hfilter]
    simp only [String.append_assoc]
  · rw [String.toList_append]
    exact hbreaks _

/-! ## Taken in -/

theorem everywhere_isFinite_takenIn (q : Query) :
    (q.mapValues Value.takenIn).Everywhere fun n => ∀ x, .float x ∈ n.values → x.isFinite = true := by
  refine everywhere_mapValues_iff.mpr (everywhere_of_forall (fun n x hx => ?_) q)
  rw [values_mapValues] at hx
  obtain ⟨v, -, hv⟩ := List.mem_map.mp hx
  exact Value.isFinite_of_takenIn_eq hv

/-- Null is one thing. With every float taken in, wherever it stands, a query renders and logs as it
did, and it is the query that the same run makes of values that were taken in before. Unless a value
is raw SQL, its literal says whether it is null: in a comparison, wherever that is written, the word
NULL is read if the value is null, and only then, and there alone `=` and `!=` are written as IS and
IS NOT. -/
theorem null_decided_alike (q : Query) :
    ((q.mapValues Value.takenIn).render = q.render ∧ (q.mapValues Value.takenIn).log = q.log) ∧
      (∀ v : Value, v.takenIn = if v.isNull then .null else v) ∧
      ((q.mapValues Value.takenIn).Everywhere fun n => ∀ x, .float x ∈ n.values → x.isFinite = true) ∧
      (∀ as, (q.runActions as).mapValues Value.takenIn =
        (q.mapValues Value.takenIn).runActions (as.map (Action.mapValues Value.takenIn))) ∧
      (∀ sql, q.render = .ok sql → q.Everywhere fun n => ∀ f ∈ n.filters,
        ∃ lead rest, sql = lead ++ f.predicate.sql ++ rest ∧ Breaks rest.toList) ∧
      ∀ (column : Column) (v : Value), (∀ raw, v ≠ .raw raw) →
        (v.sql = "NULL" ↔ v.isNull = true) ∧
        (∀ operator, ∃ ts, Reads Breaks (Predicate.compare column operator v).sql ts ∧
          (word "NULL" ∈ ts ↔ v.isNull = true)) ∧
        (Predicate.compare column .eq v).sql =
          column.quoted ++ (if v.sql = "NULL" then " IS NULL" else " = " ++ v.sql) ∧
        (Predicate.compare column .ne v).sql =
          column.quoted ++ (if v.sql = "NULL" then " IS NOT NULL" else " != " ++ v.sql) := by
  have hlogged := renderLogged_mapValues Value.takenIn_alike q
  refine ⟨⟨congrArg Logged.outcome hlogged, congrArg Logged.events hlogged⟩, Value.takenIn_eq,
    q.everywhere_isFinite_takenIn, q.runActions_mapValues Value.takenIn_alike,
    fun sql hr => everywhere_exists_filter hr, fun column v hv => ⟨Value.sql_eq_null_iff hv, fun operator => ?_,
      Predicate.sql_compare column .eq hv, Predicate.sql_compare column .ne hv⟩⟩
  exact ⟨_, Predicate.reads_compare column operator hv, Predicate.null_mem_tokens_compare_iff column operator hv⟩

/-- A float that is no number in a subquery that was prepared, and around it a comparison with the text
that null is written as. -/
theorem null_decided_alike_in_subquery :
    let steps (v : Value) : List Action :=
      [.call (.select "b" [] []), .call (.compare .first (.bare "r") .ne v), .prepare]
    let nan := Value.float ⟨0x7ff8000000000000⟩
    let q := Query.runActions ∅ [.call (.select "a" ["id"] []), .call (.subquery (runActions ∅ (steps nan)) "n"),
      .call (.compare .first (.bare "s") .eq (.text "NULL"))]
    (runActions ∅ (steps nan)).values = [nan] ∧
      (runActions ∅ (steps nan)).mapValues Value.takenIn = runActions ∅ (steps .null) ∧
      (q.mapValues Value.takenIn).render = q.render ∧
      q.render = .ok ("SELECT \x60a\x60.\x60id\x60,(SELECT * FROM \x60b\x60 WHERE (\x60r\x60 IS NOT NULL)) " ++
        "AS \x60n\x60 FROM \x60a\x60 WHERE (\x60s\x60 = 'NULL')") ∧
      (Value.text "NULL").sql ≠ "NULL" := by
  intro steps nan q
  obtain ⟨-, -, -, hrun, -⟩ := null_decided_alike ∅
  obtain ⟨⟨hrender, -⟩, -, -, -, -, hcompare⟩ := null_decided_alike q
  obtain ⟨htext, -⟩ := hcompare (.bare "s") (.text "NULL") nofun
  refine ⟨rfl, hrun (steps nan), hrender, by decide +kernel, fun h => ?_⟩
  cases htext.mp h

end Query

end SqlClauses
