/-
  SqlClauses.Proofs.Phrases — the clauses of a query are phrases of the grammar.

  Each piece of a query gets one law, which names the category of its tokens. The law of a
  larger piece is put together from those of its parts; a WHERE clause is read from its first
  filter on, with the group that is still open kept apart from the groups before it. An
  embedded query is a piece of a select list if it is a select. The names in a piece must have
  no more parts than there is room for, and there must be no search.

  Raw SQL is written as it is. It is taken to be what it stands for, an operand (`Terse`).

  Main statements: `Predicate.phrase`, and `phrase_clause` for joins, filters, orders and
  limits; `Key.phrase_all`, a select list.
-/

import SqlClauses.Proofs.Decoding
import SqlClauses.Proofs.Spelling

namespace SqlClauses

open Grammar Token
open Identifier (segments)

/-! ## Names, values, predicates -/

theorem phrase_table {name : String} (h : (segments name).length ≤ 2) : Phrase .table (ofPath (segments name)) :=
  .table (segments_ne_nil name) h

theorem Reference.phrase {r : Reference} (h : r.path.length ≤ 3) : Phrase .column (ofPath r.path) :=
  .path r.path_ne_nil h

theorem Column.phrase {c : Column} (h : c.path.length ≤ 3) : Phrase .column (ofPath c.path) := .path c.path_ne_nil h

theorem phrase_nameTokens {name : String} (h : (segments name).length = 1) : Phrase .label (nameTokens name) := by
  obtain ⟨s, hs⟩ := List.length_eq_one_iff.mp h
  rw [nameTokens, hs]
  exact .label s

theorem Value.phrase {v : Value} (h : ∀ sql, v = .raw sql → Phrase .operand (ofPlain sql)) :
    Phrase .operand v.tokens := by
  have hnull : Phrase .operand [word "NULL"] := .constant (by decide)
  cases v with
  | null => exact hnull
  | bool b => cases b <;> exact .constant (by decide)
  | int n => exact .numeral (isNumeral_toString_int _)
  | uint n => exact .numeral (.inl (isUnsigned_toString _))
  | float x =>
    rw [tokens]
    split
    · exact .numeral (isNumeral_text x)
    · exact hnull
  | text s => exact .literal s
  | raw sql => exact h sql rfl

theorem Value.tokens_of_isNull {v : Value} (h : v.isNull = true) : v.tokens = [word "NULL"] := by
  rcases isNull_iff.mp h with rfl | ⟨x, rfl, hx⟩
  · rfl
  · simp [tokens, hx]

theorem Operator.phrase (op : Operator) : Phrase .comparison op.tokens := by
  cases op with
  | like => exact .like
  | notLike => exact .notLike
  | _ => exact .sign (by decide)

theorem Predicate.phrase {p : Predicate} (hv : ∀ sql, Value.raw sql ∈ p.values → Phrase .operand (ofPlain sql))
    (hp : ∀ path ∈ p.paths, path.length ≤ 3) (hs : p.searches = []) : Phrase .condition p.tokens := by
  cases p with
  | compare column operator value =>
    have hcolumn : Phrase .column (ofPath column.path) := Column.phrase (hp _ (List.mem_singleton_self _))
    have hvalue : Phrase .operand value.tokens := Value.phrase fun sql h => hv sql (List.mem_singleton.mpr h.symm)
    have hcompare : Phrase .condition (ofPath column.path ++ operator.tokens ++ value.tokens) :=
      .compare hcolumn operator.phrase hvalue
    rw [tokens]
    by_cases hnull : value.isNull = true
    · rw [if_pos hnull]
      cases operator with
      | eq =>
        rw [Value.tokens_of_isNull hnull]
        exact .isNull hcolumn
      | ne =>
        rw [Value.tokens_of_isNull hnull]
        exact .isNotNull hcolumn
      | _ => exact hcompare
    · rw [if_neg hnull]
      exact hcompare
  | between column lo hi =>
    have hcolumn : Phrase .column (ofPath column.path) := Column.phrase (hp _ (List.mem_singleton_self _))
    exact .between hcolumn (.numeral (isNumeral_toString_int _)) (.numeral (isNumeral_toString_int _))
  | search s => cases hs

/-! ## Clauses -/

theorem phrase_commas {c : Category} {items : List (List Token)} (hne : items ≠ []) (h : ∀ i ∈ items, Phrase c i) :
    Phrase (.list c) (commas items) := by
  induction items with
  | nil => exact absurd rfl hne
  | cons i items ih =>
    rw [List.forall_mem_cons] at h
    cases items with
    | nil =>
      rw [commas, List.intercalate_singleton]
      exact .one h.1
    | cons j items =>
      rw [commas, List.intercalate_cons_cons]
      exact .more h.1 (ih nofun h.2)

theorem phrase_optional_commas {c : Category} {items : List (List Token)} (h : ∀ i ∈ items, Phrase c i) :
    Phrase (.optional (.list c)) (commas items) := by
  cases items with
  | nil => exact .absent
  | cons i items => exact .present (phrase_commas nofun h)

theorem Join.phrase {base : String} {j : Join} (ht : (segments j.table).length ≤ 2)
    (hp : ∀ path ∈ j.paths base, path.length ≤ 3) : Phrase .join (tokens base j) := by
  have hside : j.side.sql ∈ sides := by cases j.side <;> decide
  have hkey : Phrase .column (ofPath (j.column.qualify j.table).path) :=
    Reference.phrase (hp _ (List.mem_cons_self ..))
  have htarget : Phrase .column (ofPath (j.target.qualify base).path) :=
    Reference.phrase (hp _ (List.mem_cons_of_mem _ (List.mem_singleton_self _)))
  exact .join hside (phrase_table ht) hkey j.operator.phrase htarget

theorem Join.phrase_clause {base : String} {js : List Join} (h : ∀ j ∈ js, Phrase .join (tokens base j)) :
    Phrase .joins (clauseTokens base js) := by
  induction js with
  | nil => exact .noJoin
  | cons j js ih =>
    rw [List.forall_mem_cons] at h
    exact .anotherJoin h.1 (ih h.2)

namespace Filter

/-- By induction on the filters that are left: `group` is the group that is still open, and `lead`,
which may stand before any condition, what comes before it. -/
theorem phrase_groups {fs : List Filter} (hlinks : ∀ f ∈ fs, f.link ≠ .first)
    (hfs : ∀ f ∈ fs, Phrase .condition f.predicate.tokens) {lead group : List Token}
    (hlead : ∀ ts, Phrase .condition ts → Phrase .condition (lead ++ ts)) (hgroup : Phrase .condition group) :
    Phrase .condition (lead ++ ([symbol "("] ++ (group ++ fs.flatMap tokens) ++ [symbol ")"])) := by
  induction fs generalizing lead group with
  | nil =>
    rw [List.flatMap_nil, List.append_nil]
    exact hlead _ (.group hgroup)
  | cons f fs ih =>
    rw [List.forall_mem_cons] at hlinks hfs
    obtain ⟨link, p⟩ := f
    cases link with
    | first => exact absurd rfl hlinks.1
    | and =>
      have hmore := ih hlinks.2 hfs.2 hlead (.and hgroup hfs.1)
      rw [List.flatMap_cons]
      simpa only [tokens, linkTokens, List.append_assoc] using hmore
    | or =>
      have hopen (ts : List Token) (hts : Phrase .condition ts) :
          Phrase .condition ((lead ++ ([symbol "("] ++ group ++ [symbol ")"]) ++ [word "OR"]) ++ ts) :=
        .or (hlead _ (.group hgroup)) hts
      have hmore := ih hlinks.2 hfs.2 hopen hfs.1
      rw [List.flatMap_cons]
      simpa only [tokens, linkTokens, List.append_assoc, List.cons_append, List.nil_append] using hmore

theorem phrase_clause {fs : List Filter} (hlinks : IsClause fs)
    (hfs : ∀ f ∈ fs, Phrase .condition f.predicate.tokens) : Phrase (.optional .filter) (clauseTokens fs) := by
  cases fs with
  | nil => exact .absent
  | cons f fs =>
    rw [List.forall_mem_cons] at hfs
    have hlead (ts : List Token) (h : Phrase .condition ts) : Phrase .condition ([] ++ ts) := h
    have hgroups := phrase_groups hlinks.2 hfs.2 hlead hfs.1
    rw [clauseTokens_cons hlinks.1]
    refine .present ?_
    simpa only [List.nil_append, List.append_assoc, List.cons_append] using Phrase.filter hgroups

end Filter

theorem Order.phrase_term {t : Column × Direction} (h : t.1.path.length ≤ 3) : Phrase .term (termTokens t) := by
  refine .term (Column.phrase h) ?_
  cases t.2 <;> decide

theorem Order.phrase_clause {os : List Order} (h : ∀ t ∈ os.flatMap (·.terms), t.1.path.length ≤ 3) :
    Phrase (.optional .order) (clauseTokens os) := by
  unfold clauseTokens
  generalize os.flatMap (·.terms) = ts at h
  cases ts with
  | nil => exact .absent
  | cons t ts =>
    refine .present (.order (phrase_commas nofun fun i hi => ?_))
    obtain ⟨u, hu, rfl⟩ := List.mem_map.mp hi
    exact phrase_term (h u hu)

theorem Limit.phrase_clause (l : Option Limit) : Phrase (.optional .page) (clauseTokens l) := by
  rcases l with _ | ⟨_ | offset, _ | amount⟩
  · exact .absent
  · exact .absent
  · exact .absent
  · exact .absent
  · exact .present (.page offset amount)

/-! ## Select lists -/

theorem Key.phrase {k : Key} (hp : ∀ path ∈ k.paths, path.length ≤ 3)
    (hname : ∀ name, k.name? = some name → (segments name).length = 1) (hs : k.searches = [])
    (hn : ∀ n, k.nested? = some n → Phrase (.statement .select) n.tokens) : Phrase .item k.tokens := by
  have hlabel (name : String) (h : k.name? = some name) : Phrase (.optional .label) (nameTokens name) :=
    .present (phrase_nameTokens (hname name h))
  cases k with
  | column ref name =>
    have href : Phrase .column (ofPath ref.path) := Reference.phrase (hp _ (List.mem_singleton_self _))
    rw [tokens]
    cases name with
    | none => exact .column href .absent
    | some name => exact .column href (hlabel name rfl)
  | aggregate f ref name =>
    have hf : f.sql ∈ aggregates := by cases f <;> decide
    have href : Phrase .column (ofPath ref.path) := Reference.phrase (hp _ (List.mem_singleton_self _))
    rw [tokens]
    exact .aggregate hf href (hlabel name rfl)
  | fulltext s name => cases hs
  | subquery n name =>
    rw [tokens]
    exact .nested (hn n rfl) (hlabel name rfl)

theorem Key.phrase_all {keys : List Key} (h : ∀ k ∈ keys, Phrase .item k.tokens) :
    Phrase .items (if keys.isEmpty then [symbol "*"] else commas (Key.tokensAll keys)) := by
  cases keys with
  | nil => exact .all
  | cons k keys =>
    refine .listed (phrase_commas nofun fun i hi => ?_)
    rw [tokensAll_eq_map] at hi
    obtain ⟨l, hl, rfl⟩ := List.mem_map.mp hi
    exact h l hl

/-! ## What is written as it is -/

namespace Query

variable {q : Query} {s : Statement}

/-- What is written as it is can be read, and a value that is written as it is stands for an operand. -/
structure Terse (q : Query) : Prop where
  plain : q.Plain
  raw : ∀ sql, Value.raw sql ∈ q.values → Phrase .operand (ofPlain sql)

theorem terse_of_nil (hv : q.values = []) (hs : q.searches = []) : q.Terse where
  plain := ⟨by simp [hv], by simp [hs]⟩
  raw := by simp [hv]

theorem Terse.phrase_predicate (h : q.Terse) (hw : q.WellSpelled) (hs : q.statement = some s) {f : Filter}
    (hf : f ∈ q.filters) : Phrase .condition f.predicate.tokens := by
  obtain ⟨-, -, hpaths, -⟩ := (forall_paths_iff hs).mp hw.paths
  refine Predicate.phrase (fun sql hm => h.raw sql ?_) (hpaths f hf) (hw.searches_predicate hf)
  exact List.mem_append_right _ (List.mem_flatMap.mpr ⟨f, hf, hm⟩)

theorem Terse.phrase_value (h : q.Terse) (hs : q.statement = some s) {v : Value} (hv : v ∈ s.values) :
    Phrase .operand v.tokens := by
  refine Value.phrase fun sql hsql => h.raw sql ?_
  simp only [values, hs]
  exact List.mem_append_left _ (hsql ▸ hv)

theorem WellSpelled.phrase_key (h : q.WellSpelled) {table : String} {keys : List Key}
    (hs : q.statement = some (.select table keys)) (hn : ∀ n ∈ q.subqueries, Phrase (.statement .select) n.tokens)
    {k : Key} (hk : k ∈ keys) : Phrase .item k.tokens := by
  have hkeys : k ∈ q.keys := by rwa [Query.keys, hs]
  obtain ⟨hpaths, -⟩ := (forall_paths_iff hs).mp h.paths
  refine Key.phrase (fun path hp => ?_) (fun name hname => ?_) (h.searches_key hkeys) fun n hkn => ?_
  · exact hpaths path (List.mem_flatMap.mpr ⟨k, hk, hp⟩)
  · exact h.names name (List.mem_filterMap.mpr ⟨k, hkeys, hname⟩)
  · exact hn n (mem_subqueries_of_mem_keys hs hk hkn)

theorem WellSpelled.phrase_joins (h : q.WellSpelled) (hs : q.statement = some s) :
    Phrase .joins (Join.clauseTokens s.table q.joins) := by
  obtain ⟨-, hpaths, -⟩ := (forall_paths_iff hs).mp h.paths
  refine Join.phrase_clause fun j hj => Join.phrase (h.tables j.table ?_) (hpaths j hj)
  exact List.mem_append_right _ (List.mem_map_of_mem hj)

end Query

end SqlClauses
