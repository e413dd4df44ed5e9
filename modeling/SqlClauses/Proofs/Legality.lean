/-
  SqlClauses.Proofs.Legality — when a rendered query is a statement of its kind.

  Clauses are added in any order and to any head, and rendering writes all of them. So
  whether the SQL is a statement is seen from the query as a whole: each clause that it
  writes must be one that its kind takes, and what it embeds, at any depth, must be selects.
  Names must have no more parts than there is room for, and there must be no search, at any
  depth again. That is enough, whatever values, filters and orders there are. Where it fails
  the SQL is no statement of any kind: the words of a clause stand in it and cannot be part of
  anything else, and for a part of a name too many there is never room.

  Main statements: `phrase_of_takes`, a query whose clauses its kind takes;
  `takes_of_phrase` and `embeds_selects`, what a statement holds; `phrase_tokens_iff`, both;
  `Reachable.statement_iff_legal`, the same of the text, for every query there is.
-/

import SqlClauses.Proofs.Failure
import SqlClauses.Proofs.Phrases
import SqlClauses.Proofs.Unambiguous

namespace SqlClauses

open Grammar Lexer Token

/-! ## What a kind takes -/

def StatementKind.takes : StatementKind → Stage → Bool
  | _, .head => true
  | .select, _ => true
  | .update, stage | .delete, stage => stage = .filter ∨ stage = .order
  | .insert, _ | .truncate, _ => false

/-- The word by which a clause is known. The head has no such word of its own. -/
def Stage.mark? : Stage → Option String
  | .head => none
  | .join => some "JOIN"
  | .filter => some "WHERE"
  | .order => some "ORDER"
  | .limit => some "LIMIT"

namespace Query

/-- Whether the query writes something at a stage. -/
def Writes (q : Query) : Stage → Prop
  | .head => q.statement ≠ none
  | .join => q.joins ≠ []
  | .filter => q.filters ≠ []
  | .order => q.orders.flatMap (·.terms) ≠ []
  | .limit => ∃ offset amount, q.limit = some ⟨some offset, some amount⟩

def IsSelect (q : Query) : Prop := ∃ s, q.statement = some s ∧ s.kind = .select

structure Legal (q : Query) : Prop where
  takes : ∀ s, q.statement = some s → ∀ stage, q.Writes stage → s.kind.takes stage = true
  embeds : ∀ n ∈ q.subqueries, n.Everywhere IsSelect
  spelled : q.Everywhere WellSpelled

end Query

/-! ## Statements -/

namespace Query

variable {q : Query} {s : Statement}

theorem joinTokens_of_not_writes (h : ¬ q.Writes .join) (base : String) : Join.clauseTokens base q.joins = [] := by
  rw [show q.joins = [] from Classical.not_not.mp h]
  rfl

theorem filterTokens_of_not_writes (h : ¬ q.Writes .filter) : Filter.clauseTokens q.filters = [] := by
  rw [show q.filters = [] from Classical.not_not.mp h]
  rfl

theorem orderTokens_of_not_writes (h : ¬ q.Writes .order) : Order.clauseTokens q.orders = [] := by
  rw [Order.clauseTokens, show q.orders.flatMap (·.terms) = [] from Classical.not_not.mp h]
  rfl

theorem limitTokens_of_not_writes (h : ¬ q.Writes .limit) : Limit.clauseTokens q.limit = [] := by
  cases hl : q.limit with
  | none => rfl
  | some l =>
    rcases l with ⟨_ | offset, _ | amount⟩
    · rfl
    · rfl
    · rfl
    · exact absurd ⟨offset, amount, hl⟩ h

/-- A query whose clauses its kind takes is a statement of that kind. -/
theorem phrase_of_takes (hs : q.statement = some s) (hw : q.WellFormed) (ht : q.Terse) (hl : q.WellSpelled)
    (htakes : ∀ stage, q.Writes stage → s.kind.takes stage = true)
    (hn : ∀ n ∈ q.subqueries, Phrase (.statement .select) n.tokens) : Phrase (.statement s.kind) q.tokens := by
  have hfilter := Filter.phrase_clause hw.links fun f hf => ht.phrase_predicate hl hs hf
  obtain ⟨hpaths, -, -, hterms⟩ := (forall_paths_iff hs).mp hl.paths
  have horder := Order.phrase_clause hterms
  have htable := phrase_table (hl.table hs)
  -- a clause that the kind does not take is not written, so its tokens are none
  have hnot (stage : Stage) (h : s.kind.takes stage = false) : ¬ q.Writes stage := by
    intro hwrites
    rw [htakes stage hwrites] at h
    cases h
  rw [tokens_of_statement hs]
  cases s with
  | select table keys =>
    have hitems := Key.phrase_all fun k hk => hl.phrase_key hs hn hk
    rw [Statement.tokens]
    exact .select hitems htable (hl.phrase_joins hs) hfilter horder (Limit.phrase_clause q.limit)
  | insert table columns values =>
    have hcolumns : Phrase (.optional (.list .column)) (commas (columns.map fun c => ofPath c.path)) := by
      refine phrase_optional_commas fun i hi => ?_
      obtain ⟨c, hc, rfl⟩ := List.mem_map.mp hi
      exact Column.phrase (hpaths _ (List.mem_map_of_mem hc))
    have hvalues : Phrase (.optional (.list .operand)) (commas (values.map Value.tokens)) := by
      refine phrase_optional_commas fun i hi => ?_
      obtain ⟨v, hv, rfl⟩ := List.mem_map.mp hi
      exact ht.phrase_value hs hv
    rw [joinTokens_of_not_writes (hnot .join rfl), filterTokens_of_not_writes (hnot .filter rfl),
      orderTokens_of_not_writes (hnot .order rfl), limitTokens_of_not_writes (hnot .limit rfl), Statement.tokens]
    simp only [List.append_nil]
    exact .insert htable hcolumns hvalues
  | update table assignments =>
    obtain ⟨-, hne⟩ := hw.statement _ hs
    have hset : Phrase (.list .assignment)
        (commas (assignments.map fun a => ofPath a.1.path ++ [symbol "="] ++ a.2.tokens)) := by
      refine phrase_commas (by simpa using hne) fun i hi => ?_
      obtain ⟨a, ha, rfl⟩ := List.mem_map.mp hi
      have hcolumn : a.1.path.length ≤ 3 := hpaths _ (List.mem_map_of_mem ha)
      exact .assignment (Column.phrase hcolumn) (ht.phrase_value hs (List.mem_map_of_mem ha))
    rw [joinTokens_of_not_writes (hnot .join rfl), List.append_nil, limitTokens_of_not_writes (hnot .limit rfl),
      Statement.tokens]
    exact .update htable hset hfilter horder .absent
  | delete table =>
    rw [joinTokens_of_not_writes (hnot .join rfl), List.append_nil, limitTokens_of_not_writes (hnot .limit rfl),
      Statement.tokens]
    exact .delete htable hfilter horder .absent
  | truncate table =>
    rw [joinTokens_of_not_writes (hnot .join rfl), filterTokens_of_not_writes (hnot .filter rfl),
      orderTokens_of_not_writes (hnot .order rfl), limitTokens_of_not_writes (hnot .limit rfl), Statement.tokens]
    simp only [List.append_nil]
    exact .truncate htable

theorem phrase_of_everywhere_isSelect
    (h : q.Everywhere fun q => ((q.WellFormed ∧ q.Terse) ∧ q.WellSpelled) ∧ q.IsSelect) :
    Phrase (.statement .select) q.tokens := by
  induction h with
  | intro hq _ ih =>
    obtain ⟨⟨⟨hw, ht⟩, hl⟩, s, hs, hk⟩ := hq
    rw [← hk]
    refine phrase_of_takes hs hw ht hl (fun stage _ => ?_) ih
    rw [hk]
    cases stage <;> rfl

theorem Legal.phrase (h : q.Legal) (hq : q.Everywhere fun q => q.WellFormed ∧ q.Terse) (hs : q.statement = some s) :
    Phrase (.statement s.kind) q.tokens := by
  obtain ⟨hw, ht⟩ := hq.here
  exact phrase_of_takes hs hw ht h.spelled.here (h.takes s hs) fun n hn =>
    phrase_of_everywhere_isSelect (((hq.nested hn).and (h.spelled.nested hn)).and (h.embeds n hn))

/-! ## What a statement holds -/

theorem mark_mem_of_writes (hs : q.statement = some s) (hw : q.WellFormed) {stage : Stage} (h : q.Writes stage)
    {w : String} (hmark : stage.mark? = some w) : word w ∈ q.tokens := by
  rw [tokens_of_statement hs]
  simp only [List.mem_append]
  cases stage with
  | head => cases hmark
  | join =>
    cases hmark
    obtain ⟨j, js, hj⟩ := List.exists_cons_of_ne_nil h
    have hjoin : word "JOIN" ∈ Join.clauseTokens s.table q.joins := by
      rw [hj]
      exact List.mem_append_left _ (List.mem_cons_of_mem _ (List.mem_cons_self ..))
    exact .inl (.inl (.inl (.inr hjoin)))
  | filter =>
    cases hmark
    obtain ⟨f, fs, hf⟩ := List.exists_cons_of_ne_nil h
    have hlinks := hw.links
    rw [hf] at hlinks
    have hwhere : word "WHERE" ∈ Filter.clauseTokens q.filters := by
      rw [hf, Filter.clauseTokens_cons hlinks.1]
      exact List.mem_cons_self ..
    exact .inl (.inl (.inr hwhere))
  | order =>
    cases hmark
    obtain ⟨t, ts, ht⟩ := List.exists_cons_of_ne_nil h
    have horder : word "ORDER" ∈ Order.clauseTokens q.orders := by
      rw [Order.clauseTokens, ht]
      exact List.mem_cons_self ..
    exact .inl (.inr horder)
  | limit =>
    cases hmark
    obtain ⟨offset, amount, hl⟩ := h
    rw [hl]
    exact .inr (List.mem_cons_self ..)

/-- The limit of an update or a delete would be one number; what is written has two. -/
theorem not_writes_limit (hs : q.statement = some s) (hk : s.kind = .update ∨ s.kind = .delete)
    (h : Phrase (.statement s.kind) q.tokens) : ¬ q.Writes .limit := by
  intro ⟨offset, amount, hl⟩
  have htokens : ∃ ts n, q.tokens = ts ++ [symbol ",", number n] := by
    have hlimit : Limit.clauseTokens q.limit =
        [word "LIMIT", number (toString offset.toNat)] ++ [symbol ",", number (toString amount.toNat)] := by
      rw [hl]
      rfl
    rw [tokens_of_statement hs, hlimit, ← List.append_assoc]
    exact ⟨_, _, rfl⟩
  have hmem : word "LIMIT" ∈ q.tokens := by
    rw [tokens_of_statement hs, hl]
    exact List.mem_append_right _ (List.mem_cons_self ..)
  obtain ⟨ts, n, hts⟩ := htokens
  obtain ⟨us, m, hus⟩ := h.ends_with_count hk hmem
  have hend := (List.append_inj' (hts.symm.trans hus) rfl).2
  cases hend

/-- The marks of a kind are those of the clauses that it takes; two kinds have a LIMIT of their own. -/
theorem takes_of_mark_mem {kind : StatementKind} {stage : Stage} {w : String} (hmark : stage.mark? = some w)
    (h : w ∈ (Category.statement kind).marks) :
    kind.takes stage = true ∨ stage = .limit ∧ (kind = .update ∨ kind = .delete) := by
  cases stage <;> cases hmark <;> cases kind <;> revert h <;> decide

theorem takes_of_phrase (hs : q.statement = some s) (hw : q.WellFormed) (h : Phrase (.statement s.kind) q.tokens)
    {stage : Stage} (hwrites : q.Writes stage) : s.kind.takes stage = true := by
  cases hmark : stage.mark? with
  | none =>
    cases stage with
    | head => cases s.kind <;> rfl
    | _ => cases hmark
  | some w =>
    have hwm : w ∈ marks := by cases stage <;> cases hmark <;> decide
    have hkind := h.marked w hwm (mark_mem_of_writes hs hw hwrites hmark)
    rcases takes_of_mark_mem hmark hkind with htakes | ⟨rfl, hk⟩
    · exact htakes
    · exact absurd hwrites (not_writes_limit hs hk h)

/-- The first word of a statement that is not a select. -/
theorem kind_text_mem_marks {kind : StatementKind} (h : kind ≠ .select) :
    kind.text ∈ marks ∧ kind.text ∉ (Category.statement .select).marks := by
  cases kind with
  | select => exact absurd rfl h
  | _ => decide

/-- Whatever is embedded in a select, at any depth, begins with SELECT. -/
theorem everywhere_isSelect {n : Query} (h : n.Everywhere Renders) {ts : List Token} (hsub : n.tokens ⊆ ts)
    (hts : Phrase (.statement .select) ts) : n.Everywhere IsSelect := by
  -- `ts` stays the outermost select: what stands in an embedded query, however deep, stands in it too
  induction h with
  | @intro n hn _ ih =>
    refine .intro ?_ fun m hm => ih m hm fun t ht => hsub ((infix_subquery hm).subset ht)
    obtain ⟨s, hs⟩ := Option.ne_none_iff_exists'.mp (Renders.complete hn).statement
    refine ⟨s, hs, Classical.byContradiction fun hk => ?_⟩
    obtain ⟨hmark, hnot⟩ := kind_text_mem_marks hk
    obtain ⟨us, hus⟩ := s.exists_tokens
    have hmem : word s.kind.text ∈ n.tokens := by
      rw [tokens_of_statement hs, hus]
      simp
    exact hnot (hts.marked _ hmark (hsub hmem))

theorem embeds_selects (hs : q.statement = some s) (hr : q.Renders) (h : Phrase (.statement s.kind) q.tokens) :
    ∀ n ∈ q.subqueries, n.Everywhere IsSelect := by
  intro n hn
  have hk : s.kind = .select := by
    rw [subqueries_of_statement hs] at hn
    cases s with
    | select => rfl
    | _ => cases hn
  rw [hk] at h
  exact everywhere_isSelect (hr.everywhere.nested hn) (infix_subquery hn).subset h

/-- The tokens of a query make up a statement of its own kind if the query is legal, and no
statement of any kind if it is not. -/
theorem phrase_tokens_iff (hq : q.Everywhere fun q => q.WellFormed ∧ q.Terse) (hr : q.Renders)
    (hs : q.statement = some s) (kind : StatementKind) :
    Phrase (.statement kind) q.tokens ↔ kind = s.kind ∧ q.Legal := by
  constructor
  · intro h
    obtain ⟨ts, hts⟩ := s.exists_tokens
    have hhead : q.tokens.head? = some (word s.kind.text) := by
      rw [tokens_of_statement hs, hts]
      rfl
    obtain rfl : kind = s.kind := StatementKind.text_inj (word.inj (Option.some.inj (h.head_statement.symm.trans hhead)))
    refine ⟨rfl, ?_, embeds_selects hs hr h, everywhere_wellSpelled hr.everywhere (h.fits.mono (Nat.zero_le _))⟩
    intro s' hs' stage hwrites
    obtain rfl : s = s' := Option.some.inj (hs.symm.trans hs')
    exact takes_of_phrase hs hq.here.1 h hwrites
  · rintro ⟨rfl, h⟩
    exact h.phrase hq hs

/-- Whatever calls a query was made by, its SQL is a statement of its kind exactly if the kind takes
every clause that is written and, at any depth, whatever is embedded is a select, no name has more
parts than there is room for and nothing is searched for; otherwise it is no statement at all.
Rendering does not fail for any of these reasons. -/
theorem Reachable.statement_iff_legal (h : q.Reachable) (ht : q.Everywhere Terse) {sql : String}
    (hr : q.render = .ok sql) :
    ∃ s ts, q.statement = some s ∧ lex sql = some ts ∧
      ∀ kind, Phrase (.statement kind) ts ↔ kind = s.kind ∧ q.Legal := by
  have hw : q.Everywhere WellFormed := h.everywhere.mono fun _ => Reachable.wellFormed
  have hplain := (reads_render (hw.and (ht.mono fun _ => Terse.plain)) hr).lex
  obtain ⟨s, hs⟩ := Option.ne_none_iff_exists'.mp (Renders.complete ⟨sql, hr⟩).statement
  exact ⟨s, q.tokens, hs, hplain, phrase_tokens_iff (hw.and ht) ⟨sql, hr⟩ hs⟩

/-- A select with a count of another table in its list, joined before it was opened. -/
theorem statement_iff_legal_select :
    let nested := Query.runActions ∅ [.call (.aggregate .count "posts" "id" "n")]
    let q := Query.runActions ∅ [.call (.join .left "posts" "user_id" (.bare "id") .eq), .call (.select "users" ["id"] []),
      .call (.subquery nested "posts"), .call (.compare .first (.bare "at") .lt .now), .call (.limit .firstPage)]
    ∃ sql ts, q.render = .ok sql ∧ lex sql = some ts ∧ Phrase (.statement .select) ts := by
  intro nested q
  have hn : nested.Reachable := reachable_runActions (by decide)
  have hq : q.Reachable := .runActions .empty fun a ha n h => by
    simp only [List.mem_cons, List.not_mem_nil, or_false] at ha
    rcases ha with rfl | rfl | rfl | rfl | rfl
    · cases h
    · cases h
    · cases h
      exact hn
    · cases h
    · cases h
  have hnt : nested.Everywhere Terse := .intro (terse_of_nil rfl rfl) (List.forall_mem_nil _)
  have hraw (sql : String) (h : Value.raw sql ∈ q.values) : sql = "CURRENT_TIMESTAMP" := by
    have h : Value.raw sql ∈ [Value.now] := h
    simpa [Value.now] using h
  have ht : q.Everywhere Terse := by
    refine .intro ⟨⟨fun sql h => ?_, List.forall_mem_nil _⟩, fun sql h => ?_⟩ fun n hm => ?_
    · rw [hraw sql h]
      decide
    · rw [hraw sql h]
      exact .constant (by decide)
    · obtain rfl : n = nested := List.mem_singleton.mp hm
      exact hnt
  have hlegal : q.Legal := by
    refine ⟨fun s hs stage _ => ?_, fun n hm => ?_, .intro (by decide +kernel) fun n hm => ?_⟩
    · cases hs
      cases stage <;> rfl
    · obtain rfl : n = nested := List.mem_singleton.mp hm
      exact .intro ⟨_, rfl, rfl⟩ (List.forall_mem_nil _)
    · obtain rfl : n = nested := List.mem_singleton.mp hm
      exact .intro (by decide +kernel) (List.forall_mem_nil _)
  have hr : ∃ sql, q.render = .ok sql := ⟨_, rfl⟩
  obtain ⟨sql, hr⟩ := hr
  obtain ⟨s, ts, hs, hlex, hiff⟩ := Reachable.statement_iff_legal hq ht hr
  cases hs
  exact ⟨sql, ts, hr, hlex, (hiff .select).mpr ⟨rfl, hlegal⟩⟩

/-- A delete with a join renders, and is no statement. -/
theorem delete_renders_join :
    let q := Query.runActions ∅ [.call (.delete "a"), .call (.join .left "b" "id" (.bare "id") .eq)]
    let sql := "DELETE FROM \x60a\x60 LEFT JOIN \x60b\x60 ON \x60b\x60.\x60id\x60 = \x60a\x60.\x60id\x60"
    q.Reachable ∧ q.render = .ok sql ∧ ∃ ts, lex sql = some ts ∧ ∀ kind, ¬ Phrase (.statement kind) ts := by
  intro q sql
  have hq : q.Reachable := reachable_runActions (by decide)
  have hr : q.render = .ok sql := by decide +kernel
  have ht : q.Everywhere Terse := .intro (terse_of_nil rfl rfl) (List.forall_mem_nil _)
  have hw : q.Everywhere WellFormed := hq.everywhere.mono fun _ => Reachable.wellFormed
  have hillegal : ¬ q.Legal := fun h => by cases h.takes _ rfl .join nofun
  have hlex := (reads_render (hw.and (ht.mono fun _ => Terse.plain)) hr).lex
  refine ⟨hq, hr, q.tokens, hlex, fun kind h => ?_⟩
  exact hillegal ((phrase_tokens_iff (hw.and ht) ⟨sql, hr⟩ rfl kind).mp h).2

end Query

end SqlClauses
