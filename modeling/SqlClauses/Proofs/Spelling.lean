/-
  SqlClauses.Proofs.Spelling — the names that a query writes, and whether they fit.

  A name is cut at its dots wherever it is written: as a table, as a column, as what a result
  is renamed to. No call counts the parts. So a table may come to more than two of them, a
  column to more than three, and a new name to more than the one that there is room for. A
  search leaves no room for its text, since the parenthesis after AGAINST is not written.

  Each piece of a query stands in its tokens as it is, an embedded query included. So what fits
  as a whole is well spelled, however deep.

  Main statements: `infix_key`, `infix_subquery` and those beside them, the pieces of a query;
  `wellSpelled_of_fits`, one query; `everywhere_wellSpelled`, all that it embeds.
-/

import SqlClauses.Proofs.Aliases
import SqlClauses.Proofs.Embedding
import SqlClauses.Proofs.Failure
import SqlClauses.Proofs.Grammar
import SqlClauses.Proofs.Names

namespace SqlClauses

open Identifier (segments)
open Lexer Token

/-! ## The columns that are written -/

def Predicate.paths (p : Predicate) : List (List String) := p.column?.toList.map Column.path

/-- Both columns with their tables. -/
def Join.paths (base : String) (j : Join) : List (List String) :=
  [(j.column.qualify j.table).path, (j.target.qualify base).path]

def Key.paths (k : Key) : List (List String) := k.reference.toList.map Reference.path

def Statement.paths : Statement → List (List String)
  | .select _ keys => keys.flatMap Key.paths
  | .insert _ columns _ => columns.map Column.path
  | .update _ assignments => assignments.map (·.1.path)
  | .delete _ | .truncate _ => []

namespace Query

/-- The columns that the query itself writes, part by part. -/
def paths (q : Query) : List (List String) :=
  q.statement.elim [] fun s => s.paths ++ q.joins.flatMap (Join.paths s.table) ++
    q.filters.flatMap (·.predicate.paths) ++ (q.orders.flatMap (·.terms)).map (·.1.path)

/-- There is no search, and no name has more parts than there is room for. -/
structure WellSpelled (q : Query) : Prop where
  searches : q.searches = []
  names : ∀ name ∈ q.names, (segments name).length = 1
  tables : ∀ table ∈ q.tables, (segments table).length ≤ 2
  paths : ∀ path ∈ q.paths, path.length ≤ 3

instance (q : Query) : Decidable q.WellSpelled :=
  decidable_of_iff (q.searches = [] ∧ (∀ name ∈ q.names, (segments name).length = 1) ∧
      (∀ table ∈ q.tables, (segments table).length ≤ 2) ∧ ∀ path ∈ q.paths, path.length ≤ 3)
    ⟨fun ⟨hs, hn, ht, hp⟩ => ⟨hs, hn, ht, hp⟩, fun h => ⟨h.searches, h.names, h.tables, h.paths⟩⟩

end Query

/-! ## Names in the pieces of a query -/

theorem Predicate.infix_path {p : Predicate} {path : List String} (h : path ∈ p.paths) : ofPath path <:+: p.tokens := by
  cases p with
  | compare column operator value =>
    cases List.mem_singleton.mp h
    rw [tokens, List.append_assoc]
    exact List.infix_append_left
  | between column lo hi =>
    cases List.mem_singleton.mp h
    simp only [tokens, List.append_assoc]
    exact List.infix_append_left
  | search s => cases h

/-- What a search is matched against stands behind AGAINST, with no parenthesis between them. -/
theorem Search.not_fits (s : Search) : ¬ Fits 3 s.tokens := by
  have hinfix : [word "AGAINST", string s.against] <:+: s.tokens := by
    refine ⟨[word "MATCH", symbol "("] ++ ofPlain s.index ++ [symbol ")"], s.mode.tokens, ?_⟩
    rw [tokens]
    simp only [List.append_assoc, List.cons_append, List.nil_append]
  intro h
  exact absurd ((h.middle hinfix).2.1 rfl) (by decide)

theorem Join.infix_table (base : String) (j : Join) : word "JOIN" :: ofPath (segments j.table) <:+: j.tokens base := by
  simp only [tokens, List.append_assoc]
  exact ⟨[word j.side.sql], _, rfl⟩

theorem Join.infix_path {base : String} {j : Join} {path : List String} (h : path ∈ j.paths base) :
    ofPath path <:+: j.tokens base := by
  rw [tokens]
  rcases List.mem_cons.mp h with rfl | h
  · exact List.infix_append_of_infix_left (List.infix_append ..)
  · cases List.mem_singleton.mp h
    exact List.infix_append_right

theorem Key.infix_path {k : Key} {path : List String} (h : path ∈ k.paths) : ofPath path <:+: k.tokens := by
  cases k with
  | column ref name =>
    cases List.mem_singleton.mp h
    rw [tokens]
    exact List.infix_append_left
  | aggregate f ref name =>
    cases List.mem_singleton.mp h
    rw [tokens]
    exact List.infix_append_of_infix_left (List.infix_append ..)
  | fulltext | subquery => cases h

theorem Key.infix_name {k : Key} {name : String} (h : k.name? = some name) : nameTokens name <:+: k.tokens := by
  cases k with
  | column | aggregate | fulltext | subquery =>
    cases h
    rw [tokens]
    exact List.infix_append_right

namespace Statement

theorem exists_infix_table (s : Statement) : ∃ w ∈ tableWords, word w :: ofPath (segments s.table) <:+: s.tokens := by
  cases s with
  | select table keys =>
    refine ⟨"FROM", by decide, ?_⟩
    rw [tokens, List.append_assoc]
    exact List.infix_append_right
  | insert table columns values =>
    refine ⟨"INTO", by decide, ?_⟩
    simp only [tokens, List.append_assoc]
    exact ⟨[word "INSERT"], _, rfl⟩
  | update table assignments =>
    refine ⟨"UPDATE", by decide, ?_⟩
    simp only [tokens, List.append_assoc]
    exact ⟨[], _, rfl⟩
  | delete table => exact ⟨"FROM", by decide, (List.suffix_cons ..).isInfix⟩
  | truncate table => exact ⟨"TRUNCATE", by decide, List.infix_refl _⟩

theorem infix_key {table : String} {keys : List Key} {k : Key} (hk : k ∈ keys) :
    k.tokens <:+: (select table keys).tokens := by
  have hne : keys.isEmpty = false := List.isEmpty_eq_false_iff.mpr (List.ne_nil_of_mem hk)
  have hitems : k.tokens <:+: commas (Key.tokensAll keys) := by
    rw [Key.tokensAll_eq_map]
    exact infix_intercalate (List.mem_map_of_mem hk)
  refine hitems.trans ?_
  rw [tokens, hne, List.append_assoc]
  exact List.infix_append ..

theorem infix_path {s : Statement} {path : List String} (h : path ∈ s.paths) : ofPath path <:+: s.tokens := by
  cases s with
  | select table keys =>
    obtain ⟨k, hk, hp⟩ := List.mem_flatMap.mp h
    exact (Key.infix_path hp).trans (infix_key hk)
  | insert table columns values =>
    obtain ⟨c, hc, rfl⟩ := List.mem_map.mp h
    have hcolumns : ofPath c.path <:+: commas (columns.map fun c => ofPath c.path) :=
      infix_intercalate (List.mem_map_of_mem hc)
    refine hcolumns.trans ?_
    rw [tokens]
    exact List.infix_append_of_infix_left (List.infix_append_of_infix_left (List.infix_append ..))
  | update table assignments =>
    obtain ⟨a, ha, rfl⟩ := List.mem_map.mp h
    have hset : ofPath a.1.path ++ [symbol "="] ++ a.2.tokens <:+:
        commas (assignments.map fun a => ofPath a.1.path ++ [symbol "="] ++ a.2.tokens) :=
      infix_intercalate (List.mem_map_of_mem ha)
    rw [tokens]
    refine List.infix_append_of_infix_right (List.IsInfix.trans ?_ hset)
    rw [List.append_assoc]
    exact List.infix_append_left
  | delete | truncate => cases h

end Statement

/-! ## The pieces of a query -/

namespace Query

variable {q n : Query} {s : Statement}

theorem forall_paths_iff (hs : q.statement = some s) {P : List String → Prop} :
    (∀ path ∈ q.paths, P path) ↔
      (∀ path ∈ s.paths, P path) ∧ (∀ j ∈ q.joins, ∀ path ∈ j.paths s.table, P path) ∧
        (∀ f ∈ q.filters, ∀ path ∈ f.predicate.paths, P path) ∧ ∀ t ∈ q.orders.flatMap (·.terms), P t.1.path := by
  rw [paths, hs, Option.elim_some]
  simp only [List.forall_mem_append, List.forall_mem_flatMap, List.forall_mem_map, and_assoc]

theorem infix_statement (hs : q.statement = some s) : s.tokens <:+: q.tokens := by
  rw [tokens_of_statement hs]
  simp only [List.append_assoc]
  exact List.infix_append_left

theorem infix_join (hs : q.statement = some s) {j : Join} (hj : j ∈ q.joins) : j.tokens s.table <:+: q.tokens := by
  have hclause : j.tokens s.table <:+: Join.clauseTokens s.table q.joins :=
    List.infix_of_mem_flatten (List.mem_map_of_mem hj)
  refine hclause.trans ?_
  rw [tokens_of_statement hs]
  simp only [List.append_assoc]
  exact List.infix_append' ..

theorem infix_predicate (hs : q.statement = some s) {f : Filter} (hf : f ∈ q.filters) :
    f.predicate.tokens <:+: q.tokens := by
  have hclause : f.predicate.tokens <:+: Filter.clauseTokens q.filters := by
    rw [Filter.clauseTokens, if_neg (by simpa using List.ne_nil_of_mem hf)]
    have hfilter : f.tokens <:+: q.filters.flatMap Filter.tokens := List.infix_of_mem_flatten (List.mem_map_of_mem hf)
    exact List.infix_append_of_infix_left (List.infix_append_right.trans hfilter)
  refine hclause.trans ?_
  rw [tokens_of_statement hs, List.append_assoc]
  exact List.infix_append ..

theorem infix_term (hs : q.statement = some s) {t : Column × Direction} (ht : t ∈ q.orders.flatMap (·.terms)) :
    Order.termTokens t <:+: q.tokens := by
  have hclause : Order.termTokens t <:+: Order.clauseTokens q.orders := by
    rw [Order.clauseTokens, if_neg (by simpa using List.ne_nil_of_mem ht)]
    exact List.infix_append_of_infix_right (infix_intercalate (List.mem_map_of_mem ht))
  refine hclause.trans ?_
  rw [tokens_of_statement hs]
  exact List.infix_append ..

theorem infix_key {k : Key} (hk : k ∈ q.keys) : k.tokens <:+: q.tokens := by
  obtain ⟨table, keys, hs, hk⟩ := exists_select_of_mem_keys hk
  exact (Statement.infix_key hk).trans (infix_statement hs)

theorem infix_subquery (hn : n ∈ q.subqueries) : n.tokens <:+: q.tokens := by
  obtain ⟨name, hk⟩ := exists_key_of_mem_subqueries hn
  refine List.IsInfix.trans ?_ (infix_key hk)
  rw [Key.tokens, List.append_assoc]
  exact List.infix_append ..

theorem infix_search (hs : q.statement = some s) {t : Search} (ht : t ∈ q.searches) : t.tokens <:+: q.tokens := by
  rcases List.mem_append.mp ht with ht | ht
  · obtain ⟨k, hk, htk⟩ := List.mem_flatMap.mp ht
    refine List.IsInfix.trans ?_ (infix_key hk)
    cases k with
    | fulltext t' name =>
      cases List.mem_singleton.mp htk
      rw [Key.tokens]
      exact List.infix_append_left
    | _ => cases htk
  · obtain ⟨f, hf, htf⟩ := List.mem_flatMap.mp ht
    refine List.IsInfix.trans ?_ (infix_predicate hs hf)
    generalize f.predicate = p at htf ⊢
    cases p with
    | search t' =>
      cases List.mem_singleton.mp htf
      exact List.infix_refl _
    | _ => cases htf

theorem exists_infix_table (hs : q.statement = some s) {table : String} (h : table ∈ q.tables) :
    ∃ w ∈ tableWords, word w :: ofPath (segments table) <:+: q.tokens := by
  rw [tables, hs] at h
  rcases List.mem_cons.mp h with rfl | h
  · obtain ⟨w, hw, hinfix⟩ := s.exists_infix_table
    exact ⟨w, hw, hinfix.trans (infix_statement hs)⟩
  · obtain ⟨j, hj, rfl⟩ := List.mem_map.mp h
    exact ⟨"JOIN", by decide, (j.infix_table s.table).trans (infix_join hs hj)⟩

theorem infix_path (hs : q.statement = some s) : ∀ path ∈ q.paths, ofPath path <:+: q.tokens := by
  refine (forall_paths_iff hs).mpr ⟨fun path hp => ?_, fun j hj path hp => ?_, fun f hf path hp => ?_, fun t ht => ?_⟩
  · exact (Statement.infix_path hp).trans (infix_statement hs)
  · exact (Join.infix_path hp).trans (infix_join hs hj)
  · exact (Predicate.infix_path hp).trans (infix_predicate hs hf)
  · exact List.infix_append_left.trans (infix_term hs ht)

/-! ## Well-spelled pieces -/

namespace WellSpelled

theorem table (h : q.WellSpelled) (hs : q.statement = some s) : (segments s.table).length ≤ 2 := by
  refine h.tables s.table ?_
  rw [Query.tables, hs]
  exact List.mem_cons_self ..

theorem searches_predicate (h : q.WellSpelled) {f : Filter} (hf : f ∈ q.filters) : f.predicate.searches = [] :=
  List.flatMap_eq_nil_iff.mp (List.append_eq_nil_iff.mp h.searches).2 f hf

theorem searches_key (h : q.WellSpelled) {k : Key} (hk : k ∈ q.keys) : k.searches = [] :=
  List.flatMap_eq_nil_iff.mp (List.append_eq_nil_iff.mp h.searches).1 k hk

end WellSpelled

/-! ## What fits -/

theorem wellSpelled_of_fits (hs : q.statement = some s) (h : Fits 3 q.tokens) : q.WellSpelled where
  searches := List.eq_nil_iff_forall_not_mem.mpr fun t ht => t.not_fits (h.middle (infix_search hs ht))
  names name hname := by
    obtain ⟨k, hk, hkn⟩ := List.mem_filterMap.mp hname
    have hfits := h.middle ((Key.infix_name hkn).trans (infix_key hk))
    have hone : (segments name).length ≤ 1 := fits_ofPath_iff.mp hfits.2
    have hpos := List.length_pos_iff.mpr (segments_ne_nil name)
    omega
  tables table htable := by
    obtain ⟨w, hw, hinfix⟩ := exists_infix_table hs htable
    have hroom : ∀ w ∈ tableWords, wordRoom w = 2 := by decide
    have hfits := (h.middle hinfix).2
    rw [room, hroom w hw] at hfits
    exact fits_ofPath_iff.mp hfits
  paths path hpath := fits_ofPath_iff.mp (h.middle (infix_path hs path hpath))

theorem everywhere_wellSpelled (h : q.Everywhere Renders) (hq : Fits 3 q.tokens) : q.Everywhere WellSpelled := by
  induction h with
  | @intro q hr _ ih =>
    obtain ⟨s, hs⟩ := Option.ne_none_iff_exists'.mp (Renders.complete hr).statement
    exact .intro (wellSpelled_of_fits hs hq) fun n hn => ih n hn (hq.middle (infix_subquery hn))

end Query

end SqlClauses
