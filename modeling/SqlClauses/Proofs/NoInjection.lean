/-
  SqlClauses.Proofs.NoInjection — a rendered statement has no tokens but its own.

  Whatever the names and texts of a query hold, the lexer finds in its SQL exactly the
  tokens that the query stands for. Each piece of a statement gets one law here, which says
  what the piece reads as and what has to follow it; the law of a larger piece is put
  together from those of its parts. A subquery is one more piece, by induction on how
  queries are nested.

  Main statements: `reads_quote`, a name reads as its segments; `reads_render`, a query that
  renders; `Reachable.lex_render`, the same of the whole text, for every query there is.
-/

import SqlClauses.Proofs.Reachable
import SqlClauses.Proofs.Reading
import SqlClauses.Proofs.Stages
import SqlClauses.Proofs.Tokens

namespace SqlClauses

open Lexer Token

/-! ## Names -/

theorem segments_ne_nil (name : String) : Identifier.segments name ≠ [] := by
  simpa [Identifier.segments] using Text.split_ne_nil '.' name.toList

theorem quote_eq_intercalate (name : String) :
    Identifier.quote name = ".".intercalate
      ((Text.split '.' name.toList).map fun s => String.ofList (Identifier.wrap (Identifier.content s))) := by
  apply String.toList_inj.mp
  rw [String.toList_intercalate, Identifier.quote, String.toList_ofList, Identifier.quoteChars, List.map_map]
  simp [Function.comp_def]

theorem reads_quote (name : String) : Reads NoTick (Identifier.quote name) (ofPath (Identifier.segments name)) := by
  rw [quote_eq_intercalate, ofPath, Identifier.segments, List.map_map]
  exact Reads.intercalate_map closed_dot (fun _ h => by cases h) fun s _ => reads_wrap _

theorem reads_reference (r : Reference) : Reads NoTick r.quoted (ofPath r.path) := by
  have hpath : ofPath r.path =
      ofPath (Identifier.segments r.table) ++ [symbol "."] ++ ofPath (Identifier.segments r.key) := by
    rw [ofPath, Reference.path, List.map_append]
    exact intercalate_append_of_ne_nil (by simp [segments_ne_nil]) (by simp [segments_ne_nil])
  rw [hpath]
  refine Closed.append (Reads.append (reads_quote r.table) closed_dot ?_) (reads_quote r.key)
  intro _ _ h
  cases h

theorem reads_column (c : Column) : Reads NoTick c.quoted (ofPath c.path) := by
  cases c with
  | bare key => exact reads_quote key
  | qualified r => exact reads_reference r

theorem reads_nameSql (name : String) : Reads NoTick (nameSql name) (nameTokens name) :=
  Closed.append (closed_space.append (closed_word (w := "AS") rfl)) (reads_quote name)

/-! ## Texts that are written as they are -/

theorem reads_run {cs : List Char} (h : ∀ c ∈ cs, isWordChar c = true) : Reads Breaks (String.ofList cs) (ofRun cs) := by
  unfold ofRun
  by_cases hne : cs = []
  · rw [if_pos hne, hne]
    exact reads_empty
  · rw [if_neg hne]
    by_cases hd : cs.all Char.isDigit = true
    · rw [if_pos hd]
      refine reads_numeral (.inl ?_)
      rw [String.toList_ofList]
      exact isUnsigned_of_digits hne (List.all_eq_true.mp hd)
    · rw [if_neg hd]
      refine reads_word ?_
      simp only [isKeyword, String.toList_ofList, Bool.and_eq_true, Bool.not_eq_true', List.isEmpty_eq_false_iff,
        List.all_eq_true]
      exact ⟨⟨hne, h⟩, by simpa using hd⟩

theorem reads_plain {s : String} (h : IsPlainText s) : Reads Breaks s (ofPlain s) := by
  have hs : s = ",".intercalate ((Text.split ',' s.toList).map String.ofList) := by
    apply String.toList_inj.mp
    rw [String.toList_intercalate, List.map_map]
    simpa [Function.comp_def] using (Text.intercalate_split ',' s.toList).symm
  have hruns : ∀ cs ∈ Text.split ',' s.toList, Reads Breaks (String.ofList cs) (ofRun cs) := by
    intro cs hcs
    refine reads_run fun c hc => ?_
    have hmem : c ∈ s.toList := by
      rw [← Text.intercalate_split ',' s.toList]
      exact (infix_intercalate hcs).subset hc
    rcases h c hmem with hw | rfl
    · exact hw
    · exact absurd hc (Text.not_mem_of_mem_split hcs)
  have := Reads.intercalate_map closed_comma (fun r => breaks_append rfl r) hruns
  rwa [← hs] at this

/-! ## Values and operators -/

theorem Value.reads {v : Value} (h : ∀ sql, v = .raw sql → IsPlainText sql) : Reads Breaks v.sql v.tokens := by
  cases v with
  | null => exact reads_word (w := "NULL") rfl
  | bool b =>
    cases b
    · exact reads_word (w := "FALSE") rfl
    · exact reads_word (w := "TRUE") rfl
  | int n => exact reads_numeral (isNumeral_toString_int _)
  | uint n => exact reads_numeral (.inl (isUnsigned_toString _))
  | float x =>
    by_cases hx : x.isFinite = true
    · rw [sql, tokens, if_pos hx, if_pos hx]
      exact reads_numeral (isNumeral_text x)
    · rw [sql, tokens, if_neg hx, if_neg hx]
      exact reads_word (w := "NULL") rfl
  | text s => exact reads_literal s
  | raw sql => exact reads_plain (h sql rfl)

/-- No symbol goes on with a break, so an operator ends before one. -/
theorem Operator.readSymbol_append {op : Operator} (hl : op ≠ .like) (hn : op ≠ .notLike) {r : List Char}
    (hr : Breaks r) : readSymbol (op.sql.toList ++ r) = some (op.sql, r) := by
  cases r with
  | nil => cases op <;> first | rfl | contradiction
  | cons b r =>
    have hb := hr b rfl
    simp only [breakChars, List.mem_cons, List.not_mem_nil, or_false] at hb
    rcases hb with rfl | rfl | rfl | rfl <;> cases op <;> first | rfl | contradiction

theorem Operator.reads (op : Operator) : Reads Breaks op.sql op.tokens := by
  have hsymbol (hl : op ≠ .like) (hn : op ≠ .notLike) : Reads Breaks op.sql [symbol op.sql] := by
    intro r hr
    rw [lexChars_of_readSymbol (readSymbol_append hl hn hr)]
    rfl
  cases op with
  | like => exact reads_word (w := "LIKE") rfl
  | notLike => exact (closed_word (w := "NOT") rfl).append (reads_word (w := "LIKE") rfl)
  | _ => exact hsymbol nofun nofun

theorem Operator.reads_forNull (op : Operator) : Reads Breaks op.sqlForNull op.tokensForNull := by
  cases op with
  | eq => exact reads_word (w := "IS") rfl
  | ne => exact (closed_word (w := "IS") rfl).append (reads_word (w := "NOT") rfl)
  | lt | gt | lte | gte | notEq | nullSafeEq | like | notLike => exact Operator.reads _

/-! ## Predicates and filters -/

theorem SearchMode.reads (m : SearchMode) : Reads Breaks m.sql m.tokens := by
  have hin : Closed "IN " [word "IN"] := closed_word (w := "IN") rfl
  have hmode : Reads Breaks "MODE" [word "MODE"] := reads_word rfl
  cases m with
  | naturalLanguage =>
    exact hin.append ((closed_word (w := "NATURAL") rfl).append
      ((closed_word (w := "LANGUAGE") rfl).append hmode))
  | boolean => exact hin.append ((closed_word (w := "BOOLEAN") rfl).append hmode)

theorem Search.reads {s : Search} (h : IsPlainText s.index) : Reads Breaks s.sql s.tokens := by
  have hmatch : Closed "MATCH (" [word "MATCH", symbol "("] := (closed_word (w := "MATCH") rfl).append closed_open
  have hagainst : Closed ") AGAINST " [symbol ")", word "AGAINST"] :=
    closed_close.append (closed_space.append (closed_word (w := "AGAINST") rfl))
  have hindex := (hmatch.append (reads_plain h)).append_closed hagainst rfl
  have htext := (hindex.append (reads_literal s.against)).append_closed closed_space rfl
  rw [List.append_nil] at htext
  exact htext.append s.mode.reads

/-- Before a value stands the operator that belongs to it. -/
theorem Operator.reads_for (op : Operator) (v : Value) :
    Reads Breaks (if v.isNull then op.sqlForNull else op.sql)
      (if v.isNull then op.tokensForNull else op.tokens) := by
  cases v.isNull
  · exact op.reads
  · exact op.reads_forNull

theorem Predicate.reads {p : Predicate} (hv : ∀ sql, Value.raw sql ∈ p.values → IsPlainText sql)
    (hs : ∀ s ∈ p.searches, IsPlainText s.index) : Reads Breaks p.sql p.tokens := by
  cases p with
  | compare column operator value =>
    have hc := (reads_column column).beforeBreak.append_closed closed_space rfl
    have ho := (hc.append (operator.reads_for value)).append_closed closed_space rfl
    rw [List.append_nil, List.append_nil] at ho
    exact ho.append (Value.reads fun sql h => hv sql (by rw [h]; exact List.mem_singleton_self _))
  | between column lo hi =>
    have hc := (reads_column column).beforeBreak.append_closed (closed_keyword (w := "BETWEEN") rfl) rfl
    have hl := hc.append (reads_numeral (isNumeral_toString_int lo.toInt))
    have ha := hl.append_closed (closed_keyword (w := "AND") rfl) rfl
    exact ha.append (reads_numeral (isNumeral_toString_int hi.toInt))
  | search s => exact Search.reads (hs s (List.mem_singleton_self _))

namespace Filter

/-- A filter after the first begins with a break, and so does what comes after all of them. -/
theorem breaks_linkedSql (fs : List Filter) {r : List Char} (hr : Breaks r) : Breaks ((linkedSql fs).toList ++ r) := by
  cases fs with
  | nil => exact hr
  | cons f fs =>
    have hsep : startsWithBreak (separator f.link) = true := by cases f.link <;> rfl
    rw [linkedSql, String.toList_append, String.toList_append, List.append_assoc, List.append_assoc]
    exact breaks_append hsep _

theorem closed_separator {l : Link} (h : l ≠ .first) : Closed (separator l) (linkTokens l) := by
  cases l with
  | first => exact absurd rfl h
  | or => exact closed_close.append ((closed_keyword (w := "OR") rfl).append closed_open)
  | and => exact closed_keyword (w := "AND") rfl

theorem reads_linkedSql {fs : List Filter} (hl : ∀ f ∈ fs, f.link ≠ .first)
    (hp : ∀ f ∈ fs, Reads Breaks f.predicate.sql f.predicate.tokens) :
    Reads Breaks (linkedSql fs) (fs.flatMap tokens) := by
  induction fs with
  | nil => exact reads_empty
  | cons f fs ih =>
    have hf := (closed_separator (hl f (List.mem_cons_self ..))).append (hp f (List.mem_cons_self ..))
    have hfs := ih (fun g hg => hl g (List.mem_cons_of_mem f hg)) fun g hg => hp g (List.mem_cons_of_mem f hg)
    rw [linkedSql, List.flatMap_cons]
    exact hf.append hfs fun r hr => breaks_linkedSql fs hr

theorem reads_clause {fs : List Filter} (hl : IsClause fs)
    (hp : ∀ f ∈ fs, Reads Breaks f.predicate.sql f.predicate.tokens) : Reads Breaks (clause fs) (clauseTokens fs) := by
  cases fs with
  | nil => exact reads_empty
  | cons f fs =>
    obtain ⟨hfirst, hrest⟩ := hl
    have hwhere : Closed "WHERE (" [word "WHERE", symbol "("] := (closed_word (w := "WHERE") rfl).append closed_open
    have hf := hwhere.append (hp f (List.mem_cons_self ..))
    have hfs := reads_linkedSql hrest fun g hg => hp g (List.mem_cons_of_mem f hg)
    have hall := (hf.append hfs fun r hr => breaks_linkedSql fs hr).append_closed closed_close rfl
    rw [clause_cons, clauseTokens, if_neg (by simp), List.flatMap_cons, tokens, hfirst]
    exact hall.reads

end Filter

/-! ## Joins, orders, limit -/

theorem JoinSide.closed (side : JoinSide) : Closed (side.sql ++ " JOIN ") ([word side.sql] ++ [word "JOIN"]) := by
  have hside : Reads Breaks side.sql [word side.sql] := by cases side <;> exact reads_word rfl
  exact hside.append_closed (closed_keyword (w := "JOIN") rfl) rfl

theorem Join.reads (base : String) (j : Join) : Reads Breaks (j.sql base) (j.tokens base) := by
  have htable := (j.side.closed.append (reads_quote j.table)).beforeBreak
  have hon := htable.append_closed (closed_keyword (w := "ON") rfl) rfl
  have hcolumn := (hon.append (reads_reference (j.column.qualify j.table))).beforeBreak.append_closed closed_space rfl
  have hoperator := (hcolumn.append j.operator.reads).append_closed closed_space rfl
  rw [List.append_nil, List.append_nil] at hoperator
  exact (hoperator.append (reads_reference (j.target.qualify base))).beforeBreak

theorem Join.reads_clause (base : String) (js : List Join) :
    Reads Breaks (Join.clause base js) (Join.clauseTokens base js) := by
  have h := Reads.intercalate_map closed_space (fun r => breaks_append rfl r) fun j (_ : j ∈ js) => Join.reads base j
  rwa [intercalate_nil_eq_flatten, ← List.flatMap_def] at h

theorem Order.reads_term (t : Column × Direction) : Reads Breaks (termSql t) (termTokens t) := by
  have hd : Reads Breaks t.2.sql [word t.2.sql] := by
    obtain ⟨c, d⟩ := t
    cases d
    · exact reads_word (w := "ASC") rfl
    · exact reads_word (w := "DESC") rfl
  have hc := (reads_column t.1).beforeBreak.append_closed closed_space rfl
  rw [List.append_nil] at hc
  exact hc.append hd

theorem closed_commaSpace : Closed ", " [symbol ","] := closed_comma.append closed_space

theorem Order.reads_clause (os : List Order) : Reads Breaks (Order.clause os) (Order.clauseTokens os) := by
  unfold Order.clause Order.clauseTokens
  dsimp only
  split
  · exact reads_empty
  · have horder : Closed "ORDER BY " [word "ORDER", word "BY"] :=
      (closed_word (w := "ORDER") rfl).append (closed_word (w := "BY") rfl)
    exact horder.append (Reads.intercalate_map closed_commaSpace (fun r => breaks_append rfl r) fun t _ => reads_term t)

theorem Limit.reads_clause {l : Option Limit} {s : String} (h : Limit.clause l = .ok s) :
    Reads Breaks s (Limit.clauseTokens l) := by
  rcases l with _ | ⟨_ | offset, _ | amount⟩
  · cases h
    exact reads_empty
  · cases h
    exact reads_empty
  · cases h
  · cases h
  · cases h
    have hlimit : Closed "LIMIT " [word "LIMIT"] := closed_word (w := "LIMIT") rfl
    have hoffset := hlimit.append (reads_numeral (.inl (isUnsigned_toString offset.toNat)))
    exact (hoffset.append_closed closed_commaSpace rfl).append (reads_numeral (.inl (isUnsigned_toString amount.toNat)))

/-! ## Heads -/

theorem breaks_nameSql (name : String) (r : List Char) : Breaks ((nameSql name).toList ++ r) := by
  rw [nameSql, String.toList_append, List.append_assoc]
  exact breaks_append rfl _

theorem Key.reads {k : Key} {item : String} (h : k.render.outcome = .ok item)
    (hs : ∀ s ∈ k.searches, IsPlainText s.index)
    (hn : ∀ n, k.nested? = some n → ∀ sql, n.render = .ok sql → Reads Breaks sql n.tokens) :
    Reads Breaks item k.tokens := by
  cases k with
  | column ref name =>
    rw [render] at h
    cases h
    cases name with
    | none => exact (reads_reference ref).beforeBreak.append reads_empty fun r hr => hr
    | some name =>
      have hcolumn := (reads_reference ref).beforeBreak
      exact (hcolumn.append (reads_nameSql name) fun r _ => breaks_nameSql name r).beforeBreak
  | aggregate f ref name =>
    rw [render] at h
    cases h
    have hf : Reads Breaks f.sql [word f.sql] := by cases f <;> exact reads_word rfl
    have hopen := hf.append_closed closed_open rfl
    have hclose := (hopen.append (reads_reference ref)).beforeBreak.append_closed closed_close rfl
    exact (hclose.append (reads_nameSql name)).beforeBreak
  | fulltext s name =>
    rw [render] at h
    cases h
    have hsearch := Search.reads (hs s (List.mem_singleton_self _))
    exact (hsearch.append (reads_nameSql name) fun r _ => breaks_nameSql name r).beforeBreak
  | subquery n name =>
    obtain ⟨sql, hsql, rfl⟩ := render_subquery_eq_ok_iff.mp h
    have hclose := (closed_open.append (hn n rfl sql hsql)).append_closed closed_close rfl
    rw [tokens]
    exact (hclose.append (reads_nameSql name)).beforeBreak

theorem Key.reads_all {keys : List Key} {items : List String}
    (h : List.Forall₂ (fun k item => k.render.outcome = .ok item) keys items)
    (hk : ∀ k ∈ keys, ∀ item, k.render.outcome = .ok item → Reads Breaks item k.tokens) :
    List.Forall₂ (Reads Breaks) items (Key.tokensAll keys) := by
  induction h with
  | nil => exact .nil
  | cons hitem _ ih =>
    exact .cons (hk _ (List.mem_cons_self ..) _ hitem) (ih fun k hmem => hk k (List.mem_cons_of_mem _ hmem))

theorem reads_assignment {c : Column} {v : Value} (h : ∀ sql, v = .raw sql → IsPlainText sql) :
    Reads Breaks (c.quoted ++ "=" ++ v.sql) (ofPath c.path ++ [symbol "="] ++ v.tokens) := by
  refine Closed.append (Reads.append (reads_column c) closed_equals ?_) (Value.reads h)
  intro _ _ h
  cases h

theorem Statement.reads {s : Statement} {head : String} (h : s.render.outcome = .ok head)
    (hv : ∀ sql, Value.raw sql ∈ s.values → IsPlainText sql)
    (hk : ∀ table keys, s = .select table keys → ∀ k ∈ keys, ∀ item, k.render.outcome = .ok item →
      Reads Breaks item k.tokens) : Reads Breaks head s.tokens := by
  cases s with
  | select table keys =>
    obtain ⟨items, hitems, rfl⟩ := render_select_eq_ok_iff.mp h
    have hselect : Closed "SELECT " [word "SELECT"] := closed_word (w := "SELECT") rfl
    have hlist : Reads Breaks (if items.isEmpty then "*" else ",".intercalate items)
        (if keys.isEmpty then [symbol "*"] else commas (Key.tokensAll keys)) := by
      have hall := Reads.intercalate closed_comma (fun r => breaks_append rfl r)
        (Key.reads_all hitems (hk table keys rfl))
      cases hitems with
      | nil =>
        have hstar : Closed "*" [symbol "*"] := closed_symbol fun _ => rfl
        exact hstar.reads
      | cons => exact hall
    have hfrom := (hselect.append hlist).append_closed (closed_keyword (w := "FROM") rfl) rfl
    rw [tokens]
    exact (hfrom.append (reads_quote table)).beforeBreak
  | insert table columns values =>
    rw [render, Logged.outcome_pure] at h
    cases h
    have hinto : Closed "INSERT INTO " [word "INSERT", word "INTO"] :=
      (closed_word (w := "INSERT") rfl).append (closed_word (w := "INTO") rfl)
    have hopen : Closed " (" [symbol "("] := closed_space.append closed_open
    have hvalues : Closed ") VALUES (" [symbol ")", word "VALUES", symbol "("] :=
      closed_close.append (closed_space.append ((closed_word (w := "VALUES") rfl).append closed_open))
    have hcolumns := Reads.intercalate_map closed_comma (fun r => breaks_append rfl r)
      fun c (_ : c ∈ columns) => (reads_column c).beforeBreak
    have hrow := Reads.intercalate_map closed_comma (fun r => breaks_append rfl r)
      fun v (hmem : v ∈ values) => Value.reads fun sql hsql => hv sql (by rw [← hsql]; exact hmem)
    have htable := (hinto.append (reads_quote table)).beforeBreak.append_closed hopen rfl
    have hlist := (htable.append hcolumns).append_closed hvalues rfl
    rw [tokens]
    exact ((hlist.append hrow).append_closed closed_close rfl).reads
  | update table assignments =>
    rw [render, Logged.outcome_pure] at h
    cases h
    have hupdate : Closed "UPDATE " [word "UPDATE"] := closed_word (w := "UPDATE") rfl
    have htable := (hupdate.append (reads_quote table)).beforeBreak
    have hset := htable.append_closed (closed_keyword (w := "SET") rfl) rfl
    rw [tokens]
    refine hset.append (Reads.intercalate_map closed_commaSpace (fun r => breaks_append rfl r) ?_)
    intro a ha
    refine reads_assignment fun sql hsql => hv sql ?_
    rw [← hsql]
    exact List.mem_map_of_mem ha
  | delete table =>
    rw [render, Logged.outcome_pure] at h
    cases h
    have hdelete : Closed "DELETE FROM " [word "DELETE", word "FROM"] :=
      (closed_word (w := "DELETE") rfl).append (closed_word (w := "FROM") rfl)
    rw [tokens]
    exact (hdelete.append (reads_quote table)).beforeBreak
  | truncate table =>
    rw [render, Logged.outcome_pure] at h
    cases h
    have htruncate : Closed "TRUNCATE " [word "TRUNCATE"] := closed_word (w := "TRUNCATE") rfl
    rw [tokens]
    exact (htruncate.append (reads_quote table)).beforeBreak

/-! ## Whole statements -/

theorem reads_stages {stages : List (String × List Token)} (h : ∀ p ∈ stages, Reads Breaks p.1 p.2) :
    Reads Breaks (" ".intercalate ((stages.map (·.1)).filter fun s => !s.isEmpty)) (stages.flatMap (·.2)) := by
  have hempty : ∀ ps : List (String × List Token), (∀ p ∈ ps, Reads Breaks p.1 p.2) →
      ps.flatMap (·.2) = (ps.filter fun p => !p.1.isEmpty).flatMap (·.2) := by
    intro ps hps
    induction ps with
    | nil => rfl
    | cons p ps ih =>
      have ih := ih fun p' hp' => hps p' (List.mem_cons_of_mem p hp')
      by_cases hp : p.1 = ""
      · have hnil : p.2 = [] := by
          have := hps p (List.mem_cons_self ..)
          rw [hp] at this
          exact this.eq_nil
        rw [List.filter_cons_of_neg (by simp [hp]), List.flatMap_cons, hnil, List.nil_append, ih]
      · rw [List.filter_cons_of_pos (by simpa using hp), List.flatMap_cons, List.flatMap_cons, ih]
  rw [hempty stages h, List.filter_map, List.flatMap_def, ← intercalate_nil_eq_flatten]
  exact Reads.intercalate_map closed_space (fun r => breaks_append rfl r)
    fun p hp => h p (List.mem_of_mem_filter hp)

theorem firm_of_isPlainText {s : String} (h : IsPlainText s) : s = "" ∨ Firm s := by
  cases hc : s.toList.getLast? with
  | none => exact .inl (String.toList_eq_nil_iff.mp (List.getLast?_eq_none_iff.mp hc))
  | some c =>
    refine .inr ⟨c, hc, ?_⟩
    rcases h c (List.mem_of_getLast? hc) with hw | rfl
    · exact isBlank_eq_false_of_isWordChar hw
    · decide

theorem Value.empty_or_firm_sql {v : Value} (h : ∀ sql, v = .raw sql → IsPlainText sql) : v.sql = "" ∨ Firm v.sql := by
  by_cases hv : ∃ sql, v = .raw sql
  · obtain ⟨sql, rfl⟩ := hv
    exact firm_of_isPlainText (h sql rfl)
  · exact .inr (firm_sql fun sql hsql => hv ⟨sql, hsql⟩)

namespace Query

theorem tokens_of_statement {q : Query} {s : Statement} (h : q.statement = some s) :
    q.tokens = s.tokens ++ Join.clauseTokens s.table q.joins ++ Filter.clauseTokens q.filters ++
      Order.clauseTokens q.orders ++ Limit.clauseTokens q.limit := by
  obtain ⟨statement, filters, joins, orders, limit, stored⟩ := q
  cases h
  rw [tokens]

theorem mem_subqueries_of_mem_keys {q n : Query} {table : String} {keys : List Key}
    (hq : q.statement = some (.select table keys)) {k : Key} (hk : k ∈ keys) (hn : k.nested? = some n) :
    n ∈ q.subqueries := by
  simp only [subqueries, hq]
  exact List.mem_filterMap.mpr ⟨k, hk, hn⟩

theorem Plain.values_statement {q : Query} (h : q.Plain) {s : Statement} (hs : q.statement = some s) {sql : String}
    (hm : Value.raw sql ∈ s.values) : IsPlainText sql := by
  refine h.raw sql ?_
  simp only [values, hs]
  exact List.mem_append_left _ hm

theorem Plain.searches_keys {q : Query} (h : q.Plain) {table : String} {keys : List Key}
    (hs : q.statement = some (.select table keys)) {k : Key} (hk : k ∈ keys) {s : Search} (hm : s ∈ k.searches) :
    IsPlainText s.index := by
  refine h.index s ?_
  simp only [searches, Query.keys, hs]
  exact List.mem_append_left _ (List.mem_flatMap.mpr ⟨k, hk, hm⟩)

theorem Plain.reads_predicate {q : Query} (h : q.Plain) {f : Filter} (hf : f ∈ q.filters) :
    Reads Breaks f.predicate.sql f.predicate.tokens := by
  refine Predicate.reads (fun sql hm => h.raw sql ?_) fun s hm => h.index s ?_
  · exact List.mem_append_right _ (List.mem_flatMap.mpr ⟨f, hf, hm⟩)
  · exact List.mem_append_right _ (List.mem_flatMap.mpr ⟨f, hf, hm⟩)

theorem firm_head {q : Query} (hw : q.WellFormed) (hp : q.Plain) {s : Statement} (hs : q.statement = some s)
    {head : String} (hh : s.render.outcome = .ok head) : Firm head := by
  refine s.firm_render hh fun table as hu => ?_
  subst hu
  obtain ⟨-, hne⟩ := hw.statement _ hs
  refine ⟨hne, fun a ha => Value.empty_or_firm_sql fun sql hsql => hp.values_statement hs ?_⟩
  rw [← hsql]
  exact List.mem_map_of_mem ha

/-- The SQL of a query reads as its tokens, and goes on doing so in the parentheses of another. -/
theorem reads_render {q : Query} (h : q.Everywhere fun q => q.WellFormed ∧ q.Plain) {sql : String}
    (hr : q.render = .ok sql) : Reads Breaks sql q.tokens := by
  induction h generalizing sql with
  | @intro q hq _ ih =>
    obtain ⟨hw, hp⟩ := hq
    obtain ⟨s, head, limitSql, hs, hhead, hlimit, rfl⟩ := render_eq_ok_iff.mp hr
    have hkeys : ∀ table keys, s = .select table keys → ∀ k ∈ keys, ∀ item, k.render.outcome = .ok item →
        Reads Breaks item k.tokens := by
      intro table keys hsel k hk item hitem
      subst hsel
      refine Key.reads hitem (fun t ht => hp.searches_keys hs hk ht) fun n hn nsql hnsql => ?_
      exact ih n (mem_subqueries_of_mem_keys hs hk hn) hnsql
    have hfirm : ∀ t ∈ [head, Join.clause s.table q.joins, Filter.clause q.filters, Order.clause q.orders, limitSql],
        t = "" ∨ Firm t := by
      simp only [List.forall_mem_cons, List.not_mem_nil, false_implies, implies_true, and_true]
      exact ⟨.inr (firm_head hw hp hs hhead), Join.firm_clause _ _, Filter.firm_clause _, Order.firm_clause _,
        Limit.firm_clause hlimit⟩
    have hstages : ∀ p ∈ [(head, s.tokens), (Join.clause s.table q.joins, Join.clauseTokens s.table q.joins),
        (Filter.clause q.filters, Filter.clauseTokens q.filters), (Order.clause q.orders, Order.clauseTokens q.orders),
        (limitSql, Limit.clauseTokens q.limit)], Reads Breaks p.1 p.2 := by
      simp only [List.forall_mem_cons, List.not_mem_nil, false_implies, implies_true, and_true]
      exact ⟨Statement.reads hhead (fun t ht => hp.values_statement hs ht) hkeys, Join.reads_clause _ _,
        Filter.reads_clause hw.links fun f hf => hp.reads_predicate hf, Order.reads_clause _, Limit.reads_clause hlimit⟩
    rw [joinStages_of_firm hfirm, tokens_of_statement hs]
    simpa only [List.map_cons, List.map_nil, List.flatMap_cons, List.flatMap_nil, List.append_nil,
      List.append_assoc] using reads_stages hstages

/-- No injection: whatever names, texts and subqueries a query was made of, all of its SQL can be
read, and what is read is its tokens. Only raw SQL and the index of a search are taken on trust,
and of these only that they hold letters, digits, underscores and commas. -/
theorem Reachable.lex_render {q : Query} (h : q.Reachable) (hp : q.Everywhere Plain) {sql : String}
    (hr : q.render = .ok sql) : lex sql = some q.tokens := by
  have hall := (h.everywhere.mono fun _ => Reachable.wellFormed).and hp
  exact (reads_render hall hr).lex

/-- A table with a backtick in its name, a text with a quote and a backslash, raw SQL, and a search
in a subquery. -/
theorem lex_render_hostile :
    let nested := Query.runActions ∅ [.call (.select "b" [] []), .call (.search .first ⟨"title,body", "x' -- ", .boolean⟩)]
    let q := Query.runActions ∅ [.call (.select "a\x60;--" ["id"] []), .call (.subquery nested "n"),
      .call (.compare .first (.bare "t.k") .ne (.text "' OR \\")), .call (.compare .or (.bare "at") .lt .now)]
    ∃ sql, q.render = .ok sql ∧ lex sql = some q.tokens := by
  intro nested q
  have hn : nested.Reachable := .runActions .empty fun a ha n h => by
    simp only [List.mem_cons, List.not_mem_nil, or_false] at ha
    rcases ha with rfl | rfl <;> cases h
  have hq : q.Reachable := .runActions .empty fun a ha n h => by
    simp only [List.mem_cons, List.not_mem_nil, or_false] at ha
    rcases ha with rfl | rfl | rfl | rfl
    · cases h
    · cases h
      exact hn
    · cases h
    · cases h
  have hnp : nested.Everywhere Plain := .intro ⟨nofun, by decide⟩ nofun
  have hp : q.Everywhere Plain := by
    refine .intro ⟨fun sql h => ?_, nofun⟩ fun n hn => ?_
    · have h : Value.raw sql ∈ [Value.text "' OR \\", Value.now] := h
      obtain rfl : sql = "CURRENT_TIMESTAMP" := by simpa [Value.now] using h
      decide
    · obtain rfl : n = nested := List.mem_singleton.mp hn
      exact hnp
  have hr : ∃ sql, q.render = .ok sql := ⟨_, rfl⟩
  obtain ⟨sql, hr⟩ := hr
  exact ⟨sql, hr, Reachable.lex_render hq hp hr⟩

end Query

end SqlClauses
