/-
  SqlClauses.Proofs.Unambiguous — a rendered statement says which query it is.

  The tokens of a query determine its normal form. Statements are told by their first word
  and keys by their first token; a subquery is one more key, whose tokens end at the
  parenthesis that closes it, by induction on how queries are nested.

  Main statements: `Query.told`, queries that render, at the front of other tokens;
  `Reachable.normalForm_eq_of_render_eq`, two queries with the same SQL.
-/

import SqlClauses.Proofs.Decoding
import SqlClauses.Proofs.Rendering

namespace SqlClauses

open Lexer Token

variable {r s : List Token}

/-- Before the end or a closing parenthesis, the two queries stand in the same tokens only if they
have the same normal form, and then the same tokens follow. -/
def Query.Told (n m : Query) : Prop :=
  ∀ {r s : List Token}, Starts Limit.followers r → Starts Limit.followers s → n.tokens ++ r = m.tokens ++ s →
    n.normalForm = m.normalForm ∧ r = s

/-! ## Keys -/

namespace Key

/-- What a key may begin with. -/
def Opens : Key → Token → Prop
  | .column .., t => ∃ name, t = identifier name
  | .aggregate .., t => t ∈ Aggregate.all.map (word ·.sql)
  | .fulltext .., t => t = word "MATCH"
  | .subquery .., t => t = symbol "("

theorem exists_opens (k : Key) : ∃ t ts, k.tokens = t :: ts ∧ k.Opens t := by
  cases k with
  | column ref name =>
    obtain ⟨segment, path, hp⟩ := List.exists_cons_of_ne_nil ref.path_ne_nil
    rw [tokens, hp, ofPath_cons]
    exact ⟨_, _, rfl, segment, rfl⟩
  | aggregate f ref name =>
    rw [tokens]
    exact ⟨_, _, rfl, List.mem_map_of_mem (by cases f <;> decide)⟩
  | fulltext s name =>
    rw [tokens]
    exact ⟨_, _, rfl, rfl⟩
  | subquery query name =>
    rw [tokens]
    exact ⟨_, _, rfl, rfl⟩

/-- The name of a plain column, if it has one, before a comma or FROM. -/
theorem name_append_inj {name name' : Option String} (hr : Starts [symbol ",", word "FROM"] r)
    (hs : Starts [symbol ",", word "FROM"] s)
    (h : (name.map nameTokens).getD [] ++ r = (name'.map nameTokens).getD [] ++ s) :
    name.map Identifier.segments = name'.map Identifier.segments ∧ r = s := by
  have has : word "AS" ∉ [symbol ",", word "FROM"] := by decide
  cases name with
  | none =>
    cases name' with
    | none => exact ⟨rfl, h⟩
    | some name' => exact absurd h (hr.ne_cons has)
  | some name =>
    cases name' with
    | none => exact absurd h.symm (hs.ne_cons has)
    | some name' =>
      obtain ⟨hn, h⟩ := nameTokens_append_inj (hr.avoids (by decide)) (hs.avoids (by decide)) h
      exact ⟨congrArg some hn, h⟩

theorem avoids_dot_name {name : Option String} (hr : Starts [symbol ",", word "FROM"] r) :
    NoDot ((name.map nameTokens).getD [] ++ r) := by
  cases name with
  | none => exact hr.avoids (by decide)
  | some name => rfl

theorem tokens_append_inj {k l : Key}
    (hn : ∀ n, k.nested? = some n → ∀ m, l.nested? = some m → n.Told m)
    (hr : Starts [symbol ",", word "FROM"] r) (hs : Starts [symbol ",", word "FROM"] s)
    (h : k.tokens ++ r = l.tokens ++ s) : k.normalForm = l.normalForm ∧ r = s := by
  have hdotr : NoDot r := hr.avoids (by decide)
  have hdots : NoDot s := hs.avoids (by decide)
  have hclose (r : List Token) : NoDot ([symbol ")"] ++ r) := rfl
  have hopens : ∃ t, k.Opens t ∧ l.Opens t := by
    obtain ⟨t, ts, hk, ht⟩ := k.exists_opens
    obtain ⟨u, us, hl, hu⟩ := l.exists_opens
    rw [hk, hl] at h
    obtain rfl : t = u := (List.cons.inj h).1
    exact ⟨t, ht, hu⟩
  cases k with
  | column ref name =>
    cases l with
    | column ref' name' =>
      simp only [tokens, List.append_assoc] at h
      obtain ⟨href, h⟩ := Reference.path_append_inj (avoids_dot_name hr) (avoids_dot_name hs) h
      obtain ⟨hname, h⟩ := name_append_inj hr hs h
      exact ⟨by rw [normalForm, normalForm, href, hname], h⟩
    | _ => simp [Opens, Aggregate.all] at hopens
  | aggregate f ref name =>
    cases l with
    | aggregate f' ref' name' =>
      simp only [tokens, List.append_assoc] at h
      obtain ⟨hf, h⟩ := List.cons.inj h
      have hf := Aggregate.sql_inj (word.inj hf)
      obtain ⟨href, h⟩ := Reference.path_append_inj (hclose _) (hclose _) (List.cons.inj h).2
      obtain ⟨hname, h⟩ := nameTokens_append_inj hdotr hdots (List.cons.inj h).2
      exact ⟨by rw [normalForm, normalForm, hf, href, hname], h⟩
    | _ => simp [Opens, Aggregate.all, Aggregate.sql] at hopens
  | fulltext t name =>
    cases l with
    | fulltext t' name' =>
      simp only [tokens, List.append_assoc] at h
      obtain ⟨ht, h⟩ := Search.tokens_append_inj h
      obtain ⟨hname, h⟩ := nameTokens_append_inj hdotr hdots h
      exact ⟨by rw [normalForm, normalForm, ht, hname], h⟩
    | _ => simp [Opens, Aggregate.all, Aggregate.sql] at hopens
  | subquery query name =>
    cases l with
    | subquery query' name' =>
      simp only [tokens, List.append_assoc] at h
      have hfollows (r : List Token) : Starts Limit.followers ([symbol ")"] ++ r) := starts_cons (List.mem_cons_self ..)
      obtain ⟨hquery, h⟩ := hn query rfl query' rfl (hfollows _) (hfollows _) (List.cons.inj h).2
      obtain ⟨hname, h⟩ := nameTokens_append_inj hdotr hdots (List.cons.inj h).2
      exact ⟨by rw [normalForm, normalForm, hquery, hname], h⟩
    | _ => simp [Opens, Aggregate.all, Aggregate.sql] at hopens

/-- The star of an empty list and the word after a list are not taken for a key. -/
theorem not_opens {t : Token} (ht : t = symbol "*" ∨ t = word "FROM") (k : Key) : ¬ k.Opens t := by
  rcases ht with rfl | rfl <;> cases k <;> simp [Opens, Aggregate.all, Aggregate.sql]

theorem not_starts_tokens (k : Key) {t : Token} (ht : t = symbol "*" ∨ t = word "FROM") (r : List Token) :
    ¬ Starts [t] (k.tokens ++ r) := by
  obtain ⟨u, us, hk, hu⟩ := k.exists_opens
  rw [hk]
  refine not_starts_cons fun hm => ?_
  obtain rfl : u = t := List.mem_singleton.mp hm
  exact not_opens ht k hu

theorem list_append_inj {keys keys' : List Key}
    (hn : ∀ k ∈ keys, ∀ n, k.nested? = some n → ∀ l ∈ keys', ∀ m, l.nested? = some m → n.Told m)
    (h : (if keys.isEmpty then [symbol "*"] else commas (tokensAll keys)) ++ word "FROM" :: r =
      (if keys'.isEmpty then [symbol "*"] else commas (tokensAll keys')) ++ word "FROM" :: s) :
    keys.map normalForm = keys'.map normalForm ∧ r = s := by
  have hfrom (r : List Token) : Starts [word "FROM"] (word "FROM" :: r) := starts_cons (List.mem_cons_self ..)
  simp only [tokensAll_eq_map] at h
  cases keys with
  | nil =>
    cases keys' with
    | nil => exact ⟨rfl, (List.cons.inj (List.cons.inj h).2).2⟩
    | cons l ls =>
      have h : commas (l.tokens :: ls.map tokens) ++ word "FROM" :: s = symbol "*" :: word "FROM" :: r := h.symm
      rw [commas_cons, List.append_assoc] at h
      exact absurd h (ne_cons_of_not_starts (l.not_starts_tokens (.inl rfl) _))
  | cons k ks =>
    cases keys' with
    | nil =>
      have h : commas (k.tokens :: ks.map tokens) ++ word "FROM" :: r = symbol "*" :: word "FROM" :: s := h
      rw [commas_cons, List.append_assoc] at h
      exact absurd h (ne_cons_of_not_starts (k.not_starts_tokens (.inl rfl) _))
    | cons l ls =>
      obtain ⟨hmap, h⟩ := commas_append_inj (by decide) (fun k _ => k.not_starts_tokens (.inr rfl))
        (fun l _ => l.not_starts_tokens (.inr rfl))
        (fun k hk l hl r s hr hs h => tokens_append_inj (fun n hkn m hlm => hn k hk n hkn l hl m hlm) hr hs h)
        (hfrom r) (hfrom s) h
      exact ⟨hmap, (List.cons.inj h).2⟩

end Key

/-! ## Statements -/

namespace Statement

theorem exists_tokens (st : Statement) : ∃ ts, st.tokens = word st.kind.text :: ts := by
  cases st with
  | insert | delete | truncate => exact ⟨_, rfl⟩
  | _ =>
    rw [tokens]
    exact ⟨_, rfl⟩

theorem kind_eq {a b : Statement} (h : a.tokens ++ r = b.tokens ++ s) : a.kind = b.kind := by
  obtain ⟨ts, ha⟩ := a.exists_tokens
  obtain ⟨us, hb⟩ := b.exists_tokens
  rw [ha, hb] at h
  exact StatementKind.text_inj (word.inj (List.cons.inj h).1)

theorem assignment_append_inj {a b : Column × Value} (ha : ∀ sql, a.2 ≠ .raw sql) (hb : ∀ sql, b.2 ≠ .raw sql)
    (h : ofPath a.1.path ++ [symbol "="] ++ a.2.tokens ++ r = ofPath b.1.path ++ [symbol "="] ++ b.2.tokens ++ s) :
    normalAssignment a = normalAssignment b ∧ r = s := by
  have heq (r : List Token) : NoDot ([symbol "="] ++ r) := rfl
  simp only [List.append_assoc] at h
  obtain ⟨hc, h⟩ := Column.path_append_inj (heq _) (heq _) h
  obtain ⟨hv, h⟩ := Value.tokens_append_inj ha hb (List.cons.inj h).2
  exact ⟨by rw [normalAssignment, normalAssignment, hc, hv], h⟩

/-- A list that a parenthesis ends. -/
theorem list_append_inj {α β : Type} {T : α → List Token} {N : α → β} {as bs : List α}
    (ha : ∀ a ∈ as, ∀ r, ¬ Starts [symbol ")"] (T a ++ r)) (hb : ∀ b ∈ bs, ∀ r, ¬ Starts [symbol ")"] (T b ++ r))
    (item : ∀ a ∈ as, ∀ b ∈ bs, ∀ r s, NoDot r → NoDot s →
      T a ++ r = T b ++ s → N a = N b ∧ r = s)
    (h : commas (as.map T) ++ symbol ")" :: r = commas (bs.map T) ++ symbol ")" :: s) :
    as.map N = bs.map N ∧ r = s := by
  have hclose (r : List Token) : Starts [symbol ")"] (symbol ")" :: r) := starts_cons (List.mem_cons_self ..)
  obtain ⟨hmap, h⟩ := commas_append_inj (by decide) ha hb
    (fun a ha b hb r s hr hs => item a ha b hb r s (hr.avoids (by decide)) (hs.avoids (by decide)))
    (hclose r) (hclose s) h
  exact ⟨hmap, (List.cons.inj h).2⟩

theorem columns_append_inj {cs ds : List Column}
    (h : commas (cs.map fun c => ofPath c.path) ++ symbol ")" :: r =
      commas (ds.map fun d => ofPath d.path) ++ symbol ")" :: s) : cs.map Column.path = ds.map Column.path ∧ r = s := by
  have hcolumn (c : Column) (r : List Token) : ¬ Starts [symbol ")"] (ofPath c.path ++ r) :=
    not_starts_ofPath c.path_ne_nil (by simp) r
  exact list_append_inj (fun c _ => hcolumn c) (fun d _ => hcolumn d)
    (fun c _ d _ _ _ => Column.path_append_inj) h

theorem values_append_inj {vs ws : List Value} (hv : ∀ sql, Value.raw sql ∉ vs) (hw : ∀ sql, Value.raw sql ∉ ws)
    (h : commas (vs.map Value.tokens) ++ symbol ")" :: r = commas (ws.map Value.tokens) ++ symbol ")" :: s) :
    vs.map Value.normalForm = ws.map Value.normalForm ∧ r = s := by
  have hraw {vs : List Value} (hv : ∀ sql, Value.raw sql ∉ vs) {v : Value} (hm : v ∈ vs) (sql : String) : v ≠ .raw sql :=
    fun h => hv sql (h ▸ hm)
  have hvalue {v : Value} (hv : ∀ sql, v ≠ .raw sql) (r : List Token) : ¬ Starts [symbol ")"] (v.tokens ++ r) := by
    rw [Value.tokens_eq_singleton hv]
    refine not_starts_cons ?_
    rcases v.normalForm with _ | (_ | _) | _ | _ | _ <;> simp [ValueForm.token]
  exact list_append_inj (fun v hm => hvalue (hraw hv hm)) (fun w hm => hvalue (hraw hw hm))
    (fun v hm w hm' _ _ _ _ => Value.tokens_append_inj (hraw hv hm) (hraw hw hm')) h

theorem assignments_append_inj {as bs : List (Column × Value)} (ha : ∀ sql, Value.raw sql ∉ as.map (·.2))
    (hb : ∀ sql, Value.raw sql ∉ bs.map (·.2)) (hr : Starts followers r) (hs : Starts followers s)
    (h : commas (as.map fun a => ofPath a.1.path ++ [symbol "="] ++ a.2.tokens) ++ r =
      commas (bs.map fun b => ofPath b.1.path ++ [symbol "="] ++ b.2.tokens) ++ s) :
    as.map normalAssignment = bs.map normalAssignment ∧ r = s := by
  have hraw {as : List (Column × Value)} (ha : ∀ sql, Value.raw sql ∉ as.map (·.2)) {a : Column × Value} (hm : a ∈ as)
      (sql : String) : a.2 ≠ .raw sql := fun h => ha sql (h ▸ List.mem_map_of_mem hm)
  have hassignment (a : Column × Value) (r : List Token) :
      ¬ Starts followers (ofPath a.1.path ++ [symbol "="] ++ a.2.tokens ++ r) := by
    rw [List.append_assoc, List.append_assoc]
    exact not_starts_ofPath a.1.path_ne_nil (by simp [followers, JoinSide.all, Join.followers, Filter.followers,
      Order.followers, Limit.followers]) _
  exact commas_append_inj (by decide) (fun a _ => hassignment a) (fun b _ => hassignment b)
    (fun a hm b hm' _ _ _ _ => assignment_append_inj (hraw ha hm) (hraw hb hm')) hr hs h

theorem tokens_append_inj {a b : Statement} (ha : ∀ sql, Value.raw sql ∉ a.values)
    (hb : ∀ sql, Value.raw sql ∉ b.values)
    (hn : ∀ n ∈ a.subqueries, ∀ m ∈ b.subqueries, n.Told m)
    (hr : Starts followers r) (hs : Starts followers s) (h : a.tokens ++ r = b.tokens ++ s) :
    a.normalForm = b.normalForm ∧ r = s := by
  have hkind := kind_eq h
  have hdotr : NoDot r := hr.avoids (by decide)
  have hdots : NoDot s := hs.avoids (by decide)
  cases a with
  | select table keys =>
    cases b with
    | select table' keys' =>
      simp only [tokens, List.append_assoc] at h
      obtain ⟨hkeys, h⟩ := Key.list_append_inj (fun k hk n hkn l hl m hlm => hn n (List.mem_filterMap.mpr ⟨k, hk, hkn⟩)
        m (List.mem_filterMap.mpr ⟨l, hl, hlm⟩)) (List.cons.inj h).2
      obtain ⟨ht, h⟩ := segments_append_inj hdotr hdots h
      exact ⟨by rw [normalForm, normalForm, Key.normalForms_eq_map, Key.normalForms_eq_map, ht, hkeys], h⟩
    | _ => cases hkind
  | insert table columns values =>
    cases b with
    | insert table' columns' values' =>
      have ha : ∀ sql, Value.raw sql ∉ values := ha
      have hb : ∀ sql, Value.raw sql ∉ values' := hb
      have hopen (r : List Token) : NoDot ([symbol "("] ++ r) := rfl
      simp only [tokens, List.append_assoc] at h
      obtain ⟨ht, h⟩ := segments_append_inj (hopen _) (hopen _)
        (List.cons.inj (List.cons.inj h).2).2
      obtain ⟨hcolumns, h⟩ := columns_append_inj (List.cons.inj h).2
      obtain ⟨hvalues, h⟩ := values_append_inj ha hb (List.cons.inj (List.cons.inj h).2).2
      exact ⟨by rw [normalForm, normalForm, ht, hcolumns, hvalues], h⟩
    | _ => cases hkind
  | update table assignments =>
    cases b with
    | update table' assignments' =>
      have hset (r : List Token) : NoDot ([word "SET"] ++ r) := rfl
      rw [tokens, tokens, List.append_assoc, List.append_assoc, List.append_assoc, List.append_assoc, List.append_assoc,
        List.append_assoc] at h
      obtain ⟨ht, h⟩ := segments_append_inj (hset _) (hset _)
        (List.cons.inj h).2
      obtain ⟨hassignments, h⟩ := assignments_append_inj ha hb hr hs (List.cons.inj h).2
      exact ⟨by rw [normalForm, normalForm, ht, hassignments], h⟩
    | _ => cases hkind
  | delete table =>
    cases b with
    | delete table' =>
      simp only [tokens, List.append_assoc] at h
      obtain ⟨ht, h⟩ := segments_append_inj hdotr hdots
        (List.cons.inj (List.cons.inj h).2).2
      exact ⟨by rw [normalForm, normalForm, ht], h⟩
    | _ => cases hkind
  | truncate table =>
    cases b with
    | truncate table' =>
      simp only [tokens, List.append_assoc] at h
      obtain ⟨ht, h⟩ := segments_append_inj hdotr hdots (List.cons.inj h).2
      exact ⟨by rw [normalForm, normalForm, ht], h⟩
    | _ => cases hkind

end Statement

/-! ## Queries -/

namespace Query

/-- No raw SQL among the values, and nothing but letters, digits, underscores and commas in the
index of a search. -/
structure RawFree (q : Query) : Prop where
  values : ∀ sql, Value.raw sql ∉ q.values
  index : ∀ s ∈ q.searches, IsPlainText s.index

theorem RawFree.plain {q : Query} (h : q.RawFree) : q.Plain :=
  ⟨fun sql hsql => absurd hsql (h.values sql), h.index⟩

theorem RawFree.values_statement {q : Query} (h : q.RawFree) {st : Statement} (hst : q.statement = some st)
    (sql : String) : Value.raw sql ∉ st.values := by
  intro hm
  refine h.values sql ?_
  simp only [Query.values, hst]
  exact List.mem_append_left _ hm

theorem RawFree.values_predicate {q : Query} (h : q.RawFree) {f : Filter} (hf : f ∈ q.filters) (sql : String) :
    Value.raw sql ∉ f.predicate.values :=
  fun hm => h.values sql (List.mem_append_right _ (List.mem_flatMap.mpr ⟨f, hf, hm⟩))

/-- All there is to know of a query to tell it from its tokens. -/
structure Legible (q : Query) : Prop where
  wellFormed : q.WellFormed
  rawFree : q.RawFree
  renders : q.Renders

theorem Reachable.everywhere_legible {q : Query} (h : q.Reachable) (hf : q.Everywhere RawFree) (hr : q.Renders) :
    q.Everywhere Legible := by
  have hall := (h.everywhere.mono fun _ => Reachable.wellFormed).and (hf.and hr.everywhere)
  exact hall.mono fun _ h => ⟨h.1, h.2.1, h.2.2⟩

theorem lex_render_of_legible {q : Query} (h : q.Everywhere Legible) {sql : String} (hr : q.render = .ok sql) :
    lex sql = some q.tokens :=
  (reads_render (h.mono fun _ h => ⟨h.wellFormed, h.rawFree.plain⟩) hr).lex

theorem told {q p : Query} (hq : q.Everywhere Legible) (hp : p.Everywhere Legible) : q.Told p := by
  induction hq generalizing p with
  | @intro q hq _ ih =>
    intro r s hr hs h
    obtain ⟨hqw, hqf, _, hqr⟩ := hq
    obtain ⟨hpw, hpf, _, hpr⟩ := hp.here
    obtain ⟨st, _, _, hst, -, hql, -⟩ := render_eq_ok_iff.mp hqr
    obtain ⟨st', _, _, hst', -, hpl, -⟩ := render_eq_ok_iff.mp hpr
    -- one stage after the other from the front; what may follow it comes from the stages behind it
    rw [tokens_of_statement hst, tokens_of_statement hst'] at h
    simp only [List.append_assoc] at h
    have hqo := Order.starts q.orders (Limit.starts q.limit hr)
    have hpo := Order.starts p.orders (Limit.starts p.limit hs)
    have hqj := Filter.starts hqw.links hqo
    have hpj := Filter.starts hpw.links hpo
    obtain ⟨hstatement, h⟩ := Statement.tokens_append_inj (hqf.values_statement hst) (hpf.values_statement hst')
      (fun n hn m hm => ih n (by simpa only [subqueries, hst] using hn)
        (hp.nested (by simpa only [subqueries, hst'] using hm)))
      (Join.starts st.table q.joins hqj) (Join.starts st'.table p.joins hpj) h
    obtain ⟨hjoins, h⟩ := Join.clauseTokens_append_inj hqj hpj h
    obtain ⟨hfilters, h⟩ := Filter.clauseTokens_append_inj hqw.links hpw.links (fun f => hqf.values_predicate)
      (fun f => hpf.values_predicate) hqo hpo h
    obtain ⟨horders, h⟩ := Order.clauseTokens_append_inj (Limit.starts q.limit hr) (Limit.starts p.limit hs) h
    obtain ⟨hlimit, h⟩ := Limit.clauseTokens_append_inj hql hpl hr hs h
    refine ⟨?_, h⟩
    rw [normalForm_of_statement hst, normalForm_of_statement hst', hstatement, hjoins, hfilters, horders, hlimit]

/-- Rendering is unambiguous: two queries with the same SQL have the same normal form. -/
theorem Reachable.normalForm_eq_of_render_eq {q p : Query} (hq : q.Reachable) (hp : p.Reachable)
    (hqf : q.Everywhere RawFree) (hpf : p.Everywhere RawFree) {sql : String} (hqr : q.render = .ok sql)
    (hpr : p.render = .ok sql) : q.normalForm = p.normalForm := by
  have hqe := hq.everywhere_legible hqf ⟨sql, hqr⟩
  have hpe := hp.everywhere_legible hpf ⟨sql, hpr⟩
  have htokens : some q.tokens = some p.tokens := by
    rw [← lex_render_of_legible hqe hqr, lex_render_of_legible hpe hpr]
  have hnil : Starts Limit.followers [] := fun _ h => by cases h
  exact (told hqe hpe hnil hnil (by rw [Option.some.inj htokens])).1

/-- The same statement put together in two ways: the clauses in another order, a name with and
without backticks, a number with and without a sign, orders in one list or two, a limit without
parts, and a subquery that was prepared. -/
theorem normalForm_eq_of_render_eq_rearranged :
    let n := Query.runActions ∅ [.call (.select "b" [] [])]
    let m := Query.runActions ∅ [.call (.select "b" [] []), .prepare]
    let q := Query.runActions ∅ [.call (.select "t" ["id"] []), .call (.subquery n "n"),
      .call (.compare .first (.bare "age") .ne (.int 5)), .call (.order ⟨[(.bare "a", .asc), (.bare "c", .desc)]⟩)]
    let p := Query.runActions ∅ [.call (.order ⟨[(.bare "a", .asc)]⟩), .call (.limit ⟨none, none⟩),
      .call (.compare .first (.bare "\x60age\x60") .ne (.uint 5)), .call (.select "t" ["t.id"] []),
      .call (.order ⟨[(.bare "c", .desc)]⟩), .call (.subquery m "n")]
    ∃ sql, q.render = .ok sql ∧ p.render = .ok sql ∧ q.normalForm = p.normalForm := by
  intro n m q p
  have hn : n.Reachable := .runActions .empty fun a ha k h => by
    simp only [List.mem_cons, List.not_mem_nil, or_false] at ha
    subst ha
    cases h
  have hm : m.Reachable := .runActions .empty fun a ha k h => by
    simp only [List.mem_cons, List.not_mem_nil, or_false] at ha
    rcases ha with rfl | rfl <;> cases h
  have hq : q.Reachable := .runActions .empty fun a ha k h => by
    simp only [List.mem_cons, List.not_mem_nil, or_false] at ha
    rcases ha with rfl | rfl | rfl | rfl <;> cases h
    exact hn
  have hp : p.Reachable := .runActions .empty fun a ha k h => by
    simp only [List.mem_cons, List.not_mem_nil, or_false] at ha
    rcases ha with rfl | rfl | rfl | rfl | rfl | rfl <;> cases h
    exact hm
  have hfree {q n : Query} {v : Value} (hv : ∀ sql, v ≠ .raw sql) (hqv : q.values = [v]) (hqs : q.searches = [])
      (hqn : q.subqueries = [n]) (hnv : n.values = []) (hns : n.searches = []) (hnn : n.subqueries = []) :
      q.Everywhere RawFree := by
    refine .intro ⟨fun sql h => ?_, fun s h => ?_⟩ fun k hk => .intro ⟨fun sql h => ?_, fun s h => ?_⟩ fun l hl => ?_
    · rw [hqv] at h
      exact hv sql (List.mem_singleton.mp h).symm
    · rw [hqs] at h
      cases h
    all_goals
      rw [hqn] at hk
      obtain rfl : k = n := List.mem_singleton.mp hk
    · rw [hnv] at h
      cases h
    · rw [hns] at h
      cases h
    · rw [hnn] at hl
      cases hl
  have hr : ∃ sql, q.render = .ok sql ∧ p.render = .ok sql := ⟨_, rfl, rfl⟩
  obtain ⟨sql, hqr, hpr⟩ := hr
  have hqf : q.Everywhere RawFree := hfree (v := .int 5) nofun rfl rfl rfl rfl rfl rfl
  have hpf : p.Everywhere RawFree := hfree (v := .uint 5) nofun rfl rfl rfl rfl rfl rfl
  exact ⟨sql, hqr, hpr, Reachable.normalForm_eq_of_render_eq hq hp hqf hpf hqr hpr⟩

end Query

end SqlClauses
