/-
  SqlClauses.Proofs.Decoding — clauses told from their tokens.

  As with reading, each piece of a statement gets one law: if it and another piece of its
  kind stand at the front of the same tokens, they have the same normal form and the same
  tokens follow. Which tokens may follow a clause is known from the order of the stages
  (`followers`). AND is one thing after BETWEEN and a number, and another after a whole
  predicate; a closing parenthesis before OR ends a group, any other one the clause.

  Main statements: `Predicate.tokens_append_inj`; `clauseTokens_append_inj` for filters,
  joins, orders and limits.
-/

import SqlClauses.Proofs.NoInjection
import SqlClauses.Proofs.NormalForm
import SqlClauses.Proofs.Peeling

namespace SqlClauses

open Token

variable {r s : List Token}

/-! ## Names -/

theorem Reference.path_ne_nil (ref : Reference) : ref.path ≠ [] :=
  List.append_ne_nil_of_left_ne_nil (segments_ne_nil _) _

theorem Column.path_ne_nil (c : Column) : c.path ≠ [] := by
  cases c with
  | bare key => exact segments_ne_nil key
  | qualified ref => exact ref.path_ne_nil

theorem segments_append_inj {a b : String} (hr : NoDot r) (hs : NoDot s)
    (h : ofPath (Identifier.segments a) ++ r = ofPath (Identifier.segments b) ++ s) :
    Identifier.segments a = Identifier.segments b ∧ r = s :=
  ofPath_append_inj (segments_ne_nil a) (segments_ne_nil b) hr hs h

theorem Reference.path_append_inj {a b : Reference} (hr : NoDot r) (hs : NoDot s)
    (h : ofPath a.path ++ r = ofPath b.path ++ s) : a.path = b.path ∧ r = s :=
  ofPath_append_inj a.path_ne_nil b.path_ne_nil hr hs h

theorem Column.path_append_inj {a b : Column} (hr : NoDot r) (hs : NoDot s)
    (h : ofPath a.path ++ r = ofPath b.path ++ s) : a.path = b.path ∧ r = s :=
  ofPath_append_inj a.path_ne_nil b.path_ne_nil hr hs h

/-- A name is not one of the words and symbols that may come after an item. -/
theorem not_starts_ofPath {path : List String} (hp : path ≠ []) {vs : List Token}
    (hv : ∀ name, identifier name ∉ vs) (r : List Token) : ¬ Starts vs (ofPath path ++ r) := by
  obtain ⟨name, path, rfl⟩ := List.exists_cons_of_ne_nil hp
  rw [ofPath_cons]
  exact not_starts_cons (hv name)

theorem ofPath_append_ne {path : List String} (hp : path ≠ []) {t : Token} (ht : ∀ name, identifier name ≠ t)
    {r s : List Token} : ofPath path ++ r ≠ t :: s :=
  ne_cons_of_not_starts (not_starts_ofPath hp (fun name hm => ht name (List.mem_singleton.mp hm)) r)

theorem nameTokens_append_inj {a b : String} (hr : NoDot r) (hs : NoDot s)
    (h : nameTokens a ++ r = nameTokens b ++ s) : Identifier.segments a = Identifier.segments b ∧ r = s :=
  segments_append_inj hr hs (List.cons.inj h).2

/-! ## Values and operators -/

/-- The token of a value that is not raw SQL. -/
def ValueForm.token : ValueForm → Token
  | .null => word "NULL"
  | .bool true => word "TRUE"
  | .bool false => word "FALSE"
  | .number n => Token.number n
  | .text s => string s
  | .raw sql => word sql

theorem Value.tokens_eq_singleton {v : Value} (h : ∀ sql, v ≠ .raw sql) : v.tokens = [v.normalForm.token] := by
  cases v with
  | bool b => cases b <;> rfl
  | float x =>
    by_cases hx : x.isFinite = true
    · rw [tokens, normalForm, if_pos hx, if_pos hx]
      rfl
    · rw [tokens, normalForm, if_neg hx, if_neg hx]
      rfl
  | raw sql => exact absurd rfl (h sql)
  | _ => rfl

theorem Value.normalForm_ne_raw {v : Value} (h : ∀ sql, v ≠ .raw sql) (sql : String) : v.normalForm ≠ .raw sql := by
  cases v with
  | float x =>
    rw [normalForm]
    split <;> nofun
  | raw sql => exact absurd rfl (h sql)
  | _ => nofun

theorem ValueForm.token_inj {u v : ValueForm} (hu : ∀ sql, u ≠ .raw sql) (hv : ∀ sql, v ≠ .raw sql)
    (h : u.token = v.token) : u = v := by
  rcases u with _ | (_ | _) | m | t | sql <;> rcases v with _ | (_ | _) | n | t' | sql' <;> simp_all [token]

theorem Value.tokens_append_inj {v w : Value} (hv : ∀ sql, v ≠ .raw sql) (hw : ∀ sql, w ≠ .raw sql)
    (h : v.tokens ++ r = w.tokens ++ s) : v.normalForm = w.normalForm ∧ r = s := by
  rw [tokens_eq_singleton hv, tokens_eq_singleton hw] at h
  obtain ⟨ht, h⟩ := List.cons.inj h
  exact ⟨ValueForm.token_inj (normalForm_ne_raw hv) (normalForm_ne_raw hw) ht, h⟩

theorem Value.isNull_iff_normalForm {v : Value} : v.isNull = true ↔ v.normalForm = .null := by
  cases v with
  | float x => by_cases hx : x.isFinite = true <;> simp [isNull, normalForm, hx]
  | _ => simp [isNull, normalForm]

/-- Symbols, and the words of operators. -/
def Token.isOperatorPart : Token → Bool
  | symbol _ => true
  | word w => w == "IS" || w == "NOT" || w == "LIKE"
  | number _ | identifier _ | string _ => false

namespace Operator

def tokensAgainst (null : Bool) (op : Operator) : List Token := if null then op.tokensForNull else op.tokens

theorem isOperatorPart_of_mem {null : Bool} {op : Operator} : ∀ t ∈ op.tokensAgainst null, t.isOperatorPart = true := by
  cases null <;> cases op <;> decide

theorem tokensAgainst_inj {null : Bool} {op op' : Operator} (h : op.tokensAgainst null = op'.tokensAgainst null) :
    op = op' := by
  cases null <;> cases op <;> cases op' <;> simp_all [tokensAgainst, tokensForNull, tokens, sql]

theorem tokensAgainst_append_inj {null null' : Bool} {op op' : Operator} (hr : Avoids isOperatorPart r)
    (hs : Avoids isOperatorPart s) (h : op.tokensAgainst null ++ r = op'.tokensAgainst null' ++ s) :
    op.tokensAgainst null = op'.tokensAgainst null' ∧ r = s :=
  run_append_inj isOperatorPart_of_mem isOperatorPart_of_mem hr hs h

end Operator

/-! ## Words of few kinds -/

theorem JoinSide.sql_inj {a b : JoinSide} (h : a.sql = b.sql) : a = b := by
  cases a <;> cases b <;> simp_all [sql]

theorem Direction.sql_inj {a b : Direction} (h : a.sql = b.sql) : a = b := by
  cases a <;> cases b <;> simp_all [sql]

theorem Aggregate.sql_inj {a b : Aggregate} (h : a.sql = b.sql) : a = b := by
  cases a <;> cases b <;> simp_all [sql]

theorem StatementKind.text_inj {a b : StatementKind} (h : a.text = b.text) : a = b := by
  cases a <;> cases b <;> simp_all [text]

/-! ## Predicates -/

theorem SearchMode.tokens_append_inj {a b : SearchMode} (h : a.tokens ++ r = b.tokens ++ s) : a = b ∧ r = s := by
  cases a with
  | naturalLanguage =>
    cases b with
    | naturalLanguage => exact ⟨rfl, List.append_cancel_left h⟩
    | boolean => simp [tokens] at h
  | boolean =>
    cases b with
    | naturalLanguage => simp [tokens] at h
    | boolean => exact ⟨rfl, List.append_cancel_left h⟩

theorem Search.tokens_append_inj {a b : Search} (h : a.tokens ++ r = b.tokens ++ s) : a = b ∧ r = s := by
  obtain ⟨index, against, mode⟩ := a
  obtain ⟨index', against', mode'⟩ := b
  simp only [tokens, List.append_assoc, List.cons_append, List.nil_append, List.cons.injEq, true_and] at h
  obtain ⟨hindex, h⟩ := ofPlain_append_inj h
  simp only [List.cons.injEq, string.injEq, true_and] at h
  obtain ⟨hagainst, h⟩ := h
  obtain ⟨hmode, h⟩ := SearchMode.tokens_append_inj h
  exact ⟨by rw [hindex, hagainst, hmode], h⟩

namespace Predicate

/-- A comparison, from its operator on. -/
theorem comparison_append_inj {op op' : Operator} {v w : Value} (hv : ∀ sql, v ≠ .raw sql) (hw : ∀ sql, w ≠ .raw sql)
    (h : op.tokensAgainst v.isNull ++ (v.tokens ++ r) = op'.tokensAgainst w.isNull ++ (w.tokens ++ s)) :
    op = op' ∧ v.normalForm = w.normalForm ∧ r = s := by
  have havoids {v : Value} (hv : ∀ sql, v ≠ .raw sql) (r : List Token) : Avoids isOperatorPart (v.tokens ++ r) := by
    rw [Value.tokens_eq_singleton hv]
    cases hn : v.normalForm with
    | bool b => cases b <;> rfl
    | raw sql => exact absurd hn (Value.normalForm_ne_raw hv sql)
    | null | number | text => rfl
  obtain ⟨hop, h⟩ := Operator.tokensAgainst_append_inj (havoids hv r) (havoids hw s) h
  obtain ⟨hvw, h⟩ := Value.tokens_append_inj hv hw h
  have hnull : v.isNull = w.isNull := by
    rw [Bool.eq_iff_iff, Value.isNull_iff_normalForm, Value.isNull_iff_normalForm, hvw]
  rw [hnull] at hop
  exact ⟨Operator.tokensAgainst_inj hop, hvw, h⟩

/-- What stands after the column of a predicate is not a dot. -/
theorem avoids_dot_operator (null : Bool) (op : Operator) (r : List Token) :
    NoDot (op.tokensAgainst null ++ r) := by
  cases null <;> cases op <;> rfl

theorem operator_append_ne_between (null : Bool) (op : Operator) (r s : List Token) :
    op.tokensAgainst null ++ r ≠ word "BETWEEN" :: s := by
  intro h
  cases null <;> cases op <;> exact absurd (List.cons.inj h).1 (by decide)

theorem tokens_append_inj {p q : Predicate} (hp : ∀ sql, Value.raw sql ∉ p.values)
    (hq : ∀ sql, Value.raw sql ∉ q.values) (h : p.tokens ++ r = q.tokens ++ s) : p.normalForm = q.normalForm ∧ r = s := by
  have hbetween (r : List Token) : NoDot ([word "BETWEEN"] ++ r) := rfl
  cases p with
  | compare column op value =>
    cases q with
    | compare column' op' value' =>
      simp only [tokens, List.append_assoc] at h
      obtain ⟨hc, h⟩ := Column.path_append_inj (avoids_dot_operator value.isNull op _)
        (avoids_dot_operator value'.isNull op' _) h
      obtain ⟨hop, hv, h⟩ := comparison_append_inj (fun sql hsql => hp sql (by simp [values, hsql]))
        (fun sql hsql => hq sql (by simp [values, hsql])) h
      exact ⟨by rw [normalForm, normalForm, hc, hop, hv], h⟩
    | between column' lo hi =>
      simp only [tokens, List.append_assoc] at h
      obtain ⟨-, h⟩ := Column.path_append_inj (avoids_dot_operator value.isNull op _) (hbetween _) h
      exact absurd h (operator_append_ne_between value.isNull op _ _)
    | search t =>
      simp only [tokens, List.append_assoc] at h
      exact absurd h (ofPath_append_ne column.path_ne_nil fun _ => Token.noConfusion)
  | between column lo hi =>
    cases q with
    | compare column' op' value' =>
      simp only [tokens, List.append_assoc] at h
      obtain ⟨-, h⟩ := Column.path_append_inj (hbetween _) (avoids_dot_operator value'.isNull op' _) h
      exact absurd h.symm (operator_append_ne_between value'.isNull op' _ _)
    | between column' lo' hi' =>
      simp only [tokens, List.append_assoc] at h
      obtain ⟨hc, h⟩ := Column.path_append_inj (hbetween _) (hbetween _) h
      simp only [List.cons_append, List.nil_append, List.cons.injEq, number.injEq, true_and] at h
      obtain ⟨hlo, hhi, h⟩ := h
      exact ⟨by rw [normalForm, normalForm, hc, hlo, hhi], h⟩
    | search t =>
      simp only [tokens, List.append_assoc] at h
      exact absurd h (ofPath_append_ne column.path_ne_nil fun _ => Token.noConfusion)
  | search t =>
    cases q with
    | search t' =>
      obtain ⟨ht, h⟩ := Search.tokens_append_inj h
      exact ⟨by rw [ht], h⟩
    | compare column' op' value' =>
      simp only [tokens, List.append_assoc] at h
      exact absurd h.symm (ofPath_append_ne column'.path_ne_nil fun _ => Token.noConfusion)
    | between column' lo hi =>
      simp only [tokens, List.append_assoc] at h
      exact absurd h.symm (ofPath_append_ne column'.path_ne_nil fun _ => Token.noConfusion)

end Predicate

/-! ## What may come after a stage -/

/-- The parenthesis that ends a subquery. -/
def Limit.followers : List Token := [symbol ")"]

def Order.followers : List Token := word "LIMIT" :: Limit.followers

def Filter.followers : List Token := word "ORDER" :: Order.followers

def Join.followers : List Token := word "WHERE" :: Filter.followers

def Statement.followers : List Token := JoinSide.all.map (word ·.sql) ++ Join.followers

theorem Limit.starts (limit : Option Limit) (hr : Starts followers r) :
    Starts Order.followers (clauseTokens limit ++ r) := by
  refine hr.append ?_
  rcases limit with _ | ⟨_ | offset, _ | amount⟩
  · exact .inl rfl
  · exact .inl rfl
  · exact .inl rfl
  · exact .inl rfl
  · exact .inr rfl

theorem Order.starts (os : List Order) (hr : Starts followers r) : Starts Filter.followers (clauseTokens os ++ r) := by
  refine hr.append ?_
  unfold clauseTokens
  generalize os.flatMap (·.terms) = ts
  cases ts with
  | nil => exact .inl rfl
  | cons t ts => exact .inr rfl

theorem Filter.clauseTokens_cons {f : Filter} (hf : f.link = .first) (fs : List Filter) :
    clauseTokens (f :: fs) =
      word "WHERE" :: symbol "(" :: (f.predicate.tokens ++ (fs.flatMap tokens ++ [symbol ")"])) := by
  show (linkTokens f.link ++ f.predicate.tokens ++ fs.flatMap tokens) ++ [symbol ")"] = _
  rw [hf, List.append_assoc, List.append_assoc]
  rfl

theorem Filter.starts {fs : List Filter} (hf : IsClause fs) (hr : Starts followers r) :
    Starts Join.followers (clauseTokens fs ++ r) := by
  refine hr.append ?_
  cases fs with
  | nil => exact .inl rfl
  | cons f fs =>
    rw [clauseTokens_cons hf.1]
    exact .inr rfl

theorem Join.starts (base : String) (js : List Join) (hr : Starts followers r) :
    Starts Statement.followers (clauseTokens base js ++ r) := by
  cases js with
  | nil => exact hr.mono fun _ => List.mem_append_right _
  | cons j js => exact starts_cons (List.mem_append_left _ (List.mem_map_of_mem (by cases j.side <;> decide)))

/-! ## Clauses -/

theorem Limit.clauseTokens_append_inj {l m : Option Limit} {ls ms : String} (hl : clause l = .ok ls)
    (hm : clause m = .ok ms) (hr : Starts followers r) (hs : Starts followers s)
    (h : clauseTokens l ++ r = clauseTokens m ++ s) : normalForm l = normalForm m ∧ r = s := by
  have hform {l : Option Limit} {sql : String} (hl : clause l = .ok sql) :
      (normalForm l = none ∧ clauseTokens l = []) ∨ ∃ offset amount, l = some ⟨some offset, some amount⟩ := by
    rcases l with _ | ⟨_ | offset, _ | amount⟩
    · exact .inl ⟨rfl, rfl⟩
    · exact .inl ⟨rfl, rfl⟩
    · cases hl
    · cases hl
    · exact .inr ⟨offset, amount, rfl⟩
  rcases hform hl with ⟨hln, hlt⟩ | ⟨offset, amount, rfl⟩
  · rw [hlt, List.nil_append] at h
    rcases hform hm with ⟨hmn, hmt⟩ | ⟨offset', amount', rfl⟩
    · rw [hmt, List.nil_append] at h
      exact ⟨by rw [hln, hmn], h⟩
    · exact absurd h (hr.ne_cons (by decide))
  · rcases hform hm with ⟨-, hmt⟩ | ⟨offset', amount', rfl⟩
    · rw [hmt, List.nil_append] at h
      exact absurd h.symm (hs.ne_cons (by decide))
    · simp only [clauseTokens, List.cons_append, List.nil_append, List.cons.injEq, number.injEq, true_and] at h
      obtain ⟨ho, ha, h⟩ := h
      have ho : offset = offset' := UInt64.toNat_inj.mp (toString_nat_inj ho)
      have ha : amount = amount' := UInt64.toNat_inj.mp (toString_nat_inj ha)
      exact ⟨by rw [ho, ha], h⟩

theorem Order.term_append_inj {t u : Column × Direction} (h : termTokens t ++ r = termTokens u ++ s) :
    normalTerm t = normalTerm u ∧ r = s := by
  have hword (d : Direction) (r : List Token) : NoDot ([word d.sql] ++ r) := rfl
  obtain ⟨c, d⟩ := t
  obtain ⟨c', d'⟩ := u
  simp only [termTokens, List.append_assoc] at h
  obtain ⟨hc, h⟩ := Column.path_append_inj (hword d r) (hword d' s) h
  obtain ⟨hd, h⟩ := List.cons.inj h
  exact ⟨by rw [normalTerm, normalTerm, hc, Direction.sql_inj (word.inj hd)], h⟩

theorem Order.clauseTokens_append_inj {os ps : List Order} (hr : Starts followers r) (hs : Starts followers s)
    (h : clauseTokens os ++ r = clauseTokens ps ++ s) : normalTerms os = normalTerms ps ∧ r = s := by
  have horder : word "ORDER" ∉ followers := by decide
  have hterm (t : Column × Direction) (r : List Token) : ¬ Starts followers (termTokens t ++ r) := by
    rw [termTokens, List.append_assoc]
    exact not_starts_ofPath t.1.path_ne_nil (by simp [followers, Limit.followers]) _
  unfold clauseTokens at h
  unfold normalTerms
  generalize os.flatMap (·.terms) = ts at *
  generalize ps.flatMap (·.terms) = us at *
  cases ts with
  | nil =>
    cases us with
    | nil => exact ⟨rfl, h⟩
    | cons u us => exact absurd h (hr.ne_cons horder)
  | cons t ts =>
    cases us with
    | nil => exact absurd h.symm (hs.ne_cons horder)
    | cons u us =>
      refine commas_append_inj (by decide) (fun t _ => hterm t) (fun u _ => hterm u)
        (fun _ _ _ _ _ _ _ _ => term_append_inj) hr hs ?_
      exact (List.cons.inj (List.cons.inj h).2).2

namespace Filter

theorem linkTokens_append_inj {a b : Link} (h : linkTokens a ++ r = linkTokens b ++ s) : a = b ∧ r = s := by
  cases a with
  | first => cases b <;> simp_all [linkTokens]
  | or => cases b <;> simp_all [linkTokens]
  | and => cases b <;> simp_all [linkTokens]

theorem tokens_append_inj {f g : Filter} (hf : ∀ sql, Value.raw sql ∉ f.predicate.values)
    (hg : ∀ sql, Value.raw sql ∉ g.predicate.values) (h : f.tokens ++ r = g.tokens ++ s) :
    f.normalForm = g.normalForm ∧ r = s := by
  simp only [tokens, List.append_assoc] at h
  obtain ⟨hl, h⟩ := linkTokens_append_inj h
  obtain ⟨hp, h⟩ := Predicate.tokens_append_inj hf hg h
  exact ⟨by rw [normalForm, normalForm, hl, hp], h⟩

/-- The parenthesis that ends the last group: OR does not follow. -/
def Ends (ts : List Token) : Prop := ∃ us, ts = symbol ")" :: us ∧ Avoids (· == word "OR") us

theorem not_ends_tokens (f : Filter) (r : List Token) : ¬ Ends (f.tokens ++ r) := by
  obtain ⟨link, p⟩ := f
  intro ⟨us, h, hor⟩
  cases link with
  | first => simp [tokens, linkTokens] at h
  | or =>
    have h := (List.cons.inj h).2
    rw [← h] at hor
    cases hor
  | and => simp [tokens, linkTokens] at h

theorem clauseTokens_append_inj {fs gs : List Filter} (hfs : IsClause fs) (hgs : IsClause gs)
    (hf : ∀ f ∈ fs, ∀ sql, Value.raw sql ∉ f.predicate.values)
    (hg : ∀ g ∈ gs, ∀ sql, Value.raw sql ∉ g.predicate.values) (hr : Starts followers r) (hs : Starts followers s)
    (h : clauseTokens fs ++ r = clauseTokens gs ++ s) : fs.map normalForm = gs.map normalForm ∧ r = s := by
  have hwhere : word "WHERE" ∉ followers := by decide
  have hends {r : List Token} (hr : Starts followers r) : Ends (symbol ")" :: r) := ⟨r, rfl, hr.avoids (by decide)⟩
  cases fs with
  | nil =>
    cases gs with
    | nil => exact ⟨rfl, h⟩
    | cons g gs =>
      rw [clauseTokens_cons hgs.1] at h
      exact absurd h (hr.ne_cons hwhere)
  | cons f fs =>
    cases gs with
    | nil =>
      rw [clauseTokens_cons hfs.1] at h
      exact absurd h.symm (hs.ne_cons hwhere)
    | cons g gs =>
      -- the parenthesis that ends the clause counts as what follows the last filter
      have hitems : (f :: fs).flatMap tokens ++ symbol ")" :: r = (g :: gs).flatMap tokens ++ symbol ")" :: s := by
        simpa [clauseTokens] using h
      obtain ⟨hmap, h⟩ := flatMap_append_inj (F := fun _ => True) (fun _ _ => trivial)
        (fun f _ r => ⟨trivial, not_ends_tokens f r⟩) (fun g _ s => ⟨trivial, not_ends_tokens g s⟩)
        (fun f hfm g hgm _ _ _ _ => tokens_append_inj (hf f hfm) (hg g hgm)) (hends hr) (hends hs) hitems
      exact ⟨hmap, (List.cons.inj h).2⟩

end Filter

namespace Join

theorem tokens_append_inj {base base' : String} {j k : Join} (hr : NoDot r)
    (hs : NoDot s) (h : tokens base j ++ r = tokens base' k ++ s) :
    j.normalForm base = k.normalForm base' ∧ r = s := by
  have hon (r : List Token) : NoDot ([word "ON"] ++ r) := rfl
  have hoperator (op : Operator) (r : List Token) : NoDot (op.tokensAgainst false ++ r) :=
    Predicate.avoids_dot_operator false op r
  have hname (ref : Reference) (r : List Token) : Avoids isOperatorPart (ofPath ref.path ++ r) := by
    obtain ⟨name, path, hp⟩ := List.exists_cons_of_ne_nil ref.path_ne_nil
    rw [hp, ofPath_cons]
    rfl
  simp only [tokens, List.append_assoc] at h
  obtain ⟨hside, h⟩ := List.cons.inj h
  have hside := JoinSide.sql_inj (word.inj hside)
  obtain ⟨htable, h⟩ := segments_append_inj (hon _) (hon _) (List.cons.inj h).2
  obtain ⟨hcolumn, h⟩ := Reference.path_append_inj (hoperator j.operator _) (hoperator k.operator _) (List.cons.inj h).2
  obtain ⟨hop, h⟩ := Operator.tokensAgainst_append_inj (hname _ r) (hname _ s) h
  have hop := Operator.tokensAgainst_inj hop
  obtain ⟨htarget, h⟩ := Reference.path_append_inj hr hs h
  exact ⟨by rw [normalForm, normalForm, hside, htable, hcolumn, hop, htarget], h⟩

theorem clauseTokens_append_inj {base base' : String} {js ks : List Join} (hr : Starts followers r)
    (hs : Starts followers s) (h : clauseTokens base js ++ r = clauseTokens base' ks ++ s) :
    js.map (normalForm base) = ks.map (normalForm base') ∧ r = s := by
  have hdot {r : List Token} (hr : Starts followers r) : NoDot r := hr.avoids (by decide)
  have hjoin (base : String) (j : Join) (r : List Token) :
      NoDot (tokens base j ++ r) ∧ ¬ Starts followers (tokens base j ++ r) := by
    refine ⟨rfl, not_starts_cons ?_⟩
    cases j.side <;> decide
  exact flatMap_append_inj (fun _ => hdot) (fun j _ => hjoin base j) (fun k _ => hjoin base' k)
    (fun _ _ _ _ _ _ => tokens_append_inj) hr hs h

end Join

end SqlClauses
