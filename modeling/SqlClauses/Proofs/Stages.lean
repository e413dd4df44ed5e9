/-
  SqlClauses.Proofs.Stages — a rendered statement as the texts of its stages.

  Rendering fails for want of a statement, in a subquery, or at the limit; otherwise its
  result is the texts of the five stages, those that are empty left out. `Firm` says that
  a text ends in a character that is not white space: `trimEnd` takes nothing from it.

  Main statements: `render_eq_ok_iff`, what a query renders to; `Key.renderAll_eq_ok_iff`
  and `Key.render_subquery_eq_ok_iff`, what its keys do; `joinStages_of_firm`, the stages
  joined by spaces, nothing taken off.
-/

import Mathlib.Data.List.Forall2
import SqlClauses.Proofs.Groups
import SqlClauses.Proofs.Numerals
import SqlClauses.Query.Render

namespace SqlClauses

/-! ## What rendering gives -/

theorem Logged.outcome_bind_eq_ok_iff {α β : Type} {l : Logged α} {f : α → Logged β} {b : β} :
    (l >>= f).outcome = .ok b ↔ ∃ a, l.outcome = .ok a ∧ (f a).outcome = .ok b := by
  rw [outcome_bind]
  cases l.outcome with
  | error e => simp [Except.bind]
  | ok a => simp [Except.bind]

namespace Key

theorem render_subquery_eq_ok_iff {q : Query} {name sql : String} :
    (subquery q name).render.outcome = .ok sql ↔ ∃ s, q.render = .ok s ∧ "(" ++ s ++ ")" ++ nameSql name = sql := by
  rw [render, Logged.outcome_bind_eq_ok_iff]
  simp only [Logged.outcome_pure, Except.ok.injEq, Query.render]

theorem renderAll_eq_ok_iff {keys : List Key} {items : List String} :
    (renderAll keys).outcome = .ok items ↔ List.Forall₂ (fun k item => k.render.outcome = .ok item) keys items := by
  induction keys generalizing items with
  | nil => simp [renderAll, eq_comm]
  | cons k keys ih =>
    rw [renderAll, Logged.outcome_bind_eq_ok_iff, List.forall₂_cons_left_iff]
    simp only [Logged.outcome_bind_eq_ok_iff, Logged.outcome_pure, Except.ok.injEq, ih]
    constructor
    · intro ⟨item, hk, rest, hr, h⟩
      exact ⟨item, rest, hk, hr, h.symm⟩
    · intro ⟨item, rest, hk, hr, h⟩
      exact ⟨item, hk, rest, hr, h.symm⟩

end Key

namespace Statement

theorem render_select_eq_ok_iff {table : String} {keys : List Key} {sql : String} :
    (select table keys).render.outcome = .ok sql ↔
      ∃ items, List.Forall₂ (fun k item => k.render.outcome = .ok item) keys items ∧
        "SELECT " ++ (if items.isEmpty then "*" else ",".intercalate items) ++ " FROM " ++ Identifier.quote table = sql := by
  rw [render, Logged.outcome_bind_eq_ok_iff]
  simp only [Logged.outcome_pure, Except.ok.injEq, Key.renderAll_eq_ok_iff]

end Statement

namespace Query

theorem render_eq_ok_iff {q : Query} {sql : String} :
    q.render = .ok sql ↔ ∃ s head limitSql, q.statement = some s ∧ s.render.outcome = .ok head ∧
      Limit.clause q.limit = .ok limitSql ∧
      joinStages [head, Join.clause s.table q.joins, Filter.clause q.filters, Order.clause q.orders, limitSql] = sql := by
  obtain ⟨_ | s, filters, joins, orders, limit, stored⟩ := q
  · simp [render, renderLogged]
  · simp only [render, renderLogged, Logged.outcome_bind_eq_ok_iff, Logged.outcome_emit, Logged.outcome_quiet,
      Logged.outcome_pure, Except.ok.injEq, Option.some.injEq, exists_const, true_and]
    constructor
    · intro h
      obtain ⟨head, hh, limitSql, hl, hs⟩ := h
      exact ⟨s, head, limitSql, rfl, hh, hl, hs⟩
    · intro h
      obtain ⟨_, head, limitSql, hs, hh, hl, hsql⟩ := h
      cases hs
      exact ⟨head, hh, limitSql, hl, hsql⟩

end Query

/-! ## Texts that do not end in white space -/

/-- The text has a last character, which is not white space. -/
def Firm (s : String) : Prop := ∃ c, s.toList.getLast? = some c ∧ Text.isBlank c = false

instance (s : String) : Decidable (Firm s) :=
  match h : s.toList.getLast? with
  | none => .isFalse fun ⟨_, hc, _⟩ => by rw [h] at hc; cases hc
  | some c => decidable_of_iff (Text.isBlank c = false) ⟨fun hc => ⟨c, h, hc⟩, fun ⟨d, hd, hb⟩ => by
      rw [h] at hd; cases hd; exact hb⟩

theorem Firm.append {t : String} (s : String) (h : Firm t) : Firm (s ++ t) := by
  obtain ⟨c, hc, hb⟩ := h
  refine ⟨c, ?_, hb⟩
  rw [String.toList_append, List.getLast?_append, hc]
  rfl

/-- The first of the texts, and what is behind it. -/
theorem exists_intercalate_cons (sep s : String) (l : List String) :
    ∃ rest, sep.intercalate (s :: l) = s ++ rest ∧ (rest = "" ∨ ∃ t, rest = sep ++ t) := by
  cases l with
  | nil => exact ⟨"", by simp, .inl rfl⟩
  | cons t l => exact ⟨sep ++ sep.intercalate (t :: l), by simp [String.append_assoc], .inr ⟨_, rfl⟩⟩

/-- Whatever stands before the last text does not depend on it. -/
theorem exists_intercalate_concat (sep : String) (l : List String) :
    ∃ before, ∀ t, sep.intercalate (l ++ [t]) = before ++ t := by
  by_cases hl : l = []
  · subst hl
    exact ⟨"", fun t => by simp⟩
  · exact ⟨sep.intercalate l ++ sep, fun t => by simp [String.intercalate_append_of_ne_nil hl]⟩

/-- The last of the texts is what matters. -/
theorem firm_intercalate {sep : String} {l : List String} (hne : l ≠ []) (h : ∀ s ∈ l, Firm s) :
    Firm (sep.intercalate l) := by
  obtain ⟨front, last, rfl⟩ : ∃ front last, l = front ++ [last] := ⟨_, _, (List.dropLast_append_getLast hne).symm⟩
  obtain ⟨before, hb⟩ := exists_intercalate_concat sep front
  rw [hb]
  exact (h last (by simp)).append before

theorem trimEnd_of_firm {s : String} (h : Firm s) : Text.trimEnd s = s := by
  obtain ⟨c, hc, hb⟩ := h
  obtain ⟨cs, hcs⟩ := List.getLast?_eq_some_iff.mp hc
  have hs : s = String.ofList cs ++ String.singleton c := String.toList_inj.mp (by simp [hcs])
  rw [hs]
  exact Text.trimEnd_append hb

/-- Stages that are firm if they are not empty are joined by single spaces, and that is all. -/
theorem joinStages_of_firm {stages : List String} (h : ∀ s ∈ stages, s = "" ∨ Firm s) :
    joinStages stages = " ".intercalate (stages.filter fun s => !s.isEmpty) := by
  unfold joinStages
  cases hf : stages.filter fun s => !s.isEmpty with
  | nil => rfl
  | cons s l =>
    refine trimEnd_of_firm (firm_intercalate (by simp) fun t ht => ?_)
    rw [← hf] at ht
    obtain ⟨hm, hne⟩ := List.mem_filter.mp ht
    rcases h t hm with rfl | h
    · cases hne
    · exact h

/-! ## What stages end in -/

theorem isBlank_eq_false_of_isWordChar {c : Char} (h : Lexer.isWordChar c = true) : Text.isBlank c = false := by
  have hr : 0x30 ≤ c.toNat ∧ c.toNat ≤ 0x7A := by
    have h : (decide (65 ≤ c.val ∧ c.val ≤ 90) || (decide (97 ≤ c.val) && decide (c.val ≤ 122)) ||
      (decide (48 ≤ c.val) && decide (c.val ≤ 57)) || c == '_') = true := h
    simp only [Bool.or_eq_true, Bool.and_eq_true, decide_eq_true_eq, beq_iff_eq, UInt32.le_iff_toNat_le,
      UInt32.reduceToNat] at h
    have hc : c.toNat = c.val.toNat := rfl
    rcases h with ((⟨h1, h2⟩ | ⟨h1, h2⟩) | ⟨h1, h2⟩) | rfl
    · omega
    · omega
    · omega
    · decide
  exact Text.covers_eq_false_of_gap (by decide) hr.1 hr.2

/-- A text that ends in a character of words, such as a keyword or a number. -/
theorem firm_of_getLast? {s : String} {c : Char} (hc : s.toList.getLast? = some c) (hw : Lexer.isWordChar c = true) :
    Firm s :=
  ⟨c, hc, isBlank_eq_false_of_isWordChar hw⟩

theorem firm_of_isUnsigned {s : String} {cs : List Char} (hs : ∃ t, s.toList = t ++ cs) (h : Lexer.IsUnsigned cs) :
    Firm s := by
  obtain ⟨t, hs⟩ := hs
  have hlast {ds : List Char} (hne : ds ≠ []) (hd : ∀ d ∈ ds, d.isDigit = true) {l : List Char} (hl : s.toList = l ++ ds) :
      Firm s := by
    refine firm_of_getLast? (c := ds.getLast hne) ?_ (Lexer.isWordChar_of_isDigit (hd _ (List.getLast_mem hne)))
    rw [hl, List.getLast?_append, List.getLast?_eq_some_getLast hne]
    rfl
  obtain ⟨ds, f, rfl, hne, hd, rfl | ⟨fs, rfl, hf, hfd⟩⟩ := h.parts
  · exact hlast hne hd (l := t) (by simpa using hs)
  · exact hlast hf hfd (l := t ++ ds ++ ['.']) (by simpa using hs)

theorem firm_of_isNumeral {s : String} (h : Lexer.IsNumeral s.toList) : Firm s := by
  rcases h with h | ⟨u, hu, h⟩
  · exact firm_of_isUnsigned ⟨[], rfl⟩ h
  · exact firm_of_isUnsigned ⟨['-'], hu⟩ h

theorem getLast?_intercalate {sep : List Char} {l : List (List Char)} {c : Char} (hne : l ≠ [])
    (h : ∀ s ∈ l, s.getLast? = some c) : (sep.intercalate l).getLast? = some c := by
  induction l with
  | nil => exact absurd rfl hne
  | cons s l ih =>
    cases l with
    | nil => simpa using h s (List.mem_cons_self ..)
    | cons t l =>
      rw [List.intercalate_cons_cons, List.getLast?_append, ih (by simp) fun s' hs' => h s' (List.mem_cons_of_mem _ hs')]
      rfl

theorem getLast?_quote (name : String) : (Identifier.quote name).toList.getLast? = some Identifier.tick := by
  rw [Identifier.quote, String.toList_ofList]
  refine getLast?_intercalate (by simpa using Text.split_ne_nil '.' name.toList) fun s hs => ?_
  obtain ⟨t, -, rfl⟩ := List.mem_map.mp hs
  exact List.getLast?_concat

theorem firm_quote (name : String) : Firm (Identifier.quote name) := ⟨Identifier.tick, getLast?_quote name, by decide⟩

theorem Reference.firm_quoted (r : Reference) : Firm r.quoted := (firm_quote r.key).append _

theorem Column.firm_quoted (c : Column) : Firm c.quoted := by
  cases c with
  | bare key => exact firm_quote key
  | qualified r => exact r.firm_quoted

/-- Only raw SQL can end in white space, or be nothing at all. -/
theorem Value.firm_sql {v : Value} (h : ∀ sql, v ≠ .raw sql) : Firm v.sql := by
  have hnull : Firm "NULL" := by decide
  cases v with
  | null => exact hnull
  | bool b => cases b <;> decide
  | int n => exact firm_of_isNumeral (isNumeral_toString_int _)
  | uint n => exact firm_of_isNumeral (.inl (isUnsigned_toString _))
  | float x =>
    show Firm (if x.isFinite then x.text else "NULL")
    split
    · exact firm_of_isNumeral (isNumeral_text x)
    · exact hnull
  | text s => exact ⟨'\'', by rw [sql, Literal.toList_quote, List.getLast?_concat], by decide⟩
  | raw sql => exact absurd rfl (h sql)

theorem Join.firm_clause_of_ne_nil (base : String) {js : List Join} (h : js ≠ []) : Firm (Join.clause base js) := by
  refine firm_intercalate (by simpa using h) fun s hs => ?_
  obtain ⟨j, -, rfl⟩ := List.mem_map.mp hs
  exact (Reference.firm_quoted _).append _

theorem Join.firm_clause (base : String) (js : List Join) : Join.clause base js = "" ∨ Firm (Join.clause base js) := by
  by_cases h : js = []
  · subst h
    exact .inl rfl
  · exact .inr (firm_clause_of_ne_nil base h)

theorem Filter.firm_clause (fs : List Filter) : Filter.clause fs = "" ∨ Firm (Filter.clause fs) := by
  cases fs with
  | nil => exact .inl rfl
  | cons f fs =>
    right
    rw [clause_cons]
    exact Firm.append _ (by decide)

theorem Order.firm_clause (os : List Order) : Order.clause os = "" ∨ Firm (Order.clause os) := by
  unfold Order.clause
  dsimp only
  split
  · exact .inl rfl
  · next h =>
    refine .inr (.append _ (firm_intercalate (by simpa using h) fun s hs => ?_))
    obtain ⟨⟨c, d⟩, -, rfl⟩ := List.mem_map.mp hs
    have hd : Firm d.sql := by cases d <;> decide
    exact hd.append _

theorem Limit.firm_clause {l : Option Limit} {s : String} (h : Limit.clause l = .ok s) : s = "" ∨ Firm s := by
  cases l with
  | none =>
    cases h
    exact .inl rfl
  | some l =>
    rcases l with ⟨_ | offset, _ | amount⟩
    · cases h
      exact .inl rfl
    · cases h
    · cases h
    · cases h
      exact .inr (.append _ (firm_of_isNumeral (.inl (isUnsigned_toString _))))

/-- A head is firm, except that an update may end in raw SQL that is not, or set nothing. -/
theorem Statement.firm_render {s : Statement} {head : String} (h : s.render.outcome = .ok head)
    (hu : ∀ table as, s = .update table as → as ≠ [] ∧ ∀ a ∈ as, a.2.sql = "" ∨ Firm a.2.sql) : Firm head := by
  cases s with
  | select table keys =>
    obtain ⟨items, -, rfl⟩ := render_select_eq_ok_iff.mp h
    exact (firm_quote table).append _
  | insert table columns values =>
    rw [render, Logged.outcome_pure] at h
    cases h
    exact Firm.append _ (by decide)
  | update table as =>
    obtain ⟨hne, has⟩ := hu table as rfl
    rw [render, Logged.outcome_pure] at h
    cases h
    refine Firm.append _ (firm_intercalate (by simpa using hne) fun t ht => ?_)
    obtain ⟨a, ha, rfl⟩ := List.mem_map.mp ht
    rcases has a ha with hv | hv
    · rw [hv, String.append_empty]
      exact Firm.append _ (by decide)
    · exact hv.append _
  | delete table | truncate table =>
    rw [render, Logged.outcome_pure] at h
    cases h
    exact (firm_quote table).append _

end SqlClauses
