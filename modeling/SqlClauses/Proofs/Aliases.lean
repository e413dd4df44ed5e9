/-
  SqlClauses.Proofs.Aliases — the names that the columns of a result are given.

  Four kinds of calls give names, and each name is kept with its key as it was given. In the
  text it stands behind the key, after AS, and nothing else of the key depends on it. It is
  written as every name is: as a path. So it is one identifier if there is no dot in it, and
  then it reads as what it stands for; with dots it is as many identifiers as there are parts
  between them, which is no name for a column.

  Main statements: `names_of_apply`, the names that a call gives; `exists_text_of_key`, where a
  key stands in the text; `segments_eq_singleton_iff`, which names are one identifier;
  `aliases_read`, all of it.
-/

import SqlClauses.Proofs.Increments
import SqlClauses.Proofs.NoInjection

namespace SqlClauses

open Lexer Token

/-! ## Where names come from -/

theorem Key.filterMap_name?_columns {table : String} {keys names : List String}
    (h : names ≠ [] → names.length = keys.length) : (columns table keys names).filterMap name? = names := by
  induction keys generalizing names with
  | nil =>
    by_contra hne
    exact hne (List.eq_nil_of_length_eq_zero (h (Ne.symm hne))).symm
  | cons key keys ih =>
    cases names with
    | nil =>
      have htail : (columns table keys []).filterMap name? = [] := ih nofun
      simpa [columns, name?] using htail
    | cons name names =>
      have htail : (columns table keys names).filterMap name? = names :=
        ih fun _ => Nat.succ.inj (h (List.cons_ne_nil _ _))
      simpa [columns, name?] using htail

/-- The names in the select list, in order. -/
def Statement.names : Statement → List String
  | .select _ keys => keys.filterMap Key.name?
  | .insert .. | .update .. | .delete _ | .truncate _ => []

namespace Query

/-- The names that the columns of the result are given, in order. -/
def names (q : Query) : List String := q.keys.filterMap Key.name?

def Call.names : Call → List String
  | .select _ _ names => names
  | .aggregate _ _ _ name | .fulltext _ name | .subquery _ name => [name]
  | .insert .. | .insertRow .. | .update .. | .updateRow .. | .delete _ | .truncate _ => []
  | .compare .. | .between .. | .search .. | .join .. | .order _ | .limit _ => []

variable {q q' : Query} {c : Call}

theorem names_of_statement {s : Statement} (h : q.statement = some s) : q.names = s.names := by
  rw [names, keys, h]
  cases s <;> rfl

theorem names_of_statement_eq_none (h : q.statement = none) : q.names = [] := by
  rw [names, keys, h]
  rfl

theorem names_of_setHead {s : Statement} (h : q.setHead s = .ok q') : q'.names = q.names ++ s.names := by
  obtain ⟨hq, rfl⟩ := setHead_eq_ok_iff.mp h
  rw [names_of_statement_eq_none hq, List.nil_append]
  exact names_of_statement rfl

theorem names_append {table : String} {keys : List Key} {k : Key} {name : String} (hk : k.name? = some name)
    (hq : q.statement = some (.select table keys)) (hq' : q'.statement = some (.select table (keys ++ [k]))) :
    q'.names = q.names ++ [name] := by
  rw [names_of_statement hq, names_of_statement hq', Statement.names, List.filterMap_append,
    List.filterMap_cons_some hk]
  rfl

theorem names_of_addKey {feature : String} {k : Key} {name : String} (hk : k.name? = some name)
    (h : q.addKey feature k = .ok q') : q'.names = q.names ++ [name] := by
  obtain ⟨table, keys, hq, rfl⟩ := addKey_eq_ok_iff.mp h
  exact names_append hk hq rfl

theorem names_of_stage_ne_head (h : q.apply c = .ok q') (hc : c.stage ≠ .head) : q'.names = q.names ++ [] := by
  have hs : q'.statement = q.statement := by
    rw [← after_of_ok h]
    exact content_after_of_ne q hc
  rw [names, names, keys, keys, hs, List.append_nil]

/-- A call that is taken puts its names behind those there are. -/
theorem names_of_apply (h : q.apply c = .ok q') : q'.names = q.names ++ c.names := by
  cases c with
  | select table keys names =>
    obtain ⟨-, hl, -, h⟩ := select_eq_ok_iff.mp h
    rw [names_of_setHead h, Statement.names, Key.filterMap_name?_columns hl, Call.names]
  | insert => exact names_of_setHead (insert_eq_ok_iff.mp h).2.2.2
  | insertRow => exact names_of_setHead (insertRow_eq_ok_iff.mp h).2.2
  | update => exact names_of_setHead (setUpdate_eq_ok_iff.mp (update_eq_ok_iff.mp h).2.2.2).2
  | updateRow => exact names_of_setHead (setUpdate_eq_ok_iff.mp (updateRow_eq_ok_iff.mp h).2.2).2
  | delete => exact names_of_setHead (delete_eq_ok_iff.mp h).2
  | truncate => exact names_of_setHead (truncate_eq_ok_iff.mp h).2
  | aggregate =>
    obtain ⟨-, -, -, h⟩ := apply_aggregate_eq_ok_iff.mp h
    rcases addKeyOn_eq_ok_iff.mp h with ⟨hq, rfl⟩ | ⟨keys, hq, rfl⟩
    · rw [names_of_statement_eq_none hq]
      rfl
    · exact names_append rfl hq rfl
  | fulltext => exact names_of_addKey rfl (fulltext_eq_ok_iff.mp h).2.2
  | subquery => exact names_of_addKey rfl (subquery_eq_ok_iff.mp h).2
  | compare | between | search | join | order | limit => exact names_of_stage_ne_head h nofun

end Query

/-! ## Where they stand in the text -/

/-- One of the texts, what is before it and what is behind. -/
theorem exists_intercalate_append_cons (sep : String) (l : List String) (s : String) (r : List String) :
    ∃ lead rest, sep.intercalate (l ++ s :: r) = lead ++ s ++ rest ∧ (rest = "" ∨ ∃ t, rest = sep ++ t) := by
  obtain ⟨rest, hrest, hsep⟩ := exists_intercalate_cons sep s r
  cases l with
  | nil => exact ⟨"", rest, by rw [List.nil_append, hrest, String.empty_append], hsep⟩
  | cons t l =>
    refine ⟨sep.intercalate (t :: l) ++ sep, rest, ?_, hsep⟩
    rw [String.intercalate_append_of_ne_nil (List.cons_ne_nil _ _) (List.cons_ne_nil _ _), hrest]
    simp only [String.append_assoc]

theorem noTick_append {s : String} (h : startsWithBreak s = true) (t : String) : NoTick (s ++ t).toList := by
  rw [String.toList_append]
  exact (breaks_append h _).noTick

/-- Where the first stage is firm, it stands at the front as it is. -/
theorem exists_joinStages_cons {head : String} {stages : List String} (hh : Firm head)
    (h : ∀ t ∈ stages, t = "" ∨ Firm t) : ∃ rest, joinStages (head :: stages) = head ++ rest := by
  rw [joinStages_of_firm (List.forall_mem_cons.mpr ⟨.inr hh, h⟩)]
  exact exists_spaced_cons head stages

theorem exists_item_of_mem {keys : List Key} {items : List String}
    (h : List.Forall₂ (fun k item => k.render.outcome = .ok item) keys items) {k : Key} (hk : k ∈ keys) :
    ∃ l item r, items = l ++ item :: r ∧ k.render.outcome = .ok item := by
  induction h with
  | nil => cases hk
  | @cons key item keys items hitem _ ih =>
    rcases List.mem_cons.mp hk with rfl | hk
    · exact ⟨[], item, items, rfl, hitem⟩
    · obtain ⟨l, item', r, rfl, hitem'⟩ := ih hk
      exact ⟨item :: l, item', r, rfl, hitem'⟩

namespace Query

variable {q : Query}

theorem exists_select_of_mem_keys {k : Key} (h : k ∈ q.keys) :
    ∃ table keys, q.statement = some (.select table keys) ∧ k ∈ keys := by
  unfold keys at h
  split at h
  · next table keys hs => exact ⟨table, keys, hs, h⟩
  · cases h

/-- The text of a key in that of the query: what comes next is a comma or a space. -/
theorem exists_text_of_key {k : Key} {sql : String} (hk : k ∈ q.keys) (hr : q.render = .ok sql) :
    ∃ lead item rest, k.render.outcome = .ok item ∧ sql = lead ++ item ++ rest ∧ NoTick rest.toList := by
  obtain ⟨table, keys, hs, hk⟩ := exists_select_of_mem_keys hk
  obtain ⟨s, head, limitSql, hs', hh, hl, rfl⟩ := render_eq_ok_iff.mp hr
  cases hs.symm.trans hs'
  obtain ⟨items, hitems, rfl⟩ := Statement.render_select_eq_ok_iff.mp hh
  obtain ⟨l, item, r, rfl, hitem⟩ := exists_item_of_mem hitems hk
  obtain ⟨lead, rest, hlist, hrest⟩ := exists_intercalate_append_cons "," l item r
  have hnonempty : (l ++ item :: r).isEmpty = false := by simp
  rw [hnonempty, hlist, if_neg Bool.false_ne_true]
  have hhead := (firm_quote table).append ("SELECT " ++ (lead ++ item ++ rest) ++ " FROM ")
  obtain ⟨tail, htail⟩ := exists_joinStages_cons hhead (firm_rest (s := .select table keys) hl)
  refine ⟨"SELECT " ++ lead, item, rest ++ (" FROM " ++ Identifier.quote table ++ tail), hitem, ?_, ?_⟩
  · rw [htail]
    simp only [String.append_assoc]
  · rcases hrest with rfl | ⟨t, rfl⟩
    · rw [String.empty_append, String.append_assoc]
      exact noTick_append rfl _
    · rw [String.append_assoc]
      exact noTick_append rfl _

end Query

/-! ## What they read as -/

namespace Identifier

theorem length_segments (name : String) : (segments name).length = name.toList.count '.' + 1 := by
  rw [segments, List.length_map, Text.length_split]

theorem segments_of_not_mem {name : String} (h : '.' ∉ name.toList) :
    segments name = [String.ofList (content name.toList)] := by
  rw [segments, Text.split_of_not_mem h, List.map_singleton]

theorem ofPath_eq_singleton_iff {path : List String} {s : String} : ofPath path = [identifier s] ↔ path = [s] := by
  rcases path with _ | ⟨a, _ | ⟨b, path⟩⟩
  · simp [ofPath]
  · simp [ofPath]
  · simp [ofPath, List.intercalate_cons_cons]

/-- A name is one identifier if it has no dot, and else one more than it has dots. -/
theorem segments_eq_singleton_iff {name : String} :
    (∃ s, ofPath (segments name) = [identifier s]) ↔ '.' ∉ name.toList := by
  simp only [ofPath_eq_singleton_iff]
  constructor
  · rintro ⟨s, hs⟩
    have hlength := length_segments name
    rw [hs] at hlength
    exact List.count_eq_zero.mp (Nat.succ.inj hlength).symm
  · intro h
    exact ⟨_, segments_of_not_mem h⟩

/-- What it then reads as is the name itself, or what stands between its backticks. -/
theorem ofPath_of_not_mem {name : String} (h : '.' ∉ name.toList) :
    (∀ inner, unwrap? name.toList = some inner →
        ofPath (segments name) = [identifier (String.ofList (undouble inner))]) ∧
      (unwrap? name.toList = none → ofPath (segments name) = [identifier name]) := by
  rw [segments_of_not_mem h, content]
  refine ⟨fun inner hw => ?_, fun hw => ?_⟩
  · rw [hw]
    rfl
  · rw [hw]
    exact ofPath_eq_singleton_iff.mpr (by rw [String.ofList_toList])

end Identifier

namespace Query

/-- A call that is taken gives its names to columns of the result. Each named key is written as its body
and then, after AS, its name, which reads as its segments before what comes next. That is one
identifier if there is no dot in the name, and then it is the name that was given, or what that has
between its backticks. -/
theorem aliases_read {q q' : Query} {c : Call} (h : q.apply c = .ok q') :
    q'.names = q.names ++ c.names ∧
      (∀ k ∈ q'.keys, ∀ name, k.name? = some name → ∀ sql, q'.render = .ok sql →
        ∃ lead body rest, k.body = .ok body ∧ sql = lead ++ body ++ " AS " ++ Identifier.quote name ++ rest ∧
          lexChars ((Identifier.quote name).toList ++ rest.toList) =
            (lexChars rest.toList).map (ofPath (Identifier.segments name) ++ ·)) ∧
      ∀ name, (Identifier.segments name).length = name.toList.count '.' + 1 ∧
        ((∃ s, ofPath (Identifier.segments name) = [identifier s]) ↔ '.' ∉ name.toList) ∧
        ('.' ∉ name.toList →
          (∀ inner, Identifier.unwrap? name.toList = some inner →
            ofPath (Identifier.segments name) = [identifier (String.ofList (Identifier.undouble inner))]) ∧
          (Identifier.unwrap? name.toList = none → ofPath (Identifier.segments name) = [identifier name])) := by
  refine ⟨names_of_apply h, fun k hk name hname sql hr => ?_, fun name =>
    ⟨Identifier.length_segments name, Identifier.segments_eq_singleton_iff, Identifier.ofPath_of_not_mem⟩⟩
  obtain ⟨lead, item, rest, hitem, hsql, hrest⟩ := exists_text_of_key hk hr
  rw [Key.outcome_render, hname] at hitem
  cases hbody : k.body with
  | error e =>
    rw [hbody] at hitem
    cases hitem
  | ok body =>
    rw [hbody] at hitem
    cases hitem
    refine ⟨lead, body, rest, rfl, ?_, reads_quote name rest.toList hrest⟩
    rw [hsql, Option.map_some, Option.getD_some, nameSql]
    simp only [String.append_assoc]

/-- Two columns under names that were chosen to be hard. -/
theorem aliases_read_hostile :
    let c := Call.select "t" ["id", "k"] ["a\x60, b", "\x60n\x60\x60 m\x60"]
    ∃ q, (∅ : Query).apply c = .ok q ∧ q.names = ["a\x60, b", "\x60n\x60\x60 m\x60"] ∧
      ofPath (Identifier.segments "a\x60, b") = [identifier "a\x60, b"] ∧
      ofPath (Identifier.segments "\x60n\x60\x60 m\x60") = [identifier "n\x60 m"] := by
  intro c
  have hc : (∅ : Query).apply c = .ok _ := rfl
  obtain ⟨hnames, -, hread⟩ := aliases_read hc
  obtain ⟨-, -, hfirst⟩ := hread "a\x60, b"
  obtain ⟨-, -, hsecond⟩ := hread "\x60n\x60\x60 m\x60"
  exact ⟨_, hc, hnames, (hfirst (by decide)).2 rfl, (hsecond (by decide)).1 _ rfl⟩

/-- A name with a dot in it is two identifiers with a dot between them. -/
theorem aliases_read_dotted :
    let q := Query.runActions ∅ [.call (.select "t" ["id"] ["a.b"])]
    q.Reachable ∧ q.names = ["a.b"] ∧
      q.render = .ok "SELECT \x60t\x60.\x60id\x60 AS \x60a\x60.\x60b\x60 FROM \x60t\x60" ∧
      lex "SELECT \x60t\x60.\x60id\x60 AS \x60a\x60.\x60b\x60 FROM \x60t\x60" =
        some [word "SELECT", identifier "t", symbol ".", identifier "id", word "AS", identifier "a", symbol ".",
          identifier "b", word "FROM", identifier "t"] ∧
      ∀ s, lex (Identifier.quote "a.b") ≠ some [identifier s] := by
  intro q
  have hq : q.Reachable := reachable_runActions fun a ha => by
    rw [List.mem_singleton.mp ha]
    rfl
  have hr : q.render = .ok "SELECT \x60t\x60.\x60id\x60 AS \x60a\x60.\x60b\x60 FROM \x60t\x60" := by decide +kernel
  have hplain : q.Plain := ⟨nofun, nofun⟩
  refine ⟨hq, rfl, hr, (reads_render (.intro ⟨hq.wellFormed, hplain⟩ nofun) hr).lex, fun s hs => ?_⟩
  rw [(reads_quote "a.b").beforeBreak.lex] at hs
  exact absurd (Identifier.segments_eq_singleton_iff.mp ⟨s, Option.some.inj hs⟩) (by decide)

end Query

end SqlClauses
