/-
  SqlClauses.Proofs.Rows — rows given as pairs.

  An insert and an update take one row, as a list of keys and a list of values or as a list
  of pairs. The two lists are checked for their lengths and then key by key; the pairs are
  taken apart one after another, each key checked before the next pair is looked at. Either
  way the answer is the same: the same query, or the same first thing that is wrong
  (`RowFault`). Pairs are neither looked up by their keys nor put in order, so a key that comes
  twice is written twice, and every value stands where its key does.

  An insert is written in full. At the end of an update white space can be cut, if the last
  value is raw SQL that ends in it and no other clause is behind it; nothing else is lost.

  Main statements: `insertRow_eq_insert` and `updateRow_eq_update`, pairs and lists;
  `insertRow_eq_error_iff` and `updateRow_eq_error_iff`, why a call fails; `givenHead`, what is
  written of one that does not; `exists_append_of_render`, where that stands in the text;
  `rows_as_lists`, all of it.
-/

import SqlClauses.Proofs.Columns
import SqlClauses.Proofs.Increments
import SqlClauses.Proofs.Nameless

namespace SqlClauses

open Text (Blank)

/-! ## Pairs and lists -/

namespace Query

variable {q q' : Query} {table : String} {row : List (String × Value)} {e : Error}

theorem columnsFor_row (row : List (String × Value)) :
    columnsFor (row.map (·.1)) (row.map (·.2)) = namedColumns (row.map (·.1)) := by
  rw [columnsFor, if_pos (by rw [List.length_map, List.length_map])]

theorem insertRow_eq_insert (q : Query) (table : String) (row : List (String × Value)) :
    q.insertRow table row = q.insert table (row.map (·.1)) (row.map (·.2)) := by
  simp only [insertRow, insert, splitRow_bind, columnsFor_row]

theorem updateRow_eq_update (q : Query) (table : String) (row : List (String × Value)) :
    q.updateRow table row = q.update table (row.map (·.1)) (row.map (·.2)) := by
  simp only [updateRow, update, splitRow_bind, columnsFor_row]

/-! ## Calls that fail -/

/-- What is the first thing wrong with a row for a statement of this kind. -/
inductive RowFault (q : Query) (table : String) (row : List (String × Value)) (kind : StatementKind) : Error → Prop
  | table : Blank table → RowFault q table row kind (.emptyIdentifier "table")
  | key : ¬ Blank table → (∃ p ∈ row, Blank p.1) → RowFault q table row kind (.emptyIdentifier "column")
  | empty : ¬ Blank table → row = [] → kind = .update → RowFault q table row kind .noAssignments
  | headed {s : Statement} : ¬ Blank table → (∀ p ∈ row, ¬ Blank p.1) → (kind = .update → row ≠ []) →
      q.statement = some s → RowFault q table row kind (conflict s kind)

theorem setHead_eq_error_iff {s : Statement} :
    q.setHead s = .error e ↔ ∃ current, q.statement = some current ∧ conflict current s.kind = e := by
  unfold setHead
  cases q.statement with
  | none => simp
  | some current => simp

theorem setUpdate_eq_error_iff {assignments : List (Column × Value)} :
    q.setUpdate table assignments = .error e ↔
      assignments = [] ∧ .noAssignments = e ∨ assignments ≠ [] ∧ q.setHead (.update table assignments) = .error e := by
  unfold setUpdate
  cases assignments with
  | nil => simp
  | cons => simp

theorem splitRow_bind_eq_error_iff {β : Type} {f : List Column × List Value → Except Error β} :
    (splitRow row >>= f) = .error e ↔
      (∃ p ∈ row, Blank p.1) ∧ .emptyIdentifier "column" = e ∨
        (∀ p ∈ row, ¬ Blank p.1) ∧ f ((row.map (·.1)).map Column.ofText, row.map (·.2)) = .error e := by
  rw [splitRow_bind, namedColumns_bind_eq_error_iff, List.forall_mem_map]
  simp only [List.mem_map, exists_exists_and_eq_and]

theorem insertRow_eq_error_iff : q.insertRow table row = .error e ↔ q.RowFault table row .insert e := by
  unfold insertRow
  rw [requireName_bind_eq_error_iff, splitRow_bind_eq_error_iff, setHead_eq_error_iff]
  constructor
  · rintro (⟨ht, rfl⟩ | ⟨ht, ⟨hk, rfl⟩ | ⟨hk, current, hs, rfl⟩⟩)
    · exact .table ht
    · exact .key ht hk
    · exact .headed ht hk nofun hs
  · intro h
    cases h with
    | table ht => exact .inl ⟨ht, rfl⟩
    | key ht hk => exact .inr ⟨ht, .inl ⟨hk, rfl⟩⟩
    | empty _ _ hu => cases hu
    | headed ht hk _ hs => exact .inr ⟨ht, .inr ⟨hk, _, hs, rfl⟩⟩

theorem zip_columns_row (row : List (String × Value)) :
    ((row.map (·.1)).map Column.ofText).zip (row.map (·.2)) = row.map fun p => (Column.ofText p.1, p.2) := by
  rw [List.map_map, List.zip_map']
  rfl

theorem updateRow_eq_error_iff : q.updateRow table row = .error e ↔ q.RowFault table row .update e := by
  unfold updateRow
  rw [requireName_bind_eq_error_iff, splitRow_bind_eq_error_iff, setUpdate_eq_error_iff, setHead_eq_error_iff,
    zip_columns_row, ne_eq, List.map_eq_nil_iff]
  constructor
  · rintro (⟨ht, rfl⟩ | ⟨ht, ⟨hk, rfl⟩ | ⟨hk, ⟨hr, rfl⟩ | ⟨hr, current, hs, rfl⟩⟩⟩)
    · exact .table ht
    · exact .key ht hk
    · exact .empty ht hr rfl
    · exact .headed ht hk (fun _ => hr) hs
  · intro h
    cases h with
    | table ht => exact .inl ⟨ht, rfl⟩
    | key ht hk => exact .inr ⟨ht, .inl ⟨hk, rfl⟩⟩
    | empty ht hr =>
      subst hr
      exact .inr ⟨ht, .inr ⟨List.forall_mem_nil _, .inl ⟨rfl, rfl⟩⟩⟩
    | headed ht hk hr hs => exact .inr ⟨ht, .inr ⟨hk, .inr ⟨hr rfl, _, hs, rfl⟩⟩⟩

end Query

/-! ## What is written of a row -/

/-- The i-th key and the i-th value are each the i-th of their list. -/
def insertText (table : String) (row : List (String × Value)) : String :=
  "INSERT INTO " ++ Identifier.quote table ++ " (" ++ ",".intercalate (row.map fun p => Identifier.quote p.1) ++
    ") VALUES (" ++ ",".intercalate (row.map fun p => p.2.sql) ++ ")"

/-- The i-th key is set to the i-th value, in the i-th place. -/
def updateText (table : String) (row : List (String × Value)) : String :=
  "UPDATE " ++ Identifier.quote table ++ " SET " ++
    ", ".intercalate (row.map fun p => Identifier.quote p.1 ++ "=" ++ p.2.sql)

namespace Statement

def ofInsertedRow (table : String) (row : List (String × Value)) : Statement :=
  .insert table (row.map fun p => Column.ofText p.1) (row.map (·.2))

def ofUpdatedRow (table : String) (row : List (String × Value)) : Statement :=
  .update table (row.map fun p => (Column.ofText p.1, p.2))

theorem outcome_render_insertedRow (table : String) (row : List (String × Value)) :
    (ofInsertedRow table row).render.outcome = .ok (insertText table row) := by
  unfold insertText
  simp only [ofInsertedRow, render, Logged.outcome_pure, List.map_map, Function.comp_def, Column.quoted_ofText]

theorem outcome_render_updatedRow (table : String) (row : List (String × Value)) :
    (ofUpdatedRow table row).render.outcome = .ok (updateText table row) := by
  unfold updateText
  simp only [ofUpdatedRow, render, Logged.outcome_pure, List.map_map, Function.comp_def, Column.quoted_ofText]

end Statement

namespace Query

variable {q q' : Query} {s : Statement} {table head sql text : String} {row : List (String × Value)}

/-- The text of a query begins with that of its head, unless white space is cut at its end. -/
theorem exists_append_of_render (hs : q.statement = some s) (hh : s.render.outcome = .ok head)
    (hr : q.render = .ok sql) : (∃ rest, sql = head ++ rest) ∨ q.EndsLoose := by
  obtain ⟨s', head', limitSql, hs', hh', hl, hsql⟩ := render_eq_ok_iff.mp hr
  cases hs.symm.trans hs'
  cases hh.symm.trans hh'
  by_cases hloose : q.EndsLoose
  · exact .inr hloose
  · obtain ⟨rest, hrest⟩ := exists_spaced_cons head
      [Join.clause s.table q.joins, Filter.clause q.filters, Order.clause q.orders, limitSql]
    refine .inl ⟨rest, ?_⟩
    rw [← hsql, ← hrest]
    exact Decidable.not_not.mp (mt (joinStages_ne_iff hs hh hl).mp hloose)

/-- The query `q'` is `q` with the head `s`, of which `text` is written, before all other clauses. -/
structure GivenHead (q : Query) (s : Statement) (text : String) (q' : Query) : Prop where
  unstated : q.statement = none
  given : { q with statement := some s } = q'
  written : q'.stageText .head = .ok text
  rendered : q'.render = (Limit.clause q.limit).map fun limitSql =>
    joinStages [text, Join.clause s.table q.joins, Filter.clause q.filters, Order.clause q.orders, limitSql]

theorem givenHead (ht : s.render.outcome = .ok text) (h : q.setHead s = .ok q') : q.GivenHead s text q' := by
  obtain ⟨hq, rfl⟩ := setHead_eq_ok_iff.mp h
  refine ⟨hq, rfl, ht, ?_⟩
  rw [render_eq_stageTexts, mapM_stageText (s := s) rfl, ht]
  cases Limit.clause q.limit <;> rfl

theorem givenHead_of_insertRow (h : q.insertRow table row = .ok q') :
    q.GivenHead (.ofInsertedRow table row) (insertText table row) q' := by
  obtain ⟨-, -, h⟩ := insertRow_eq_ok_iff.mp h
  rw [List.map_map] at h
  exact givenHead (Statement.outcome_render_insertedRow table row) h

theorem givenHead_of_updateRow (h : q.updateRow table row = .ok q') :
    q.GivenHead (.ofUpdatedRow table row) (updateText table row) q' := by
  obtain ⟨-, -, h⟩ := updateRow_eq_ok_iff.mp h
  rw [zip_columns_row] at h
  exact givenHead (Statement.outcome_render_updatedRow table row) (setUpdate_eq_ok_iff.mp h).2

/-- Only an update ends loose. -/
theorem not_endsLoose_of_insert (hs : q'.statement = some (.ofInsertedRow table row)) : ¬ q'.EndsLoose := by
  rintro ⟨_, ⟨_, hu, -⟩, -⟩
  cases hs.symm.trans hu

theorem exists_append_of_render_insertRow (h : q.insertRow table row = .ok q') (hr : q'.render = .ok sql) :
    ∃ rest, sql = insertText table row ++ rest := by
  have hq := givenHead_of_insertRow h
  have hs : q'.statement = some (.ofInsertedRow table row) := by rw [← hq.given]
  exact (exists_append_of_render hs (Statement.outcome_render_insertedRow table row) hr).resolve_right
    (not_endsLoose_of_insert hs)

/-- What is cut of an update is the white space behind its last value, and that is raw SQL. -/
theorem exists_append_of_render_updateRow (h : q.updateRow table row = .ok q') (hr : q'.render = .ok sql) :
    (∃ rest, sql = updateText table row ++ rest) ∨
      ∃ front key raw before, row = front ++ [(key, .raw raw)] ∧ updateText table row = before ++ raw ∧
        sql = before ++ Text.trimEnd raw := by
  have hq := givenHead_of_updateRow h
  have hs : q'.statement = some (.ofUpdatedRow table row) := by rw [← hq.given]
  have ht := Statement.outcome_render_updatedRow table row
  refine (exists_append_of_render hs ht hr).imp_right ?_
  rintro ⟨as, hbare, hlast⟩
  obtain ⟨s', head, limitSql, hs', hh, hl, hsql⟩ := render_eq_ok_iff.mp hr
  cases hs.symm.trans hs'
  cases ht.symm.trans hh
  obtain ⟨_, hu, -⟩ := id hbare
  cases hs.symm.trans hu
  rcases List.eq_nil_or_concat row with hnil | ⟨front, ⟨key, value⟩, hrow⟩
  · obtain ⟨-, -, hset⟩ := updateRow_eq_ok_iff.mp h
    rw [hnil] at hset
    exact absurd rfl (setUpdate_eq_ok_iff.mp hset).1
  · rw [List.concat_eq_append] at hrow
    rw [hrow, List.map_append, List.map_singleton] at hbare hlast
    obtain ⟨raw, rfl, -⟩ := hlast _ List.getLast?_concat
    obtain ⟨before, htext, hjoin⟩ := hbare.exists_text hs ht hl
    exact ⟨front, key, raw, before, hrow, (hbare.text_eq_head hs hl).symm.trans htext, hsql.symm.trans hjoin⟩

/-! ## All of it -/

/-- Pairs are taken as the two lists that they are, whatever the query: the same query comes of it, or
the same error, and that is the first thing wrong. Where the call is taken, every key is written once
for each time it comes and every value in the place of its key, and the text of the query begins with
that; at most white space is cut, behind raw SQL that is the last value of an update. -/
theorem rows_as_lists (q : Query) (table : String) (row : List (String × Value)) :
    q.insertRow table row = q.insert table (row.map (·.1)) (row.map (·.2)) ∧
      q.updateRow table row = q.update table (row.map (·.1)) (row.map (·.2)) ∧
      (∀ e, q.insertRow table row = .error e ↔ q.RowFault table row .insert e) ∧
      (∀ e, q.updateRow table row = .error e ↔ q.RowFault table row .update e) ∧
      (∀ q', q.insertRow table row = .ok q' →
        q.GivenHead (.ofInsertedRow table row) (insertText table row) q' ∧
          ∀ sql, q'.render = .ok sql → ∃ rest, sql = insertText table row ++ rest) ∧
      ∀ q', q.updateRow table row = .ok q' →
        q.GivenHead (.ofUpdatedRow table row) (updateText table row) q' ∧
          ∀ sql, q'.render = .ok sql → (∃ rest, sql = updateText table row ++ rest) ∨
            ∃ front key raw before, row = front ++ [(key, .raw raw)] ∧ updateText table row = before ++ raw ∧
              sql = before ++ Text.trimEnd raw := by
  refine ⟨insertRow_eq_insert q table row, updateRow_eq_update q table row, fun e => insertRow_eq_error_iff,
    fun e => updateRow_eq_error_iff, fun q' h => ⟨givenHead_of_insertRow h, fun sql => ?_⟩,
    fun q' h => ⟨givenHead_of_updateRow h, fun sql => ?_⟩⟩
  · exact exists_append_of_render_insertRow h
  · exact exists_append_of_render_updateRow h

/-- A key that comes twice, one with a dot, and a text that looks like the end of a value. -/
theorem rows_as_lists_same_key_twice :
    let q := Query.run ∅ [.compare .first (.bare "id") .eq (.int 7)]
    let row : List (String × Value) := [("a", .int 1), ("b.c", .text "x', y"), ("a", .raw "NOW() ")]
    ∃ inserted updated, q.insertRow "t" row = .ok inserted ∧ q.updateRow "t" row = .ok updated ∧
      q.GivenHead (.ofInsertedRow "t" row)
        "INSERT INTO \x60t\x60 (\x60a\x60,\x60b\x60.\x60c\x60,\x60a\x60) VALUES (1,'x'', y',NOW() )" inserted ∧
      q.GivenHead (.ofUpdatedRow "t" row)
        "UPDATE \x60t\x60 SET \x60a\x60=1, \x60b\x60.\x60c\x60='x'', y', \x60a\x60=NOW() " updated ∧
      q.insert "t" ["a", "b.c", "a"] [.int 1, .text "x', y", .raw "NOW() "] = .ok inserted ∧
      (∃ rest, inserted.render =
        .ok ("INSERT INTO \x60t\x60 (\x60a\x60,\x60b\x60.\x60c\x60,\x60a\x60) VALUES (1,'x'', y',NOW() )" ++ rest)) ∧
      updated.insertRow "t" row = .error (.statementConflict "UPDATE" "t" "INSERT") := by
  intro q row
  obtain ⟨hinsert, -, -, -, hinserted, hupdated⟩ := rows_as_lists q "t" row
  obtain ⟨inserted, hi⟩ : ∃ inserted, q.insertRow "t" row = .ok inserted := ⟨_, rfl⟩
  obtain ⟨updated, hu⟩ : ∃ updated, q.updateRow "t" row = .ok updated := ⟨_, rfl⟩
  obtain ⟨hihead, hirest⟩ := hinserted inserted hi
  obtain ⟨huhead, -⟩ := hupdated updated hu
  have hitext : insertText "t" row =
      "INSERT INTO \x60t\x60 (\x60a\x60,\x60b\x60.\x60c\x60,\x60a\x60) VALUES (1,'x'', y',NOW() )" := by decide +kernel
  have hutext : updateText "t" row =
      "UPDATE \x60t\x60 SET \x60a\x60=1, \x60b\x60.\x60c\x60='x'', y', \x60a\x60=NOW() " := by decide +kernel
  rw [hitext] at hihead hirest
  rw [hutext] at huhead
  have hirender : ∃ sql, inserted.render = .ok sql := ⟨_, hihead.rendered⟩
  obtain ⟨sql, hsql⟩ := hirender
  obtain ⟨rest, rfl⟩ := hirest sql hsql
  refine ⟨inserted, updated, hi, hu, hihead, huhead, hinsert.symm.trans hi, ⟨rest, hsql⟩, ?_⟩
  obtain ⟨-, -, hfails, -⟩ := rows_as_lists updated "t" row
  have hs : updated.statement = some (.ofUpdatedRow "t" row) := by rw [← huhead.given]
  have hkeys : ∀ p ∈ row, ¬ Blank p.1 := by decide
  exact (hfails (conflict (.ofUpdatedRow "t" row) .insert)).mpr (.headed (by decide) hkeys nofun hs)

end Query

end SqlClauses
