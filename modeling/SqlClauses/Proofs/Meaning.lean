/-
  SqlClauses.Proofs.Meaning — what a WHERE clause says of a row.

  Filters are given one after the other: an `and` filter holds together with the run before it,
  an `or` filter closes that run and starts another (`Filter.meaning`). What is written is a row of
  groups in parentheses. Read as a server reads it, with AND before OR, the clause says the same,
  whatever is true, false or unknown of each predicate; a predicate that is given twice
  may come to something else each time.

  Main statements: `clause_eq_text`, the clause as marks; `exists_formula`, the marks as a
  formula, and its value; `length_groups`, how many groups there are;
  `Reachable.where_keeps_meaning`, all of it for every query there is.
-/

import SqlClauses.Proofs.Formula
import SqlClauses.Proofs.Groups
import SqlClauses.Proofs.Reachable

namespace SqlClauses

namespace Filter

/-- A filter, and what its predicate comes to. -/
abbrev Judged := Filter × Truth

/-- One filter more: it joins the run that is open, or closes it. -/
def tally (t : Tally) (o : Judged) : Tally :=
  match o.1.link with
  | .and => t.conjoin o.2
  | .first | .or => ⟨t.total, o.2⟩

theorem tally_and {o : Judged} (h : o.1.link = .and) (t : Tally) : tally t o = t.conjoin o.2 := by
  rw [tally, h]

theorem first_or_or_of_ne_and {l : Link} (h : l ≠ .and) : l = .first ∨ l = .or := by
  cases l with
  | first => exact .inl rfl
  | or => exact .inr rfl
  | and => exact absurd rfl h

theorem tally_opens {o : Judged} (h : o.1.link ≠ .and) (t : Tally) : tally t o = ⟨t.total, o.2⟩ := by
  rw [tally]
  rcases first_or_or_of_ne_and h with hl | hl
  · rw [hl]
  · rw [hl]

/-- The filters taken together in call order. Where there are none, every row will do. -/
def meaning : List Judged → Truth
  | [] => .true
  | o :: os => (os.foldl tally ⟨.false, o.2⟩).total

/-! ## The clause as marks -/

/-- What stands between a filter and those before it. -/
def linkMarks : Link → List (Mark Judged)
  | .first | .or => [.closing, .or, .opening]
  | .and => [.and]

def clauseMarks : List Judged → List (Mark Judged)
  | [] => []
  | o :: os => [.opening, .atom o] ++ os.flatMap (fun p => linkMarks p.1.link ++ [.atom p]) ++ [.closing]

def text (ms : List (Mark Judged)) : String := Mark.text (fun o => o.1.predicate.sql) ms

theorem text_link (o : Judged) : text (linkMarks o.1.link ++ [.atom o]) = separator o.1.link ++ o.1.predicate.sql := by
  have hopens : separator .or = ")" ++ (" OR " ++ "(") := rfl
  cases o.1.link with
  | first | or =>
    show _ = separator .or ++ _
    rw [hopens]
    simp only [text, linkMarks, List.cons_append, List.nil_append, Mark.text, Mark.sql, String.append_empty,
      String.append_assoc]
  | and => simp only [text, linkMarks, List.singleton_append, Mark.text, Mark.sql, separator, String.append_empty]

theorem linkedSql_eq_text (os : List Judged) :
    linkedSql (os.map Prod.fst) = text (os.flatMap fun o => linkMarks o.1.link ++ [.atom o]) := by
  induction os with
  | nil => rfl
  | cons o os ih =>
    have hlink := text_link o
    unfold text at *
    rw [List.map_cons, linkedSql, ih, List.flatMap_cons, Mark.text_append, hlink]

theorem clause_eq_text {os : List Judged} (h : os ≠ []) :
    clause (os.map Prod.fst) = "WHERE " ++ text (clauseMarks os) := by
  obtain ⟨o, os, rfl⟩ := List.exists_cons_of_ne_nil h
  have hwhere : "WHERE (" = "WHERE " ++ "(" := rfl
  have hlinked := linkedSql_eq_text os
  unfold text at *
  rw [List.map_cons, clause_cons, hlinked, clauseMarks, Mark.text_append, Mark.text_append, hwhere]
  simp only [Mark.text, Mark.sql, String.append_assoc, String.append_empty]

theorem atoms_linked (os : List Judged) :
    (os.flatMap fun p => linkMarks p.1.link ++ [.atom p]).filterMap Mark.atom? = os := by
  induction os with
  | nil => rfl
  | cons o os ih =>
    have hlink : (linkMarks o.1.link).filterMap Mark.atom? = [] := by cases o.1.link <;> rfl
    rw [List.flatMap_cons, List.filterMap_append, List.filterMap_append, ih, hlink]
    rfl

/-- Each predicate stands in the clause once, in call order. -/
theorem atoms_clauseMarks (os : List Judged) : (clauseMarks os).filterMap Mark.atom? = os := by
  cases os with
  | nil => rfl
  | cons o os =>
    rw [clauseMarks, List.filterMap_append, List.filterMap_append, atoms_linked]
    show [o] ++ os ++ [] = _
    rw [List.append_nil, List.singleton_append]

/-! ## The clause as a formula -/

/-- A group more, behind the groups before it. -/
def close : Option (Formula Judged) → Formula Judged → Formula Judged
  | none, run => .group run
  | some f, run => .or f (.group run)

/-- The formula for the groups that are `closed`, a run that is open, and the filters after it. -/
def build (closed : Option (Formula Judged)) (run : Formula Judged) : List Judged → Formula Judged
  | [] => close closed run
  | o :: os =>
    match o.1.link with
    | .and => build closed (.and run (.atom o)) os
    | .first | .or => build (some (close closed run)) (.atom o) os

variable {closed : Option (Formula Judged)} {run : Formula Judged}

theorem build_cons_and {o : Judged} (h : o.1.link = .and) (os : List Judged) :
    build closed run (o :: os) = build closed (.and run (.atom o)) os := by
  rw [build, h]

theorem build_cons_opens {o : Judged} (h : o.1.link ≠ .and) (os : List Judged) :
    build closed run (o :: os) = build (some (close closed run)) (.atom o) os := by
  rw [build]
  rcases first_or_or_of_ne_and h with hl | hl
  · rw [hl]
  · rw [hl]

/-- The marks of the groups before a group. -/
def lead : Option (Formula Judged) → List (Mark Judged)
  | none => []
  | some f => f.marks ++ [.or]

theorem marks_close (closed : Option (Formula Judged)) (run : Formula Judged) :
    (close closed run).marks = lead closed ++ [.opening] ++ run.marks ++ [.closing] := by
  cases closed <;> simp [close, lead, Formula.marks]

theorem marks_build (closed : Option (Formula Judged)) (run : Formula Judged) (os : List Judged) :
    (build closed run os).marks =
      lead closed ++ [.opening] ++ run.marks ++ os.flatMap (fun p => linkMarks p.1.link ++ [.atom p]) ++
        [.closing] := by
  induction os generalizing closed run with
  | nil => rw [build, marks_close, List.flatMap_nil, List.append_nil]
  | cons o os ih =>
    by_cases h : o.1.link = .and
    · rw [build_cons_and h, ih, List.flatMap_cons, h]
      simp [Formula.marks, linkMarks]
    · have hlink : linkMarks o.1.link = [.closing, .or, .opening] := by
        rcases first_or_or_of_ne_and h with hl | hl
        · rw [hl]; rfl
        · rw [hl]; rfl
      rw [build_cons_opens h, ih, List.flatMap_cons, hlink, lead, marks_close]
      simp [Formula.marks]

theorem tight_close (hc : ∀ f, closed = some f → f.Tight) (hr : run.Tight) : (close closed run).Tight := by
  cases closed with
  | none => exact hr
  | some f => exact ⟨hc f rfl, hr⟩

theorem tight_build {os : List Judged} (hc : ∀ f, closed = some f → f.Tight) (hr : run.Tight) (hn : ¬ run.IsOr) :
    (build closed run os).Tight := by
  induction os generalizing closed run with
  | nil => exact tight_close hc hr
  | cons o os ih =>
    by_cases h : o.1.link = .and
    · rw [build_cons_and h]
      exact ih hc ⟨hr, hn, trivial, id⟩ id
    · rw [build_cons_opens h]
      refine ih (fun f hf => ?_) trivial id
      cases hf
      exact tight_close hc hr

/-- What the closed groups come to, and the run that is open. -/
def tallied (closed : Option (Formula Judged)) (run : Formula Judged) : Tally :=
  ⟨closed.elim .false (·.value Prod.snd), run.value Prod.snd⟩

theorem value_close (closed : Option (Formula Judged)) (run : Formula Judged) :
    (close closed run).value Prod.snd = (tallied closed run).total := by
  cases closed <;> rfl

theorem value_build (closed : Option (Formula Judged)) (run : Formula Judged) (os : List Judged) :
    (build closed run os).value Prod.snd = (os.foldl tally (tallied closed run)).total := by
  induction os generalizing closed run with
  | nil => exact value_close closed run
  | cons o os ih =>
    rw [List.foldl_cons]
    by_cases h : o.1.link = .and
    · rw [build_cons_and h, ih, tally_and h]
      rfl
    · rw [build_cons_opens h, ih, tally_opens h, ← value_close]
      rfl

/-- The marks of the clause can be read, and what is read comes to the meaning of the filters. -/
theorem exists_formula {os : List Judged} (h : os ≠ []) :
    ∃ f : Formula Judged, f.Tight ∧ f.marks = clauseMarks os ∧ f.value Prod.snd = meaning os := by
  obtain ⟨o, os, rfl⟩ := List.exists_cons_of_ne_nil h
  refine ⟨build none (.atom o) os, tight_build nofun trivial id, ?_, value_build none (.atom o) os⟩
  rw [marks_build]
  rfl

theorem value_of_marks {os : List Judged} (h : os ≠ []) {f : Formula Judged} (hf : f.Tight)
    (hm : f.marks = clauseMarks os) : f.value Prod.snd = meaning os := by
  obtain ⟨g, hg, hgm, hvalue⟩ := exists_formula h
  rw [← hvalue]
  exact Formula.value_eq_of_marks_eq Prod.snd hf hg (hm.trans hgm.symm)

/-! ## Groups -/

theorem flatten_groups (fs : List Filter) : (groups fs).flatten = fs := List.flatten_splitBy _ fs

theorem ne_nil_of_mem_groups {fs g : List Filter} (h : g ∈ groups fs) : g ≠ [] := by
  rintro rfl
  exact List.nil_notMem_splitBy _ fs h

theorem length_groups_cons (f : Filter) (fs : List Filter) :
    (groups (f :: fs)).length = 1 + fs.countP (·.link.opensGroup) := by
  induction fs generalizing f with
  | nil => rfl
  | cons g fs ih =>
    cases h : g.link.opensGroup with
    | true =>
      have hcount := List.countP_cons_of_pos (p := fun f : Filter => f.link.opensGroup) (l := fs) h
      rw [groups_cons_of_opensGroup f h, List.length_cons, ih, hcount]
      omega
    | false =>
      obtain ⟨t, gs, hg, hf⟩ := groups_cons_of_not_opensGroup f h fs
      have hlength := congrArg List.length hg
      rw [ih] at hlength
      rw [hf, List.countP_cons_of_neg (by simp [h]), hlength]
      rfl

/-- One group for the first filter, and one for each `or`. -/
theorem length_groups {fs : List Filter} (h : IsClause fs) (hne : fs ≠ []) :
    (groups fs).length = 1 + fs.countP (·.link = .or) := by
  obtain ⟨f, fs, rfl⟩ := List.exists_cons_of_ne_nil hne
  obtain ⟨hfirst, hrest⟩ := h
  have hopens : fs.countP (·.link.opensGroup) = fs.countP (·.link = .or) := by
    refine List.countP_congr fun g hg => ?_
    have hlink := hrest g hg
    cases hl : g.link with
    | first => exact absurd hl hlink
    | or | and => simp [Link.opensGroup]
  rw [length_groups_cons, hopens, List.countP_cons_of_neg (by simp [hfirst])]

end Filter

namespace Query

/-- A WHERE clause keeps the meaning of the calls. Take any truth values for its predicates, one for each
filter. The clause is written with some marks, which hold each predicate once and in call order; they
can be read, and all that they can be read as comes to what the filters come to from left to right. No
group is empty, and there is one for the first filter and one for each `or`. -/
theorem Reachable.where_keeps_meaning {q : Query} (h : q.Reachable) {os : List Filter.Judged}
    (hos : os.map Prod.fst = q.filters) :
    (q.filters = [] → Filter.clause q.filters = "" ∧ Filter.groups q.filters = []) ∧
      (q.filters ≠ [] → ∃ ms : List (Mark Filter.Judged), Filter.clause q.filters = "WHERE " ++ Filter.text ms ∧
        ms.filterMap Mark.atom? = os ∧ (∃ f : Formula Filter.Judged, f.Tight ∧ f.marks = ms) ∧
        ∀ f : Formula Filter.Judged, f.Tight → f.marks = ms → f.value Prod.snd = Filter.meaning os) ∧
      (∀ g ∈ Filter.groups q.filters, g ≠ []) ∧ (Filter.groups q.filters).flatten = q.filters ∧
      (q.filters ≠ [] → (Filter.groups q.filters).length = 1 + q.filters.countP (·.link = .or)) := by
  refine ⟨fun hnil => ?_, fun hne => ?_, fun _ => Filter.ne_nil_of_mem_groups, Filter.flatten_groups _,
    Filter.length_groups h.wellFormed.links⟩
  · rw [hnil]
    exact ⟨rfl, rfl⟩
  · have hne : os ≠ [] := by
      rintro rfl
      exact hne hos.symm
    obtain ⟨f, hf, hm, -⟩ := Filter.exists_formula hne
    refine ⟨Filter.clauseMarks os, ?_, Filter.atoms_clauseMarks os, ⟨f, hf, hm⟩,
      fun g => Filter.value_of_marks hne⟩
    rw [← hos]
    exact Filter.clause_eq_text hne

/-- The same predicate twice, unknown the first time and true the second, and one more that is false. -/
theorem where_keeps_meaning_or_then_and :
    let random := Value.raw "RAND()"
    let q := Query.runActions ∅ [.call (.compare .first (.bare "a") .lt random), .call (.select "t" [] []),
      .call (.compare .or (.bare "a") .lt random), .call (.compare .and (.bare "b") .eq .null)]
    let os := q.filters.zip [.unknown, .true, .false]
    q.Reachable ∧ os.map Prod.fst = q.filters ∧ Filter.meaning os = .unknown ∧
      (Filter.groups q.filters).length = 2 ∧ ∃ ms, Filter.clause q.filters = "WHERE " ++ Filter.text ms ∧
        ∀ f : Formula Filter.Judged, f.Tight → f.marks = ms → f.value Prod.snd = .unknown := by
  intro random q os
  have hq : q.Reachable := reachable_runActions fun a ha => by
    simp only [List.mem_cons, List.not_mem_nil, or_false] at ha
    rcases ha with rfl | rfl | rfl | rfl <;> rfl
  have hos : os.map Prod.fst = q.filters := rfl
  obtain ⟨-, hclause, -, -, hlength⟩ := hq.where_keeps_meaning hos
  obtain ⟨ms, htext, -, -, hvalue⟩ := hclause nofun
  exact ⟨hq, hos, rfl, hlength nofun, ms, htext, hvalue⟩

end Query

end SqlClauses
