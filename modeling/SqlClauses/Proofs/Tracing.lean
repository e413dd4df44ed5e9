/-
  SqlClauses.Proofs.Tracing — what tracers log, and how much of a statement they show.

  A tracer shows the longest text that a statement begins with and that fits into its limit.
  Of the bytes that it may show it gives up three at most: a character has four at most, so
  going back from the limit comes to where one begins within three bytes.

  Tracers around tracers log in turn. On the way in each announces the whole statement, the
  outermost first; then the executor inside is given it, once; and if that fails, on the way
  out each logs the error, the innermost first. What the inner tracers log stands together,
  between what the outer ones log before and after it. Rendering and preparing are over by
  then, and where they fail none of this is logged.

  Main statements: `isLongestWithin_clip` and `le_backOff_add_three`, what is shown;
  `truncation_exact`, with the tracers; `events_tracedBy_append`, a part of the stack at a
  time; `send_preparedSql`, what stands before it; `layers_log_in_turn`, all of it.
-/

import SqlClauses.Proofs.Executors
import SqlClauses.Proofs.Rendering

namespace SqlClauses

namespace Text

/-! ## How much is shown -/

/-- Of the texts that `s` begins with, the longest that has at most `n` bytes. -/
structure IsLongestWithin (n : Nat) (s t : String) : Prop where
  begins : ∃ rest, s = t ++ rest
  fits : t.utf8ByteSize ≤ n
  longest : ∀ u rest, s = u ++ rest → u.utf8ByteSize ≤ n → ∃ more, t = u ++ more

theorem exists_splits {s t rest : String} (h : s = t ++ rest) : ∃ p : s.Pos, p.Splits t rest :=
  ⟨s.pos t.rawEndPos (String.Pos.Raw.isValid_iff_exists_append.mpr ⟨t, rest, h, rfl⟩), h, rfl⟩

/-- Of two texts that the same text begins with, the longer begins with the other. -/
theorem exists_append_of_size_le {s t t' rest rest' : String} (h : s = t ++ rest) (h' : s = t' ++ rest')
    (hle : t.utf8ByteSize ≤ t'.utf8ByteSize) : ∃ more, t' = t ++ more := by
  obtain ⟨p, hp⟩ := exists_splits h
  obtain ⟨p', hp'⟩ := exists_splits h'
  have hpos : p ≤ p' := by
    rw [String.Pos.le_iff, hp.offset_eq_rawEndPos, hp'.offset_eq_rawEndPos]
    exact hle
  obtain ⟨more, hmore, -⟩ := (hp.le_iff_exists_eq_append hp').mp hpos
  exact ⟨more, hmore⟩

theorem isLongestWithin_clip (n : Nat) (s : String) : IsLongestWithin n s (clip n s) := by
  by_cases h : s.utf8ByteSize ≤ n
  · rw [clip_of_le h]
    exact ⟨⟨"", String.append_empty.symm⟩, h, fun u rest hs _ => ⟨rest, hs⟩⟩
  · obtain ⟨⟨rest, hclip⟩, hsize⟩ := clip_of_lt (Nat.not_le.mp h)
    refine ⟨⟨rest, hclip⟩, hsize ▸ backOff_le s n, fun u rest' hu hn => ?_⟩
    have hle : u.utf8ByteSize ≤ backOff s n := le_backOff (isBoundary_iff.mpr ⟨u, rest', hu, rfl⟩) hn
    exact exists_append_of_size_le hu hclip (hsize ▸ hle)

/-- One character more would fit if more than three bytes were left. -/
theorem IsLongestWithin.le_add_three {n : Nat} {s t : String} (h : IsLongestWithin n s t)
    (hn : n < s.utf8ByteSize) : n ≤ t.utf8ByteSize + 3 := by
  obtain ⟨rest, hs⟩ := h.begins
  obtain ⟨p, hp⟩ := exists_splits hs
  have hfits := h.fits
  have hend : p ≠ s.endPos := by
    intro he
    rw [hs, hp.eq_endPos_iff.mp he, String.append_empty] at hn
    omega
  obtain ⟨rest', hrest⟩ := hp.exists_eq_singleton_append hend
  by_contra hlt
  have hfour := (p.get hend).utf8Size_le_four
  have hpos := (p.get hend).utf8Size_pos
  have hnext : s = t ++ String.singleton (p.get hend) ++ rest' := by rw [String.append_assoc, ← hrest, ← hs]
  have hsize : (t ++ String.singleton (p.get hend)).utf8ByteSize = t.utf8ByteSize + (p.get hend).utf8Size := by
    rw [String.utf8ByteSize_append, String.utf8ByteSize_singleton]
  obtain ⟨more, hmore⟩ := h.longest _ rest' hnext (by omega)
  have hlonger := congrArg String.utf8ByteSize hmore
  rw [String.utf8ByteSize_append, hsize] at hlonger
  omega

/-- Going back takes three steps at most, and passes over bytes only that begin no character. -/
theorem le_backOff_add_three {n : Nat} {s : String} (hn : n < s.utf8ByteSize) :
    n ≤ backOff s n + 3 ∧ ∀ i, backOff s n < i → i ≤ n → isBoundary s i = false := by
  obtain ⟨-, hsize⟩ := clip_of_lt hn
  refine ⟨hsize ▸ (isLongestWithin_clip n s).le_add_three hn, fun i hi hin => ?_⟩
  rw [Bool.eq_false_iff]
  intro hb
  have := le_backOff hb hin
  omega

theorem before?_backOff {n : Nat} {s : String} (hn : n < s.utf8ByteSize) :
    before? s (backOff s n) = some (clip n s) :=
  before?_eq_some_iff.mpr (clip_of_lt hn)

/-- A text over the limit is cut where a character begins, at most three bytes before it, and what is
kept is the longest that fits. A tracer shows that and three dots, and a text that is not over its
limit as it is. -/
theorem truncation_exact (s : String) :
    (∀ n, clip? n s = some (clip n s) ∧ IsLongestWithin n s (clip n s) ∧
        (n < s.utf8ByteSize → n ≤ (clip n s).utf8ByteSize + 3 ∧ before? s (backOff s n) = some (clip n s) ∧
          isBoundary s (backOff s n) = true ∧ backOff s n ≤ n ∧ n ≤ backOff s n + 3 ∧
          ∀ i, backOff s n < i → i ≤ n → isBoundary s i = false)) ∧
      ∀ tracer : Tracer, shorten tracer.limit s =
        match tracer.limit with
        | none => s
        | some n => if s.utf8ByteSize ≤ n then s else clip n s ++ "..." := by
  refine ⟨fun n => ⟨clip?_eq_some_clip n s, isLongestWithin_clip n s, fun hn => ?_⟩, fun tracer => ?_⟩
  · obtain ⟨hthree, hpassed⟩ := le_backOff_add_three hn
    exact ⟨(isLongestWithin_clip n s).le_add_three hn, before?_backOff hn, isBoundary_backOff s n, backOff_le s n,
      hthree, hpassed⟩
  · cases tracer.limit with
    | none => exact shorten_none s
    | some n =>
      by_cases h : s.utf8ByteSize ≤ n
      · exact (shorten_of_le h).trans (if_pos h).symm
      · exact (shorten_of_lt (Nat.not_le.mp h)).trans (if_neg h).symm

/-- The limit is before the last byte of a character of four. -/
theorem truncation_exact_inside_character :
    let s := "é€😀"
    8 < s.utf8ByteSize ∧ backOff s 8 = 5 ∧ clip 8 s = "é€" ∧ IsLongestWithin 8 s "é€" ∧
      shorten (Tracer.limit { limit := some 8 }) s = "é€..." := by
  intro s
  obtain ⟨hcut, hshown⟩ := truncation_exact s
  obtain ⟨-, hlongest, hlong⟩ := hcut 8
  have hn : 8 < s.utf8ByteSize := by decide
  have hback : backOff s 8 = 5 := by decide +kernel
  have hclip : clip 8 s = "é€" := by
    have hbefore : before? s 5 = some (clip 8 s) := hback ▸ (hlong hn).2.1
    have hprefix : before? s 5 = some "é€" := before?_eq_some_iff.mpr ⟨⟨"😀", by decide⟩, by decide⟩
    exact Option.some.inj (hbefore.symm.trans hprefix)
  refine ⟨hn, hback, hclip, hclip ▸ hlongest, (hshown { limit := some 8 }).trans ?_⟩
  show (if s.utf8ByteSize ≤ 8 then s else clip 8 s ++ "...") = _
  rw [if_neg (Nat.not_le.mpr hn), hclip]
  decide

end Text

/-! ## One statement through a stack -/

variable {σ ρ : Type}

/-- What so many tracers log of an outcome: nothing if it is a result. -/
def failureLog (layers : Nat) : Except Error ρ → List Event
  | .ok _ => []
  | .error e => List.replicate layers (.failed e.message)

theorem failureLog_succ (layers : Nat) (o : Except Error ρ) :
    failureLog (layers + 1) o = failureLog layers o ++ failureEvents o := by
  cases o with
  | ok => rfl
  | error e => exact List.replicate_succ'

namespace Executor

/-- How a statement goes through the tracers to the executor and back. -/
structure Layered (ex : Executor σ ρ) (ts : List Tracer) (sql : String) (m : σ) : Prop where
  events : ((ex.tracedBy ts).execute sql m).events =
    (ts.map fun t => .executing t.level sql.utf8ByteSize (Text.shorten t.limit sql)) ++
      (ex.execute sql m).events ++ failureLog ts.length (ex.execute sql m).outcome
  announced : (ts.map (·.announcement sql)).map Event.level = ts.map Tracer.level
  failed : ∀ ev ∈ failureLog ts.length (ex.execute sql m).outcome, ev.level = .debug
  /-- Whatever the executor was given before, it is given this text behind it, and no other. -/
  once : ∀ given, ((ex.recording.tracedBy ts).execute sql (m, given)).memory = ((ex.execute sql m).memory, given ++ [sql])
  memory : ((ex.tracedBy ts).execute sql m).memory = (ex.execute sql m).memory
  outcome : ((ex.tracedBy ts).execute sql m).outcome = (ex.execute sql m).outcome

variable (ex : Executor σ ρ) (sql : String) (m : σ)

/-- What the inner tracers log stands together, between what the outer ones log before and after. -/
theorem events_tracedBy_append (outer inner : List Tracer) :
    ((ex.tracedBy (outer ++ inner)).execute sql m).events =
      outer.map (·.announcement sql) ++ ((ex.tracedBy inner).execute sql m).events ++
        failureLog outer.length (ex.execute sql m).outcome := by
  induction outer with
  | nil => cases (ex.execute sql m).outcome <;> simp [failureLog]
  | cons t outer ih =>
    have houtcome := (ex.simulates_tracedBy (outer ++ inner)).outcome sql m
    rw [id_eq] at houtcome
    rw [List.cons_append, tracedBy_cons, events_traced, houtcome, ih, List.length_cons, failureLog_succ]
    simp only [List.map_cons, List.cons_append, List.append_assoc]

theorem level_of_mem_failureLog {layers : Nat} {o : Except Error ρ} {ev : Event} (h : ev ∈ failureLog layers o) :
    ev.level = .debug := by
  cases o with
  | ok => cases h
  | error e =>
    rw [List.eq_of_mem_replicate h]
    rfl

theorem layered (ts : List Tracer) : ex.Layered ts sql m where
  events := by
    have h := events_tracedBy_append ex sql m ts []
    rwa [List.append_nil] at h
  announced := List.map_map
  failed _ := level_of_mem_failureLog
  once given := (ex.recording.simulates_tracedBy ts).memory sql (m, given)
  memory := (ex.simulates_tracedBy ts).memory sql m
  outcome := (ex.simulates_tracedBy ts).outcome sql m

end Executor

/-! ## What stands before it -/

/-- The event tells of rendering. -/
def Event.isRendering : Event → Bool
  | .stage .. | .rendered .. => true
  | .prepared _ | .executing .. | .failed _ => false

namespace Query

theorem isRendering_of_mem_stageEvents {texts : List String} {ev : Event} (h : ev ∈ stageEvents texts) :
    ev.isRendering = true := by
  obtain ⟨i, hi, rfl⟩ := List.mem_iff_getElem.mp h
  simp only [stageEvents, List.getElem_zipWith]
  rfl

theorem isRendering_of_mem_log {q : Query} {ev : Event} (h : ev ∈ q.log) : ev.isRendering = true := by
  induction q using induct_subqueries generalizing ev with
  | step q ih =>
    have hnested : ∀ {n}, n ∈ q.subqueries → ev ∈ n.log → ev.isRendering = true := fun hn hev => ih _ hn hev
    have hall : ev ∈ q.subqueries.flatMap log → ev.isRendering = true := fun hev => by
      obtain ⟨n, hn, hev⟩ := List.mem_flatMap.mp hev
      exact hnested hn hev
    have hq := q.rendering
    rw [log] at h
    generalize q.renderLogged = l at hq h
    cases hq with
    | unstated => cases h
    | @nested table before after n name e hs _ _ =>
      have hsub : q.subqueries = (before ++ .subquery n name :: after).filterMap Key.nested? := subqueries_of_statement hs
      rw [List.filterMap_append, Key.nested_cons] at hsub
      rcases List.mem_append.mp h with hev | hev
      · obtain ⟨p, hp, hev⟩ := List.mem_flatMap.mp hev
        exact hnested (hsub ▸ List.mem_append_left _ hp) hev
      · have hn : n ∈ (Key.subquery n name).nested?.toList := List.mem_singleton.mpr rfl
        exact hnested (hsub ▸ List.mem_append_right _ (List.mem_append_left _ hn)) hev
    | unlimited =>
      rcases List.mem_append.mp h with hev | hev
      · exact hall hev
      · exact isRendering_of_mem_stageEvents hev
    | finished =>
      rcases List.mem_append.mp h with hev | hev
      · rcases List.mem_append.mp hev with hev | hev
        · exact hall hev
        · exact isRendering_of_mem_stageEvents hev
      · rw [List.mem_singleton.mp hev]
        rfl

end Query

namespace Request

variable {r : Request}

theorem preparedSql_of_ok {sql : String} (h : r.query.render = .ok sql) :
    r.preparedSql = ⟨r.query.log ++ (if r.announce then [.prepared sql] else []), .ok sql⟩ := by
  rw [preparedSql, Query.renderLogged_of_ok h]
  cases r.announce <;> rfl

theorem preparedSql_of_error {e : Error} (h : r.query.render = .error e) :
    r.preparedSql = ⟨r.query.log, .error e⟩ := by
  rw [preparedSql, Query.renderLogged_of_error h]
  rfl

/-- Nothing is sent before all of it is rendered and announced. -/
theorem send_preparedSql (r : Request) (ex : Executor σ ρ) (m : σ) :
    r.preparedSql.send ex m =
      match r.query.render with
      | .ok sql => { ex.execute sql m with events :=
          r.query.log ++ (if r.announce then [.prepared sql] else []) ++ (ex.execute sql m).events }
      | .error e => ⟨r.query.log, .error e, m⟩ := by
  cases h : r.query.render with
  | ok sql => rw [preparedSql_of_ok h, Logged.send_of_ok rfl]
  | error e => rw [preparedSql_of_error h, Logged.send_of_error rfl]

/-- With any tracers around any executor, each statement is announced by all of them, the outermost
first, run once, and if it fails reported by all of them, the innermost first. When a request goes,
what it logs of rendering comes first, then that it is prepared, if that is to be announced; if it
does not render, nothing else is logged and nothing is run. -/
theorem layers_log_in_turn (ex : Executor σ ρ) (ts : List Tracer) :
    (∀ sql m, ex.Layered ts sql m) ∧
      (∀ sql m outer inner, ((ex.tracedBy (outer ++ inner)).execute sql m).events =
        outer.map (·.announcement sql) ++ ((ex.tracedBy inner).execute sql m).events ++
          failureLog outer.length (ex.execute sql m).outcome) ∧
      (∀ (r : Request) (m : σ), (r.go (ex.tracedBy ts) m).2 =
        match r.query.render with
        | .ok sql => { (ex.tracedBy ts).execute sql m with events :=
            r.query.log ++ (if r.announce then [.prepared sql] else []) ++ ((ex.tracedBy ts).execute sql m).events }
        | .error e => ⟨r.query.log, .error e, m⟩) ∧
      (∀ sql, (Event.prepared sql).level = .info) ∧ ∀ (q : Query), ∀ ev ∈ q.log, ev.isRendering = true := by
  refine ⟨fun sql m => ex.layered sql m ts, fun sql m => ex.events_tracedBy_append sql m, fun r m => ?_, fun _ => rfl,
    fun q ev => Query.isRendering_of_mem_log⟩
  exact send_preparedSql r (ex.tracedBy ts) m

/-- Two tracers around an executor that refuses what it is given. -/
theorem layers_log_in_turn_refused :
    let ex := Executor.journal fun _ => some (.connection "refused")
    let ts : List Tracer := [{ level := .info, limit := some 6 }, { limit := none }]
    let r : Request := ⟨Query.runActions ∅ [.call (.delete "t")], true⟩
    .stage .head "DELETE FROM \x60t\x60" ∈ r.query.log ∧ (∀ ev ∈ r.query.log, ev.isRendering = true) ∧
      (r.go (ex.tracedBy ts) []).2.events = r.query.log ++ [.prepared "DELETE FROM \x60t\x60"] ++
        [.executing .info 15 "DELETE...", .executing .debug 15 "DELETE FROM \x60t\x60",
          .failed "Connection error: refused", .failed "Connection error: refused"] := by
  intro ex ts r
  obtain ⟨hlayered, -, hgo, -, hlog⟩ := layers_log_in_turn ex ts
  have hr : r.query.render = .ok "DELETE FROM \x60t\x60" := by decide +kernel
  have hevents : ((ex.tracedBy ts).execute "DELETE FROM \x60t\x60" []).events =
      [.executing .info 15 "DELETE...", .executing .debug 15 "DELETE FROM \x60t\x60",
        .failed "Connection error: refused", .failed "Connection error: refused"] :=
    (hlayered _ []).events.trans (by decide +kernel)
  refine ⟨by decide +kernel, hlog r.query, ?_⟩
  rw [hgo r [], hr]
  exact congrArg (fun events => r.query.log ++ [.prepared "DELETE FROM \x60t\x60"] ++ events) hevents

end Request

end SqlClauses
