/-
  SqlClauses.Proofs.Dispatch — which SQL is stored, and which reaches the executor.

  A request is prepared now and then in a run, clauses are added in between, and any
  rendering and any statement may fail. What is stored at the end is what was rendered when
  the request was last prepared with success (`Latest`), or what it came with.

  Three actions use the executor: `execute` with what is stored, or else with what the
  request renders to, `go` with what it has just prepared, `raw` with a given text. Each gives
  it one text and passes its answer on; or the text cannot be made, and nothing happens.

  Main statements: `stored_afterActions_iff`, the stored SQL; `runActions_recording`, the
  texts that the executor was given; `delivers_act`, what becomes of one of them;
  `stored_and_sent_exactly`, all of it for every run.
-/

import SqlClauses.Proofs.Executors
import SqlClauses.Proofs.Interleaving

namespace SqlClauses.Request

variable {σ ρ : Type}

/-! ## What is stored -/

def Action.prepares : Action → Bool
  | .prepare | .go => true
  | .call _ | .announce _ | .rewrap | .render | .execute | .raw _ => false

/-- The action prepares the request, which renders to `sql` as it stands. -/
def Stores (r : Request) (a : Action) (sql : String) : Prop := a.prepares = true ∧ r.query.render = .ok sql

/-- Wherever the request is prepared, it does not render. -/
def StoresNothing (r : Request) (as : List Action) : Prop :=
  ∀ before a after sql, as = before ++ a :: after → ¬ (r.afterActions before).Stores a sql

/-- Of the actions that store something the latest stores `sql`. -/
def Latest (r : Request) (as : List Action) (sql : String) : Prop :=
  ∃ before a after, as = before ++ a :: after ∧ (r.afterActions before).Stores a sql ∧
    (r.afterActions (before ++ [a])).StoresNothing after

theorem query_afterAction (r : Request) (a : Action) :
    (r.afterAction a).query = (a.lower.map r.query.afterAction).getD r.query := by
  rw [← request_act (.journal fun _ => none) r [] a, query_act]

theorem stored_of_stores {r : Request} {a : Action} {sql : String} (h : r.Stores a sql) :
    (r.afterAction a).query.stored = some sql := by
  obtain ⟨ha, hr⟩ := h
  have hlower : a.lower = some .prepare := by
    cases a with
    | prepare | go => rfl
    | _ => cases ha
  rw [query_afterAction, hlower, Option.map_some, Option.getD_some, Query.afterAction_prepare_of_ok hr]
  rfl

/-- Clause calls leave what is stored alone, and so does a preparation that fails. -/
theorem stored_of_not_stores {r : Request} {a : Action} (h : ∀ sql, ¬ r.Stores a sql) :
    (r.afterAction a).query.stored = r.query.stored := by
  rw [query_afterAction]
  cases hl : a.lower with
  | none => rfl
  | some b =>
    rw [Option.map_some, Option.getD_some]
    cases b with
    | call c => rw [Query.afterAction_call, Query.stored_after]
    | prepare =>
      have ha : a.prepares = true := by
        cases a with
        | prepare | go => rfl
        | call c => cases hc : c.lower <;> simp [Action.lower, hc, Except.toOption] at hl
        | _ => cases hl
      cases hr : r.query.render with
      | ok sql => exact absurd ⟨ha, hr⟩ (h sql)
      | error e => rw [Query.afterAction_prepare_of_error hr]

theorem storesNothing_nil (r : Request) : r.StoresNothing [] := by
  intro before a after sql h
  cases before <;> cases h

theorem storesNothing_cons_iff {r : Request} {a : Action} {as : List Action} :
    r.StoresNothing (a :: as) ↔ (∀ sql, ¬ r.Stores a sql) ∧ (r.afterAction a).StoresNothing as := by
  constructor
  · intro h
    refine ⟨fun sql => h [] a as sql rfl, ?_⟩
    rintro before b after sql rfl
    exact h (a :: before) b after sql rfl
  · rintro ⟨ha, has⟩ (_ | ⟨b, before⟩) c after sql h
    · cases h
      exact ha sql
    · cases h
      exact has before c after sql rfl

theorem not_latest_nil (r : Request) (sql : String) : ¬ r.Latest [] sql := by
  rintro ⟨before, a, after, h, -⟩
  cases before <;> cases h

theorem latest_cons_iff {r : Request} {a : Action} {as : List Action} {sql : String} :
    r.Latest (a :: as) sql ↔
      (r.afterAction a).Latest as sql ∨ r.Stores a sql ∧ (r.afterAction a).StoresNothing as := by
  constructor
  · rintro ⟨_ | ⟨b, before⟩, c, after, h, hc, hafter⟩
    · cases h
      exact .inr ⟨hc, hafter⟩
    · cases h
      exact .inl ⟨before, c, after, rfl, hc, hafter⟩
  · rintro (⟨before, c, after, rfl, hc, hafter⟩ | ⟨ha, has⟩)
    · exact ⟨a :: before, c, after, rfl, hc, hafter⟩
    · exact ⟨[], a, as, rfl, ha, has⟩

/-- Where something is stored at all, there is a latest time. -/
theorem exists_latest_iff {r : Request} {as : List Action} : (∃ sql, r.Latest as sql) ↔ ¬ r.StoresNothing as := by
  induction as generalizing r with
  | nil => simp only [not_latest_nil, exists_false, storesNothing_nil, not_true_eq_false]
  | cons a as ih =>
    constructor
    · rintro ⟨sql, h⟩ hnone
      obtain ⟨ha, has⟩ := storesNothing_cons_iff.mp hnone
      rcases latest_cons_iff.mp h with h | ⟨h, -⟩
      · exact ih.mp ⟨sql, h⟩ has
      · exact ha sql h
    · intro hsome
      by_cases has : (r.afterAction a).StoresNothing as
      · obtain ⟨sql, ha⟩ : ∃ sql, r.Stores a sql := Classical.byContradiction fun h =>
          hsome (storesNothing_cons_iff.mpr ⟨not_exists.mp h, has⟩)
        exact ⟨sql, latest_cons_iff.mpr (.inr ⟨ha, has⟩)⟩
      · obtain ⟨sql, h⟩ := ih.mpr has
        exact ⟨sql, latest_cons_iff.mpr (.inl h)⟩

/-- By induction on the run: its first action is the latest to store only if no later one does. -/
theorem stored_afterActions_iff {r : Request} {as : List Action} {sql : String} :
    (r.afterActions as).query.stored = some sql ↔
      r.Latest as sql ∨ r.StoresNothing as ∧ r.query.stored = some sql := by
  induction as generalizing r with
  | nil => simp only [afterActions_nil, not_latest_nil, storesNothing_nil, false_or, true_and]
  | cons a as ih =>
    rw [afterActions_cons, ih, latest_cons_iff, storesNothing_cons_iff]
    by_cases h : ∃ sql', r.Stores a sql'
    · obtain ⟨sql', ha⟩ := h
      have heq : some sql' = some sql ↔ r.Stores a sql :=
        ⟨fun h => Option.some.inj h ▸ ha, fun h => congrArg some (Except.ok.inj (ha.2.symm.trans h.2))⟩
      have hnone : ¬ ∀ sql, ¬ r.Stores a sql := fun h => h sql' ha
      simp only [stored_of_stores ha, heq, hnone, false_and, or_false, and_comm]
    · have hnone : ∀ sql, ¬ r.Stores a sql := not_exists.mp h
      simp only [stored_of_not_stores hnone, hnone, false_and, or_false, not_false_eq_true, implies_true, true_and]

/-! ## What is sent -/

/-- What an action has for the executor, if it uses it: a text, or the reason why there is none. -/
def dispatch (r : Request) : Action → Option (Except Error String)
  | .execute => some (match r.query.stored with | some sql => .ok sql | none => r.query.render)
  | .go => some r.query.render
  | .raw sql => some (.ok sql)
  | .call _ | .announce _ | .rewrap | .render | .prepare => none

/-- The texts that the executor is given for an action: one at most. -/
def sends (r : Request) (a : Action) : List String :=
  match r.dispatch a with
  | some (.ok sql) => [sql]
  | some (.error _) | none => []

/-- The texts that the executor is given in a run. -/
def sent : Request → List Action → List String
  | _, [] => []
  | r, a :: as => r.sends a ++ (r.afterAction a).sent as

/-- What becomes of a turn, after what its action had for the executor: the executor's answer is the
outcome, and a text that could not be made leaves everything as it was. -/
def Turn.Delivers (turn : Turn σ ρ) (ex : Executor σ ρ) (r : Request) (m : σ) : Option (Except Error String) → Prop
  | none => turn.memory = m
  | some (.ok sql) => turn.outcome = (ex.execute sql m).outcome.map .result ∧ turn.memory = (ex.execute sql m).memory
  | some (.error e) => turn.outcome = .error e ∧ turn.memory = m ∧ turn.request = r

theorem delivers_send {ex : Executor σ ρ} {r r' : Request} {m : σ} {l : Logged String}
    (h : ∀ e, l.outcome = .error e → r' = r) :
    (turnOf r' (l.send ex m)).Delivers ex r m (some l.outcome) := by
  cases hl : l.outcome with
  | ok sql =>
    rw [Logged.send_of_ok hl]
    exact ⟨rfl, rfl⟩
  | error e =>
    rw [Logged.send_of_error hl]
    exact ⟨rfl, rfl, h e hl⟩

theorem delivers_act (ex : Executor σ ρ) (r : Request) (m : σ) (a : Action) :
    (r.act ex m a).Delivers ex r m (r.dispatch a) := by
  cases a with
  | call c => cases h : r.apply c <;> simp only [act, h, dispatch, Turn.Delivers]
  | execute =>
    show (turnOf r (r.execute ex m)).Delivers ex r m _
    unfold execute dispatch
    cases r.query.stored with
    | some sql => exact ⟨rfl, rfl⟩
    | none => exact delivers_send fun _ _ => rfl
  | go =>
    show (turnOf r.afterPreparing (r.preparedSql.send ex m)).Delivers ex r m (some r.query.render)
    rw [← preparedSql_outcome]
    refine delivers_send fun e he => ?_
    rw [afterPreparing, he]
  | raw sql => exact ⟨rfl, rfl⟩
  | announce | rewrap | render | prepare => rfl

theorem memory_act_recording (ex : Executor σ ρ) (r : Request) (m : σ) (seen : List String) (a : Action) :
    (r.act ex.recording (m, seen) a).memory.2 = seen ++ r.sends a := by
  have h := delivers_act ex.recording r (m, seen) a
  unfold sends
  generalize r.dispatch a = text at h
  rcases text with _ | e | sql
  · exact (congrArg Prod.snd h).trans (List.append_nil seen).symm
  · exact (congrArg Prod.snd h.2.1).trans (List.append_nil seen).symm
  · exact congrArg Prod.snd h.2

theorem runActions_recording (ex : Executor σ ρ) (r : Request) (m : σ) (seen : List String) (as : List Action) :
    (r.runActions ex.recording (m, seen) as).2.1.2 = seen ++ r.sent as := by
  induction as generalizing r m seen with
  | nil => exact (List.append_nil seen).symm
  | cons a as ih =>
    rcases hm : (r.act ex.recording (m, seen) a).memory with ⟨m', seen'⟩
    have hseen : seen' = seen ++ r.sends a := by
      rw [← memory_act_recording ex r m seen a, hm]
    show (runActions ex.recording (r.act ex.recording (m, seen) a).request
      (r.act ex.recording (m, seen) a).memory as).2.1.2 = _
    rw [hm, request_act, ih, hseen, sent, List.append_assoc]

/-! ## Runs -/

theorem prepare_outcome (r : Request) : r.prepare.outcome = r.query.render.map r.store := by
  rw [prepare, Logged.outcome_bind, preparedSql_outcome]
  cases r.query.render <;> rfl

/-- In every run, with an executor that may fail at any point: what is stored was rendered when the
request was last prepared, the executor was given the texts that the actions had for it, each of
them once, and so it goes on with whatever action comes next. -/
theorem stored_and_sent_exactly (ex : Executor σ ρ) (r : Request) (m : σ) (as : List Action) :
    let run := r.runActions ex m as
    let recorded := r.runActions ex.recording (m, []) as
    run.1 = r.afterActions as ∧
      (∀ sql, run.1.query.stored = some sql ↔ r.Latest as sql ∨ r.StoresNothing as ∧ r.query.stored = some sql) ∧
      ((∃ sql, r.Latest as sql) ↔ ¬ r.StoresNothing as) ∧
      recorded.1 = run.1 ∧ recorded.2.1 = (run.2.1, r.sent as) ∧
      recorded.2.2.map (Turn.seen Prod.fst) = run.2.2.map (Turn.seen id) ∧
      run.1.prepare.outcome = run.1.query.render.map run.1.store ∧
      (run.1.act ex run.2.1 .prepare).outcome = run.1.query.render.map .sql ∧
      ∀ a, let turn := run.1.act ex run.2.1 a
        turn.request = run.1.afterAction a ∧ turn.Delivers ex run.1 run.2.1 (run.1.dispatch a) := by
  intro run recorded
  have hrun : run.1 = r.afterActions as := request_runActions ex r m as
  have hrecorded : recorded.1 = run.1 := (request_runActions ex.recording r (m, []) as).trans hrun.symm
  obtain ⟨hmemory, hturns⟩ := runActions_of_simulates ex.simulates_recording r (m, []) as
  have hsent : recorded.2.1 = (run.2.1, r.sent as) := Prod.ext hmemory (runActions_recording ex r m [] as)
  refine ⟨hrun, fun sql => ?_, exists_latest_iff, hrecorded, hsent, hturns, prepare_outcome _, ?_, fun a => ?_⟩
  · rw [hrun]
    exact stored_afterActions_iff
  · exact congrArg (Except.map _) (preparedSql_outcome run.1)
  · exact ⟨request_act .., delivers_act ..⟩

/-- The first statement is refused, later the limit is: what was stored first is sent to the end. -/
example :
    let ex := Executor.journal fun n => if n = 1 then some (.connection "refused") else none
    let as := [.call (.delete "logs"), .go, .call (.filter .first (.bare "id") (.uint 1) none), .execute,
      .call (.limitTo ⟨some 1, none⟩), .go, .raw "SELECT 1", .execute]
    ((∅ : Request).runActions ex [] as).2.1 =
      ["DELETE FROM \x60logs\x60", "DELETE FROM \x60logs\x60", "SELECT 1", "DELETE FROM \x60logs\x60"] := by
  decide +kernel

end SqlClauses.Request
