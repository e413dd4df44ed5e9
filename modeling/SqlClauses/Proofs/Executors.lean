/-
  SqlClauses.Proofs.Executors — what an executor sees of a request, and a request of it.

  An executor has no say in what becomes of the request: `afterAction` does without one. It
  answers, and it remembers. So an executor that answers as another one does can take its
  place (`Simulates`), whatever else it logs or remembers, and each turn comes out the same
  except for its log (`Turn.seen`). An executor that is traced can be replaced so, and one
  that keeps a list of what it was given (`recording`).

  Main statements: `request_act`, the request after an action; `act_of_simulates` for one
  action and `runActions_of_simulates` for a run of them.
-/

import SqlClauses.Executor.Tracer
import SqlClauses.Proofs.Lowering

namespace SqlClauses

variable {σ τ ρ : Type}

namespace Executor

/-- Keeps the texts that the executor is given, in order. -/
def recording (ex : Executor σ ρ) : Executor (σ × List String) ρ where
  execute sql m :=
    let r := ex.execute sql m.1
    ⟨r.events, r.outcome, (r.memory, m.2 ++ [sql])⟩

/-- The outer executor answers as the inner one does, whose memory is part of its own. -/
structure Simulates (outer : Executor τ ρ) (inner : Executor σ ρ) (proj : τ → σ) : Prop where
  outcome : ∀ sql m, (outer.execute sql m).outcome = (inner.execute sql (proj m)).outcome
  memory : ∀ sql m, proj (outer.execute sql m).memory = (inner.execute sql (proj m)).memory

theorem Simulates.traced {outer : Executor τ ρ} {inner : Executor σ ρ} {proj : τ → σ}
    (h : outer.Simulates inner proj) (t : Tracer) : (outer.traced t).Simulates inner proj where
  outcome sql m := (outcome_traced outer t sql m).trans (h.outcome sql m)
  memory sql m := (congrArg proj (memory_traced outer t sql m)).trans (h.memory sql m)

theorem simulates_self (ex : Executor σ ρ) : ex.Simulates ex id := ⟨fun _ _ => rfl, fun _ _ => rfl⟩

theorem simulates_tracedBy (ex : Executor σ ρ) (ts : List Tracer) : (ex.tracedBy ts).Simulates ex id := by
  induction ts with
  | nil => exact ex.simulates_self
  | cons t ts ih => exact ih.traced t

theorem simulates_recording (ex : Executor σ ρ) : ex.recording.Simulates ex Prod.fst :=
  ⟨fun _ _ => rfl, fun _ _ => rfl⟩

end Executor

/-- Only the text matters that is sent, not what was logged while it was made. -/
theorem Logged.send_of_simulates {outer : Executor τ ρ} {inner : Executor σ ρ} {proj : τ → σ}
    (h : outer.Simulates inner proj) {l l' : Logged String} (hl : l.outcome = l'.outcome) (m : τ) :
    (l.send outer m).outcome = (l'.send inner (proj m)).outcome ∧
      proj (l.send outer m).memory = (l'.send inner (proj m)).memory := by
  cases hl' : l'.outcome with
  | ok sql =>
    rw [send_of_ok (hl.trans hl'), send_of_ok hl']
    exact ⟨h.outcome sql m, h.memory sql m⟩
  | error e =>
    rw [send_of_error (hl.trans hl'), send_of_error hl']
    exact ⟨rfl, rfl⟩

namespace Request

/-! ## The request -/

/-- The request after an action. It stores what it renders to when it is prepared, whether or not that
is then sent and whatever comes of it. -/
def afterAction (r : Request) : Action → Request
  | .call c =>
    match r.apply c with
    | .ok r' => r'
    | .error _ => r
  | .announce b => { r with announce := b }
  | .rewrap => ofQuery r.query
  | .prepare | .go =>
    match r.query.render with
    | .ok sql => r.store sql
    | .error _ => r
  | .render | .execute | .raw _ => r

def afterActions (r : Request) (as : List Action) : Request := as.foldl afterAction r

@[simp] theorem afterActions_nil (r : Request) : r.afterActions [] = r := rfl

@[simp] theorem afterActions_cons (r : Request) (a : Action) (as : List Action) :
    r.afterActions (a :: as) = (r.afterAction a).afterActions as := rfl

theorem request_act (ex : Executor σ ρ) (r : Request) (m : σ) (a : Action) :
    (r.act ex m a).request = r.afterAction a := by
  cases a with
  | call c => cases h : r.apply c <;> simp only [act, afterAction, h]
  | prepare | go =>
    show r.afterPreparing = _
    rw [afterPreparing, preparedSql_outcome]
    rfl
  | _ => rfl

theorem request_runActions (ex : Executor σ ρ) (r : Request) (m : σ) (as : List Action) :
    (r.runActions ex m as).1 = r.afterActions as := by
  induction as generalizing r m with
  | nil => rfl
  | cons a as ih =>
    show (runActions ex (r.act ex m a).request (r.act ex m a).memory as).1 = _
    rw [ih, request_act, afterActions_cons]

/-! ## The turns -/

/-- A turn without its log, and of the memory only what `proj` tells. -/
def Turn.seen (proj : τ → σ) (t : Turn τ ρ) : Except Error (Answer ρ) × Query × σ :=
  (t.outcome, t.request.query, proj t.memory)

variable {outer : Executor τ ρ} {inner : Executor σ ρ} {proj : τ → σ}

theorem execute_of_simulates (h : outer.Simulates inner proj) (r : Request) (m : τ) :
    (r.execute outer m).outcome = (r.execute inner (proj m)).outcome ∧
      proj (r.execute outer m).memory = (r.execute inner (proj m)).memory := by
  unfold execute
  cases r.query.stored with
  | some sql => exact ⟨h.outcome sql m, h.memory sql m⟩
  | none => exact Logged.send_of_simulates h rfl m

theorem seen_turnOf {reply : Reply τ ρ} {reply' : Reply σ ρ} (r : Request)
    (h : reply.outcome = reply'.outcome ∧ proj reply.memory = reply'.memory) :
    (turnOf r reply).seen proj = (turnOf r reply').seen id := by
  obtain ⟨ho, hm⟩ := h
  simp only [turnOf, Turn.seen, ho, hm, id_eq]

theorem act_of_simulates (h : outer.Simulates inner proj) (r : Request) (m : τ) (a : Action) :
    (r.act outer m a).seen proj = (r.act inner (proj m) a).seen id := by
  cases a with
  | call c => cases hc : r.apply c <;> simp only [act, hc, Turn.seen, id_eq]
  | execute => exact seen_turnOf r (execute_of_simulates h r m)
  | go => exact seen_turnOf _ (Logged.send_of_simulates h rfl m)
  | raw sql => exact seen_turnOf r ⟨h.outcome sql m, h.memory sql m⟩
  | announce | rewrap | render | prepare => rfl

theorem runActions_of_simulates (h : outer.Simulates inner proj) (r : Request) (m : τ) (as : List Action) :
    proj (r.runActions outer m as).2.1 = (r.runActions inner (proj m) as).2.1 ∧
      (r.runActions outer m as).2.2.map (Turn.seen proj) = (r.runActions inner (proj m) as).2.2.map (Turn.seen id) := by
  induction as generalizing r m with
  | nil => exact ⟨rfl, rfl⟩
  | cons a as ih =>
    have hturn := act_of_simulates h r m a
    have hmemory : proj (r.act outer m a).memory = (r.act inner (proj m) a).memory :=
      congrArg (·.2.2) hturn
    have hrequest : (r.act outer m a).request = (r.act inner (proj m) a).request := by
      rw [request_act, request_act]
    have hrest := ih (r.act outer m a).request (r.act outer m a).memory
    rw [hmemory, hrequest] at hrest
    simp only [runActions, List.map_cons]
    rw [hrequest]
    exact ⟨hrest.1, by rw [hturn, hrest.2]⟩

end Request

end SqlClauses
