/-
  SqlClauses.Proofs.Refinement — a request does what its query does when it is used on its own.

  Requests and queries are both put together by steps. A step is an action with its
  arguments, or it embeds an object of the same sort that is put together by steps of its
  own, to any depth (`Step`). A step of a request comes to a step of a query, with what was
  left out filled in, or to none, if it is about the request only.

  One object follows another (`Follows`) if each of its actions does what the action that it
  comes to does, and so does embedding. Then whole scripts do the same, by induction on the
  tree of their steps, whether a nested object is given up at its first failing step or goes
  on without it.

  Main statements: `Follows.alike` and `Follows.build`, one step and many; `follows_query`,
  requests follow queries; `steps_as_of_query`, what that says of a script.
-/

import SqlClauses.Proofs.Dispatch

namespace SqlClauses

/-- What a nested object does about a step that fails. -/
inductive OnFailure where
  /-- It stays as it was, and goes on. -/
  | skip
  /-- It is given up, with the step's error. -/
  | stop

inductive Step (α ν : Type) where
  | act (a : α)
  /-- Embed, under a name, what the steps make of a new object. -/
  | nest (policy : OnFailure) (steps : List (Step α ν)) (name : ν)

/-- How objects of one sort are made and changed. -/
structure Maker (σ α ν : Type) where
  start : σ
  act : σ → α → Except Error σ
  embed : σ → σ → ν → Except Error σ

namespace Maker

variable {σ τ α β ν μ : Type}

mutual

def perform (M : Maker σ α ν) (s : σ) : Step α ν → Except Error σ
  | .act a => M.act s a
  | .nest policy steps name => do
    let nested ← M.build policy M.start steps
    M.embed s nested name

def build (M : Maker σ α ν) (policy : OnFailure) (s : σ) : List (Step α ν) → Except Error σ
  | [] => .ok s
  | step :: steps =>
    match M.perform s step with
    | .ok s' => M.build policy s' steps
    | .error e =>
      match policy with
      | .skip => M.build policy s steps
      | .stop => .error e

end

/-- The object after a step, which is the object before if the step fails. -/
def after (M : Maker σ α ν) (s : σ) (step : Step α ν) : σ :=
  match M.perform s step with
  | .ok s' => s'
  | .error _ => s

def run (M : Maker σ α ν) (s : σ) (steps : List (Step α ν)) : σ := steps.foldl M.after s

/-- The steps of a run, each with whether it succeeded, and why it did not. -/
def verdicts (M : Maker σ α ν) : σ → List (Step α ν) → List (Step α ν × Except Error Unit)
  | _, [] => []
  | s, step :: steps => (step, (M.perform s step).map fun _ => ()) :: M.verdicts (M.after s step) steps

end Maker

/-! ## From one sort of step to another -/

section Lowering

variable {σ τ α β ν μ : Type} (f : α → Option β) (g : ν → μ)

mutual

/-- The step that a step comes to, if it comes to one. -/
def Step.lower : Step α ν → Option (Step β μ)
  | .act a => (f a).map .act
  | .nest policy steps name => some (.nest policy (Step.lowerAll steps) (g name))

def Step.lowerAll : List (Step α ν) → List (Step β μ)
  | [] => []
  | step :: steps => (Step.lower step).toList ++ Step.lowerAll steps

end

namespace Maker

/-- Seen through `view`, a step does in an `M` what the step that it comes to does in an `N`, or nothing. -/
def Alike (M : Maker σ α ν) (N : Maker τ β μ) (view : σ → τ) (step : Step α ν) : Prop :=
  ∀ s, (M.perform s step).map view = (step.lower f g).elim (.ok (view s)) (N.perform (view s))

structure Follows (M : Maker σ α ν) (N : Maker τ β μ) (view : σ → τ) : Prop where
  start : view M.start = N.start
  act : ∀ s a, (M.act s a).map view = (f a).elim (.ok (view s)) (N.act (view s))
  embed : ∀ s n name, (M.embed s n name).map view = N.embed (view s) (view n) (g name)

end Maker

end Lowering

namespace Maker

variable {σ τ α β ν μ : Type} {f : α → Option β} {g : ν → μ} {M : Maker σ α ν} {N : Maker τ β μ} {view : σ → τ}
variable {step : Step α ν} {t : Step β μ}

/-! ## One step -/

theorem Alike.of_some (h : M.Alike f g N view step) (ht : step.lower f g = some t) (s : σ) :
    (M.perform s step).map view = N.perform (view s) t := by
  have hs := h s
  rwa [ht] at hs

/-- A step that comes to none succeeds. -/
theorem Alike.of_none (h : M.Alike f g N view step) (hnone : step.lower f g = none) (s : σ) :
    ∃ s', M.perform s step = .ok s' ∧ view s' = view s := by
  have hs := h s
  rw [hnone] at hs
  cases hp : M.perform s step with
  | error e =>
    rw [hp] at hs
    cases hs
  | ok s' =>
    rw [hp] at hs
    exact ⟨s', rfl, Except.ok.inj hs⟩

theorem Alike.build_cons (h : M.Alike f g N view step) {steps : List (Step α ν)} {policy : OnFailure}
    (ih : ∀ s, (M.build policy s steps).map view = N.build policy (view s) (Step.lowerAll f g steps)) (s : σ) :
    (M.build policy s (step :: steps)).map view = N.build policy (view s) (Step.lowerAll f g (step :: steps)) := by
  rw [build, Step.lowerAll]
  cases ht : step.lower f g with
  | none =>
    obtain ⟨s', hs', hview⟩ := h.of_none ht s
    rw [hs', Option.toList_none, List.nil_append, ← hview]
    exact ih s'
  | some t =>
    rw [Option.toList_some, List.singleton_append, build, ← h.of_some ht s]
    cases M.perform s step with
    | ok s' => exact ih s'
    | error e =>
      cases policy with
      | skip => exact ih s
      | stop => rfl

mutual

theorem Follows.alike (h : M.Follows f g N view) : (step : Step α ν) → M.Alike f g N view step
  | .act a => fun s => by
    rw [perform, h.act, Step.lower]
    cases f a <;> rfl
  | .nest policy steps name => fun s => by
    -- both nested objects are new ones, and their steps come to each other
    have ih := h.build policy steps M.start
    rw [h.start] at ih
    rw [perform, Step.lower, Option.elim_some, perform, ← ih]
    cases M.build policy M.start steps with
    | error e => rfl
    | ok n => exact h.embed s n name

theorem Follows.build (h : M.Follows f g N view) (policy : OnFailure) : (steps : List (Step α ν)) → (s : σ) →
    (M.build policy s steps).map view = N.build policy (view s) (Step.lowerAll f g steps)
  | [], _ => rfl
  | step :: steps, s => (h.alike step).build_cons (h.build policy steps) s

end

/-! ## Runs -/

theorem Alike.after (h : M.Alike f g N view step) (s : σ) :
    view (M.after s step) = ((step.lower f g).map (N.after (view s))).getD (view s) := by
  unfold Maker.after
  cases ht : step.lower f g with
  | none =>
    obtain ⟨s', hs', hview⟩ := h.of_none ht s
    rw [hs']
    exact hview
  | some t =>
    rw [Option.map_some, Option.getD_some, ← h.of_some ht s]
    cases M.perform s step <;> rfl

theorem Follows.run (h : M.Follows f g N view) (s : σ) (steps : List (Step α ν)) :
    view (M.run s steps) = N.run (view s) (Step.lowerAll f g steps) := by
  induction steps generalizing s with
  | nil => rfl
  | cons step steps ih =>
    show view (M.run (M.after s step) steps) = _
    rw [ih, (h.alike step).after, Step.lowerAll]
    cases step.lower f g <;> rfl

/-- The verdicts on the steps that come to something are the verdicts on what they come to. -/
theorem Follows.verdicts (h : M.Follows f g N view) (s : σ) (steps : List (Step α ν)) :
    (M.verdicts s steps).filterMap (fun v => (v.1.lower f g).map (·, v.2)) =
      N.verdicts (view s) (Step.lowerAll f g steps) := by
  induction steps generalizing s with
  | nil => rfl
  | cons step steps ih =>
    have hstep := h.alike step
    have hafter := hstep.after s
    rw [Maker.verdicts, List.filterMap_cons, ih, Step.lowerAll, hafter]
    cases ht : step.lower f g with
    | none => rfl
    | some t =>
      have hverdict : (N.perform (view s) t).map (fun _ => ()) = (M.perform s step).map fun _ => () := by
        rw [← hstep.of_some ht s]
        cases M.perform s step <;> rfl
      rw [Option.toList_some, List.singleton_append, Maker.verdicts, hverdict]
      rfl

theorem Follows.verdict_of_lower_eq_none (h : M.Follows f g N view) (s : σ) {steps : List (Step α ν)}
    {v : Step α ν × Except Error Unit} (hv : v ∈ M.verdicts s steps) (hnone : v.1.lower f g = none) :
    v.2 = .ok () := by
  induction steps generalizing s with
  | nil => cases hv
  | cons step steps ih =>
    rcases List.mem_cons.mp hv with rfl | hv
    · obtain ⟨s', hs', -⟩ := (h.alike step).of_none hnone s
      exact congrArg (Except.map fun _ => ()) hs'
    · exact ih _ hv

end Maker

/-! ## Requests and queries -/

/-- Queries, by calls and preparations; an action is refused where its arguments cannot be made. -/
def Query.maker : Maker Query (Except Error Query.Action) String where
  start := ∅
  act q a := a >>= fun a => (q.act a).outcome
  embed q nested name := q.apply (.subquery nested name)

namespace Request

/-- An action that needs no executor. -/
inductive Deed where
  | call (c : Call)
  | announce (b : Bool)
  | rewrap
  | prepare

/-- Requests; a subquery need not be given a name. -/
def maker : Maker Request Deed (Option String) where
  start := ∅
  act r
    | .call c => r.apply c
    | .announce b => .ok { r with announce := b }
    | .rewrap => .ok (ofQuery r.query)
    | .prepare => r.prepare.outcome
  embed r nested name := r.apply (.subquery nested name)

def Deed.lower : Deed → Option (Except Error Query.Action)
  | .call c => some (c.lower.map .call)
  | .prepare => some (.ok .prepare)
  | .announce _ | .rewrap => none

def nameOr (name : Option String) : String := name.getD "result"

theorem map_query_apply (r : Request) (c : Call) : (r.apply c).map query = c.lower >>= r.query.apply := by
  rw [apply_eq_change, change]
  show Except.map query ((c.lower >>= r.query.apply) >>= _) = _
  cases c.lower >>= r.query.apply <;> rfl

theorem follows_query : maker.Follows Deed.lower nameOr Query.maker query where
  start := rfl
  act r
    | .call c => by
      show (r.apply c).map query = c.lower.map .call >>= fun a => (r.query.act a).outcome
      rw [map_query_apply]
      cases c.lower <;> rfl
    | .announce b => rfl
    | .rewrap => rfl
    | .prepare => by
      show r.prepare.outcome.map query = r.query.prepare.outcome
      rw [prepare_outcome, Query.prepare_outcome]
      cases r.query.render <;> rfl
  embed r n name := map_query_apply r (.subquery n name)

/-- Whatever the steps are, some of them about the request only and others with subqueries that are
made by steps in turn: each of them is answered as the step of the query that it comes to, a step
that comes to none succeeds, and the query is the same in the end, with what it stores and what it
renders to. -/
theorem steps_as_of_query (r : Request) (steps : List (Step Deed (Option String))) :
    let lower := Step.lower Deed.lower nameOr
    let lowered := Step.lowerAll Deed.lower nameOr steps
    let last := maker.run r steps
    let last' := Query.maker.run r.query lowered
    ((maker.verdicts r steps).filterMap fun v => (lower v.1).map (·, v.2)) = Query.maker.verdicts r.query lowered ∧
      (∀ v ∈ maker.verdicts r steps, lower v.1 = none → v.2 = .ok ()) ∧
      last.query = last' ∧ last.query.stored = last'.stored ∧ last.query.render = last'.render ∧
      ∀ policy, (maker.build policy r steps).map query = Query.maker.build policy r.query lowered := by
  intro lower lowered last last'
  have hlast : last.query = last' := follows_query.run r steps
  refine ⟨follows_query.verdicts r steps, fun v hv hnone => ?_, hlast, by rw [hlast], by rw [hlast], fun policy => ?_⟩
  · exact follows_query.verdict_of_lower_eq_none r hv hnone
  · exact follows_query.build policy steps r

end Request

end SqlClauses
