/-
  SqlClauses.Executor.Basic — what runs a statement.

  An executor is given the text of a statement and answers with a result or an error. It
  may remember something from one statement to the next: `σ` is its memory, `ρ` what it
  answers.
-/

import SqlClauses.Log

namespace SqlClauses

structure Reply (σ ρ : Type) where
  events : List Event
  outcome : Except Error ρ
  memory : σ

structure Executor (σ ρ : Type) where
  execute : String → σ → Reply σ ρ

variable {σ ρ : Type}

/-- Send a text, once it is there. If it could not be made, nothing is sent. -/
def Logged.send (l : Logged String) (ex : Executor σ ρ) (m : σ) : Reply σ ρ :=
  match l.outcome with
  | .ok sql => let r := ex.execute sql m; { r with events := l.events ++ r.events }
  | .error e => ⟨l.events, .error e, m⟩

/-- Remembers the statements it was given, in order, and answers how many they are by then; the
statements whose count `refuse` names fail. -/
def Executor.journal (refuse : Nat → Option Error) : Executor (List String) Nat where
  execute sql seen :=
    let n := seen.length + 1
    let outcome : Except Error Nat := match refuse n with
      | some e => .error e
      | none => .ok n
    ⟨[], outcome, seen ++ [sql]⟩

/-! ## Sending -/

theorem Logged.send_of_ok {l : Logged String} {sql : String} (h : l.outcome = .ok sql) (ex : Executor σ ρ) (m : σ) :
    l.send ex m = { ex.execute sql m with events := l.events ++ (ex.execute sql m).events } := by
  simp [send, h]

theorem Logged.send_of_error {l : Logged String} {e : Error} (h : l.outcome = .error e) (ex : Executor σ ρ) (m : σ) :
    l.send ex m = ⟨l.events, .error e, m⟩ := by
  simp [send, h]

end SqlClauses
