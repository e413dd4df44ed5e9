/-
  SqlClauses.Executor.Tracer — executors that log what they run.

  A tracer stands around an executor. It logs each statement before passing it on, cut to
  a number of bytes, and logs the error if the statement failed. It changes nothing else.
  Tracers may stand around one another; the first of a list is the outermost.

  Main statements: `outcome_traced` and `memory_traced`, a tracer passes on what it is
  told; `events_traced`, what it logs.
-/

import SqlClauses.Executor.Basic
import SqlClauses.Text.Clip

namespace SqlClauses

structure Tracer where
  level : Level := .debug
  /-- How many bytes of a statement are shown at most. -/
  limit : Option Nat := some 200
  deriving DecidableEq, Repr

def Tracer.announcement (t : Tracer) (sql : String) : Event :=
  .executing t.level sql.utf8ByteSize (Text.shorten t.limit sql)

/-- What is logged of an outcome: nothing if it is a result. -/
def failureEvents {ρ : Type} : Except Error ρ → List Event
  | .ok _ => []
  | .error e => [.failed e.message]

namespace Executor

variable {σ ρ : Type}

def traced (ex : Executor σ ρ) (t : Tracer) : Executor σ ρ where
  execute sql m :=
    let r := ex.execute sql m
    { r with events := t.announcement sql :: r.events ++ failureEvents r.outcome }

/-- The tracers around the executor, the first outermost. -/
def tracedBy (ex : Executor σ ρ) (ts : List Tracer) : Executor σ ρ := ts.foldr (fun t ex => ex.traced t) ex

/-! ## One tracer -/

@[simp] theorem outcome_traced (ex : Executor σ ρ) (t : Tracer) (sql : String) (m : σ) :
    ((ex.traced t).execute sql m).outcome = (ex.execute sql m).outcome := rfl

@[simp] theorem memory_traced (ex : Executor σ ρ) (t : Tracer) (sql : String) (m : σ) :
    ((ex.traced t).execute sql m).memory = (ex.execute sql m).memory := rfl

theorem events_traced (ex : Executor σ ρ) (t : Tracer) (sql : String) (m : σ) :
    ((ex.traced t).execute sql m).events =
      t.announcement sql :: (ex.execute sql m).events ++ failureEvents (ex.execute sql m).outcome := rfl

@[simp] theorem tracedBy_nil (ex : Executor σ ρ) : ex.tracedBy [] = ex := rfl

@[simp] theorem tracedBy_cons (ex : Executor σ ρ) (t : Tracer) (ts : List Tracer) :
    ex.tracedBy (t :: ts) = (ex.tracedBy ts).traced t := rfl

end Executor

end SqlClauses
