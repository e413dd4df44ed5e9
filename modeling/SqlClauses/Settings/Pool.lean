/-
  SqlClauses.Settings.Pool — pools of connections.

  A pool is made for the target of valid settings and holds as many connections as they
  say. Once closed it runs nothing.
-/

import SqlClauses.Executor.Basic
import SqlClauses.Settings.Target

namespace SqlClauses

structure Pool where
  target : Target
  maxSize : UInt64
  deriving DecidableEq, Repr

def Error.poolClosed : Error := .pool "Pool has been closed"

namespace Pool

def ofSettings (s : Settings) (readUrl : String → Option Target := Target.ofUrl?) : Except Error Pool := do
  let target ← s.target readUrl
  return ⟨target, s.poolSize⟩

/-- What a closed pool does with a statement. -/
def closed {σ ρ : Type} : Executor σ ρ where
  execute _ m := ⟨[], .error .poolClosed, m⟩

end Pool

end SqlClauses
