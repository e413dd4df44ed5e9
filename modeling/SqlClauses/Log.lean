/-
  SqlClauses.Log — what rendering and running a query report while they work.

  An event says what has just been done: a finished stage of rendering, a rendered or
  prepared query, a statement about to run, a statement that failed. `Logged α` is the
  outcome of a piece of work with the events up to its end; after a failure nothing more
  is logged.

  Main statements: `outcome_bind` and `events_bind_ok` / `events_bind_error`, the outcome
  and the events of two pieces of work in a row.
-/

import SqlClauses.Error
import SqlClauses.StatementKind

namespace SqlClauses

inductive Level where
  | error
  | warn
  | info
  | debug
  | trace
  deriving DecidableEq, Repr

def Level.text : Level → String
  | .error => "ERROR"
  | .warn => "WARN"
  | .info => "INFO"
  | .debug => "DEBUG"
  | .trace => "TRACE"

/-- The parts of a statement, in the order in which they are rendered. -/
inductive Stage where
  | head
  | join
  | filter
  | order
  | limit
  deriving DecidableEq, Repr

def Stage.text : Stage → String
  | .head => "head"
  | .join => "join"
  | .filter => "where"
  | .order => "order"
  | .limit => "limit"

inductive Event where
  | stage (s : Stage) (sql : String)
  | rendered (kind : StatementKind) (table sql : String)
  | prepared (sql : String)
  /-- `size` counts the bytes of the whole statement, `sql` is what is shown of it. -/
  | executing (level : Level) (size : Nat) (sql : String)
  | failed (message : String)
  deriving DecidableEq, Repr

namespace Event

/-- The channel of an event: rendering or execution. -/
def target : Event → String
  | .stage .. | .rendered .. | .prepared _ => "fluentql.render"
  | .executing .. | .failed _ => "fluentql.sql"

def level : Event → Level
  | .stage .. => .trace
  | .rendered .. => .debug
  | .prepared _ => .info
  | .executing level .. => level
  | .failed _ => .debug

/-- What an event says, as named texts. -/
def fields : Event → List (String × String)
  | .stage s sql => [("stage", s.text), ("sql", sql)]
  | .rendered kind table sql =>
    [("message", "rendered query"), ("query_type", kind.text), ("table", table), ("sql", sql)]
  | .prepared sql => [("message", "prepared query"), ("sql", sql)]
  | .executing _ size sql => [("message", "executing statement"), ("sql_len", toString size), ("sql", sql)]
  | .failed message => [("message", "statement failed"), ("error", message)]

end Event

/-- The outcome of a piece of work and the events logged on the way to it. -/
structure Logged (α : Type) where
  events : List Event
  outcome : Except Error α

namespace Logged

variable {α β : Type}

def emit (e : Event) : Logged Unit := ⟨[e], .ok ()⟩

/-- Work that logs nothing. -/
def quiet (r : Except Error α) : Logged α := ⟨[], r⟩

def andThen (l : Logged α) (f : α → Logged β) : Logged β :=
  match l.outcome with
  | .ok a => ⟨l.events ++ (f a).events, (f a).outcome⟩
  | .error e => ⟨l.events, .error e⟩

instance : Monad Logged where
  pure a := ⟨[], .ok a⟩
  bind := andThen

/-! ## Work in a row -/

@[simp] theorem events_pure (a : α) : (pure a : Logged α).events = [] := rfl

@[simp] theorem outcome_pure (a : α) : (pure a : Logged α).outcome = .ok a := rfl

@[simp] theorem events_emit (e : Event) : (emit e).events = [e] := rfl

@[simp] theorem outcome_emit (e : Event) : (emit e).outcome = .ok () := rfl

@[simp] theorem events_quiet (r : Except Error α) : (quiet r).events = [] := rfl

@[simp] theorem outcome_quiet (r : Except Error α) : (quiet r).outcome = r := rfl

@[simp] theorem outcome_bind (l : Logged α) (f : α → Logged β) :
    (l >>= f).outcome = l.outcome.bind fun a => (f a).outcome := by
  show (andThen l f).outcome = _
  unfold andThen
  split <;> next h => rw [h]; rfl

theorem events_bind_ok {l : Logged α} {a : α} (h : l.outcome = .ok a) (f : α → Logged β) :
    (l >>= f).events = l.events ++ (f a).events := by
  show (andThen l f).events = _
  unfold andThen
  rw [h]

theorem events_bind_error {l : Logged α} {e : Error} (h : l.outcome = .error e) (f : α → Logged β) :
    (l >>= f).events = l.events := by
  show (andThen l f).events = _
  unfold andThen
  rw [h]

end Logged

end SqlClauses
