/-
  SqlClauses.Request.Run — preparing a request and sending it to an executor.

  `prepare` stores the SQL of the request as it stands. `execute` sends what is stored,
  and only if nothing is stored what the request renders to; it stores nothing. `go`
  prepares and sends what it has just prepared. `sendRaw` sends a given text. If rendering
  fails nothing is sent and nothing is stored; if the executor fails, `go` has stored its
  SQL all the same.

  An action is anything that can be done to a request; `act` does it.
-/

import SqlClauses.Executor.Basic
import SqlClauses.Query.Render
import SqlClauses.Request.Call

namespace SqlClauses.Request

variable {σ ρ : Type}

/-- The SQL of the request as it stands, announced if it is to be. -/
def preparedSql (r : Request) : Logged String := do
  let sql ← r.query.renderLogged
  if r.announce then Logged.emit (.prepared sql)
  return sql

def store (r : Request) (sql : String) : Request := { r with query := r.query.store sql }

def prepare (r : Request) : Logged Request := do
  let sql ← r.preparedSql
  return r.store sql

/-- The request with its SQL stored, unless that could not be made. -/
def afterPreparing (r : Request) : Request :=
  match r.preparedSql.outcome with
  | .ok sql => r.store sql
  | .error _ => r

def execute (r : Request) (ex : Executor σ ρ) (m : σ) : Reply σ ρ :=
  match r.query.stored with
  | some sql => ex.execute sql m
  | none => r.query.renderLogged.send ex m

def go (r : Request) (ex : Executor σ ρ) (m : σ) : Request × Reply σ ρ :=
  (r.afterPreparing, r.preparedSql.send ex m)

def sendRaw (sql : String) (ex : Executor σ ρ) (m : σ) : Reply σ ρ := ex.execute sql m

/-! ## Actions -/

inductive Action where
  | call (c : Call)
  /-- From now on announce, or do not announce, what is prepared. -/
  | announce (b : Bool)
  /-- Take the query out and make a new request of it, which announces nothing. -/
  | rewrap
  | render
  | prepare
  | execute
  | go
  | raw (sql : String)

inductive Answer (ρ : Type) where
  | done
  | sql (s : String)
  | result (x : ρ)
  deriving DecidableEq, Repr

/-- What came of an action, and the request after it. -/
structure Turn (σ ρ : Type) where
  request : Request
  events : List Event
  outcome : Except Error (Answer ρ)
  memory : σ

def turnOf (r : Request) (reply : Reply σ ρ) : Turn σ ρ :=
  ⟨r, reply.events, reply.outcome.map .result, reply.memory⟩

def act (ex : Executor σ ρ) (r : Request) (m : σ) : Action → Turn σ ρ
  | .call c =>
    match r.apply c with
    | .ok r' => ⟨r', [], .ok .done, m⟩
    | .error e => ⟨r, [], .error e, m⟩
  | .announce b => ⟨{ r with announce := b }, [], .ok .done, m⟩
  | .rewrap => ⟨ofQuery r.query, [], .ok .done, m⟩
  | .render => ⟨r, r.query.renderLogged.events, r.query.render.map .sql, m⟩
  | .prepare => ⟨r.afterPreparing, r.preparedSql.events, r.preparedSql.outcome.map .sql, m⟩
  | .execute => turnOf r (r.execute ex m)
  | .go => let (r', reply) := r.go ex m; turnOf r' reply
  | .raw sql => turnOf r (sendRaw sql ex m)

/-- The request and the executor's memory after a run of actions, and the turns in order. -/
def runActions (ex : Executor σ ρ) (r : Request) (m : σ) : List Action → Request × σ × List (Turn σ ρ)
  | [] => (r, m, [])
  | a :: as =>
    let turn := r.act ex m a
    let (r', m', turns) := runActions ex turn.request turn.memory as
    (r', m', turn :: turns)

end SqlClauses.Request
