/-
  SqlClauses.Settings.Environment — settings from named variables.

  The environment is any way to look up a variable by name. A URL in `DATABASE_URL` takes
  the place of the address; the size of the pool has a variable of its own and is read
  either way. What has been read is validated.
-/

import SqlClauses.Settings.Basic
import SqlClauses.Text.Unsigned

namespace SqlClauses.Settings

def urlVariable : String := "DATABASE_URL"

def hostVariable : String := "FLUENTQL_HOST"

def portVariable : String := "FLUENTQL_PORT"

def userVariable : String := "FLUENTQL_USER"

def passwordVariable : String := "FLUENTQL_PASSWORD"

def databaseVariable : String := "FLUENTQL_DATABASE"

def poolSizeVariable : String := "FLUENTQL_POOL_SIZE"

/-- The variables that are read. -/
def variableNames : List String :=
  [urlVariable, hostVariable, portVariable, userVariable, passwordVariable, databaseVariable, poolSizeVariable]

/-- The number below `bound` in a variable, or `standard` if the variable is not set. -/
def numberIn (lookup : String → Option String) (variableName kind : String) (bound standard : Nat) :
    Except Error Nat :=
  match lookup variableName with
  | none => .ok standard
  | some text =>
    match Text.readUnsigned? bound text.toList with
    | some n => .ok n
    | none => .error (SettingsFault.malformedNumber variableName kind text).error

/-- The address in the variables: the URL if there is one, else its parts. -/
def addressOf (lookup : String → Option String) : Except Error Settings :=
  match lookup urlVariable with
  | some url => .ok (ofUrl url)
  | none => do
    let standard : Settings := ∅
    let port ← numberIn lookup portVariable "port" UInt16.size standard.port.toNat
    return { standard with
      host := (lookup hostVariable).getD standard.host
      port := port.toUInt16
      user := (lookup userVariable).getD standard.user
      password := lookup passwordVariable
      database := (lookup databaseVariable).getD standard.database }

def ofLookup (lookup : String → Option String) : Except Error Settings := do
  let address ← addressOf lookup
  let poolSize ← numberIn lookup poolSizeVariable "number" UInt64.size address.poolSize.toNat
  let settings := { address with poolSize := poolSize.toUInt64 }
  settings.validate
  return settings

end SqlClauses.Settings
