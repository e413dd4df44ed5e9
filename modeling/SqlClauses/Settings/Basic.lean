/-
  SqlClauses.Settings.Basic — where and how to connect.

  Either a connection URL is given, or a host, a user and a database. A URL takes
  precedence: beside it the other fields of the address are not looked at.

  Main statement: `validate_eq_ok_iff`, which settings can address a database.
-/

import SqlClauses.Error
import SqlClauses.Text.Blank

namespace SqlClauses

/-- Why settings are refused. -/
inductive SettingsFault where
  | zeroPool
  | blank (field : String)
  | malformedUrl
  /-- A variable does not hold a number of the kind it should. -/
  | malformedNumber (variableName kind text : String)
  deriving DecidableEq, Repr

namespace SettingsFault

def message : SettingsFault → String
  | .zeroPool => "pool size must be at least 1"
  | .blank field => field ++ " cannot be empty"
  | .malformedUrl => "invalid url: invalid connection string"
  | .malformedNumber variableName kind text => variableName ++ " is not a " ++ kind ++ ": " ++ text

def error (f : SettingsFault) : Error := .settings f.message

end SettingsFault

structure Settings where
  url : Option String := none
  host : String := "localhost"
  port : UInt16 := 5432
  user : String := ""
  password : Option String := none
  database : String := ""
  applicationName : Option String := none
  /-- How many connections a pool may hold. -/
  poolSize : UInt64 := 16
  deriving DecidableEq, Repr

namespace Settings

instance : EmptyCollection Settings := ⟨{}⟩

def ofUrl (url : String) : Settings := { url := some url }

def ofParts (host user password database : String) : Settings :=
  { host, user, password := some password, database }

/-- The first fault, if there is one. -/
def fault? (s : Settings) : Option SettingsFault :=
  if s.poolSize = 0 then some .zeroPool
  else
    match s.url with
    | some url => if Text.Blank url then some (.blank "url") else none
    | none =>
      if Text.Blank s.host then some (.blank "host")
      else if Text.Blank s.user then some (.blank "user")
      else if Text.Blank s.database then some (.blank "database")
      else none

def validate (s : Settings) : Except Error Unit :=
  match s.fault? with
  | some f => .error f.error
  | none => .ok ()

/-- The settings can address a database. -/
def Addresses (s : Settings) : Prop :=
  match s.url with
  | some url => ¬ Text.Blank url
  | none => ¬ Text.Blank s.host ∧ ¬ Text.Blank s.user ∧ ¬ Text.Blank s.database

theorem fault?_eq_none_iff {s : Settings} : s.fault? = none ↔ s.poolSize ≠ 0 ∧ s.Addresses := by
  unfold fault? Addresses
  by_cases hp : s.poolSize = 0
  · simp [hp]
  · cases s.url with
    | some url => by_cases h : Text.Blank url <;> simp [hp, h]
    | none =>
      by_cases hh : Text.Blank s.host <;> by_cases hu : Text.Blank s.user <;>
        by_cases hd : Text.Blank s.database <;> simp [hp, hh, hu, hd]

theorem validate_eq_ok_iff {s : Settings} : s.validate = .ok () ↔ s.poolSize ≠ 0 ∧ s.Addresses := by
  rw [← fault?_eq_none_iff]
  unfold validate
  cases s.fault? <;> simp

end Settings

end SqlClauses
