/-
  SqlClauses.Settings.Document — settings from a structured document.

  A document is a tree of texts, numbers, lists and named fields, as a configuration file
  holds. Settings are read from named fields, or from a list that holds the fields in
  their order without the names. A field that is missing takes its standard value; fields
  with other names are skipped; a field that holds anything but what it should spoils the
  whole document. Only the URL, the password and the application name may be null.
-/

import SqlClauses.Settings.Basic

namespace SqlClauses

inductive Document where
  | null
  | bool (b : Bool)
  | integer (n : Int)
  /-- A number with a fraction or an exponent; no field holds one. -/
  | decimal
  | text (s : String)
  | list (items : List Document)
  | fields (items : List (String × Document))
  deriving Inhabited

namespace Document

def text? : Document → Option String
  | .text s => some s
  | _ => none

def nullableText? : Document → Option (Option String)
  | .null => some none
  | .text s => some (some s)
  | _ => none

/-- An integer from zero up to, and not including, `bound`. -/
def natBelow? (bound : Nat) : Document → Option Nat
  | .integer n => if 0 ≤ n ∧ n < bound then some n.toNat else none
  | _ => none

end Document

namespace Settings

/-- The fields in the order of a list without names. -/
def fieldNames : List String :=
  ["url", "host", "port", "user", "password", "database", "application_name", "pool_size"]

/-- The field read by `read`, or `standard` if there is none of that name. -/
def fieldIn {α : Type} (fields : List (String × Document)) (name : String) (read : Document → Option α)
    (standard : α) : Option α :=
  match fields.lookup name with
  | some d => read d
  | none => some standard

def ofFields? (fields : List (String × Document)) : Option Settings := do
  let standard : Settings := ∅
  let url ← fieldIn fields "url" Document.nullableText? standard.url
  let host ← fieldIn fields "host" Document.text? standard.host
  let port ← fieldIn fields "port" (Document.natBelow? UInt16.size) standard.port.toNat
  let user ← fieldIn fields "user" Document.text? standard.user
  let password ← fieldIn fields "password" Document.nullableText? standard.password
  let database ← fieldIn fields "database" Document.text? standard.database
  let applicationName ← fieldIn fields "application_name" Document.nullableText? standard.applicationName
  let poolSize ← fieldIn fields "pool_size" (Document.natBelow? UInt64.size) standard.poolSize.toNat
  return { url, host, port := port.toUInt16, user, password, database, applicationName,
           poolSize := poolSize.toUInt64 }

def ofDocument? : Document → Option Settings
  | .fields items => ofFields? items
  | .list items => if items.length ≤ fieldNames.length then ofFields? (fieldNames.zip items) else none
  | _ => none

end Settings

end SqlClauses
