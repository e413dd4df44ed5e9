/-
  SqlClauses.Settings.Shown — settings as a line for a log.

  Passwords stay out of logs: of the password, and of the URL, which may hold one, the
  line only says whether there is one.
-/

import SqlClauses.Settings.Basic
import SqlClauses.Text.Quoted

namespace SqlClauses.Settings

def shownOption (s : Option String) : String :=
  match s with
  | some s => "Some(" ++ Text.quoted s ++ ")"
  | none => "None"

/-- A secret, by whether it is there. -/
def shownSecret (s : Option String) : String := shownOption (s.map fun _ => "<redacted>")

def shownFields (s : Settings) : List (String × String) :=
  [("url", shownSecret s.url), ("host", Text.quoted s.host), ("port", toString s.port.toNat),
   ("user", Text.quoted s.user), ("password", shownSecret s.password), ("database", Text.quoted s.database),
   ("application_name", shownOption s.applicationName), ("pool_size", toString s.poolSize.toNat)]

def shown (s : Settings) : String :=
  "ConnectionConfig \x7b " ++ ", ".intercalate (s.shownFields.map fun f => f.1 ++ ": " ++ f.2) ++ " \x7d"

end SqlClauses.Settings
