/-
  SqlClauses.Settings.Target — the database that settings lead to.

  A target is what a driver is given: hosts with their ports, a user, a database. It comes
  from a connection URL or from the parts of the settings. How a URL is read is the driver's
  business, so settings lead to a target for any way to read one; `Target.ofUrl?` reads the
  URLs that are usual.

  Such a URL is `postgres://` or `postgresql://`, then `user:password@` up to the
  first at sign, then hosts with ports up to a slash or question mark, separated by
  commas, then a slash and the database, then a question mark and parameters. Every part
  but the scheme may be missing, and every part is percent-encoded. A host that begins
  with a slash is the path of a socket, and one in brackets may have colons in it.
  Passwords and paths may be any bytes; all else must be text.

  Main statement: `Host.ofBytes?_utf8Bytes`, a text and its bytes name the same host.
-/

import SqlClauses.Settings.Basic
import SqlClauses.Text.Percent
import SqlClauses.Text.Split
import SqlClauses.Text.Unsigned

namespace SqlClauses

inductive Host where
  | tcp (name : String)
  | socket (path : List UInt8)
  deriving DecidableEq, Repr

namespace Host

open Text (ofUtf8? utf8Bytes)

def ofText (s : String) : Host := if s.toList.head? = some '/' then .socket (utf8Bytes s.toList) else .tcp s

def ofBytes? (bs : List UInt8) : Option Host :=
  if bs.head? = some 0x2F then some (.socket bs) else (ofUtf8? bs).map .tcp

theorem head?_utf8Bytes_eq_slash_iff {cs : List Char} :
    (utf8Bytes cs).head? = some 0x2F ↔ cs.head? = some '/' := by
  have slash : String.utf8EncodeChar '/' = [0x2F] := by decide
  cases cs with
  | nil => simp [utf8Bytes]
  | cons c cs =>
    rw [utf8Bytes, List.flatMap_cons, List.head?_cons, Option.some_inj]
    refine ⟨fun h => ?_, fun h => by simp [h, slash]⟩
    obtain ⟨r, hr⟩ := List.head?_eq_some_iff.1 h
    have hc := Text.firstChar?_append c (cs.flatMap String.utf8EncodeChar)
    rw [hr, ← List.singleton_append, ← slash, Text.firstChar?_append, Option.some_inj] at hc
    exact hc.symm

theorem ofBytes?_utf8Bytes (s : String) : ofBytes? (utf8Bytes s.toList) = some (ofText s) := by
  unfold ofBytes? ofText
  simp only [head?_utf8Bytes_eq_slash_iff]
  split
  · rfl
  · rw [Text.ofUtf8?_eq_some_iff.2 rfl, Option.map_some]

end Host

structure Target where
  user : Option String := none
  password : Option (List UInt8) := none
  database : Option String := none
  hosts : List Host := []
  ports : List UInt16 := []
  applicationName : Option String := none
  deriving DecidableEq, Repr

namespace Target

open Text (cut? percentBytes percentDecode? split)

/-- The URL without its scheme. -/
def scheme? (url : List Char) : Option (List Char) :=
  ["postgres://", "postgresql://"].findSome? fun scheme =>
    if scheme.toList.isPrefixOf url then some (url.drop scheme.length) else none

/-- What stands before the first colon, and what after it if there is one. -/
def cutColon (cs : List Char) : List Char × Option (List Char) :=
  match cut? ':' cs with
  | some (a, b) => (a, some b)
  | none => (cs, none)

def readCredentials? (t : Target) (cs : List Char) : Option (Target × List Char) :=
  match cut? '@' cs with
  | none => some (t, cs)
  | some (credentials, rest) => do
    let (user, password) := cutColon credentials
    let user ← percentDecode? user
    return ({ t with user := some user, password := password.map percentBytes }, rest)

def standardPort : UInt16 := 5432

/-- A port that is empty is the standard one. -/
def readPort? (cs : List Char) : Option UInt16 :=
  if cs = [] then some standardPort else (Text.readUnsigned? UInt16.size cs).map (·.toUInt16)

/-- The ports of one host. A comma can be among them only when it is percent-encoded. -/
def readPorts? (cs : List Char) : Option (List UInt16) := do
  let ports ← percentDecode? cs
  (split ',' ports.toList).mapM readPort?

/-- A host as it is written, without brackets, and its ports, if none then empty. -/
def hostAndPorts? : List Char → Option (List Char × List Char)
  | '[' :: cs =>
    match cut? ']' cs with
    | some (host, []) => some (host, [])
    | some (host, ':' :: ports) => some (host, ports)
    | _ => none
  | cs =>
    let (host, ports) := cutColon cs
    some (host, ports.getD [])

def readHost? (cs : List Char) : Option (Host × List UInt16) := do
  let (host, ports) ← hostAndPorts? cs
  return (← Host.ofBytes? (percentBytes host), ← readPorts? ports)

def readHosts? (t : Target) (cs : List Char) : Option (Target × List Char) := do
  let (hosts, rest) := cs.span fun c => c != '/' && c != '?'
  if hosts.isEmpty then return (t, rest)
  let hosts ← (split ',' hosts).mapM readHost?
  return ({ t with hosts := hosts.map (·.1), ports := hosts.flatMap (·.2) }, rest)

def readDatabase? (t : Target) : List Char → Option (Target × List Char)
  | '/' :: cs => do
    let (name, rest) := cs.span (· != '?')
    if name.isEmpty then return (t, rest)
    let name ← percentDecode? name
    return ({ t with database := some name }, rest)
  | cs => some (t, cs)

/-- One parameter, `name=value`. Only the application name can be set this way. -/
def readParameter? (t : Target) (cs : List Char) : Option Target :=
  match cut? '=' cs with
  | some (name, value) => do
    let name ← percentDecode? name
    let value ← percentDecode? value
    if name = "application_name" then return { t with applicationName := some value }
    none
  | none => none

/-- The parameters between ampersands; after the last ampersand there need not be one. -/
def readParameters? (t : Target) : List Char → Option Target
  | '?' :: cs =>
    let parts := split '&' cs
    let parts := if parts.getLast? = some [] then parts.dropLast else parts
    parts.foldlM readParameter? t
  | _ => some t

/-- The target of a usual URL. A driver may take others: a list of words such as `host=db`, or more
parameters than one. -/
def ofUrl? (url : String) : Option Target := do
  let rest ← scheme? url.toList
  let (t, rest) ← readCredentials? {} rest
  let (t, rest) ← readHosts? t rest
  let (t, rest) ← readDatabase? t rest
  readParameters? t rest

end Target

namespace Settings

/-- The target of settings without a URL. -/
def ownTarget (s : Settings) : Target :=
  { user := some s.user, password := s.password.map (Text.utf8Bytes ·.toList), database := some s.database,
    hosts := [Host.ofText s.host], ports := [s.port] }

/-- The target of valid settings; their application name comes before that of the URL. -/
def target (s : Settings) (readUrl : String → Option Target := Target.ofUrl?) : Except Error Target := do
  s.validate
  let t ← match s.url with
    | some url => (readUrl url).elim (.error SettingsFault.malformedUrl.error) .ok
    | none => .ok s.ownTarget
  return { t with applicationName := s.applicationName.or t.applicationName }

end Settings

end SqlClauses
