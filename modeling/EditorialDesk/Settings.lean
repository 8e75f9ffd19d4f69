import EditorialDesk.Database.Fault
import EditorialDesk.Text.Casing
import EditorialDesk.Value.Basic

/-!
# Settings

What is read from the environment: where the program is deployed, the database it
uses, the zone in which days are counted and whether enrolments are logged. What is not
understood falls back to a default; only a zone that cannot be looked up is a fault. Which
zones there are is up to a database of zones.
-/
namespace EditorialDesk

/-- The environment's variables. -/
abbrev Environment := List (String × String)

namespace Environment

def get? (env : Environment) (name : String) : Option String :=
  (env.find? (·.1 == name)).map (·.2)

/-- The value of a variable, empty if it is not set. -/
def get (env : Environment) (name : String) : String := (env.get? name).getD ""

/-- The value of a variable, or another text if it is empty or not set. -/
def getOr (env : Environment) (name default : String) : String :=
  let s := env.get name
  if s == "" then default else s

end Environment

/-- The deployment and its database. -/
structure Deployment where
  environment : String
  databaseUrl : String
  databaseKey : String
deriving DecidableEq, Repr

namespace Deployment

def ofEnvironment (env : Environment) : Deployment where
  environment := Text.lower (Text.trim (env.getOr "APP_ENV" "development"))
  databaseUrl := Text.trim (env.get "SUPABASE_URL")
  databaseKey := Text.trim (env.get "SUPABASE_SERVICE_ROLE_KEY")

def isStaging (d : Deployment) : Bool := d.environment == "staging"

end Deployment

/-- The settings of the workflow. -/
structure WorkflowSettings where
  zone : Calendar.Zone
  logEvents : Bool

namespace WorkflowSettings

/-- Words that switch a setting on; every other word switches it off. -/
def onWords : List String := ["1", "true", "yes", "y", "on"]

/-- The zone that a text names, and UTC where it names none. -/
def zoneOf (zones : Calendar.ZoneDatabase) (name : String) : Except Fault Calendar.Zone :=
  match zones.find (Text.trim name) with
  | .ok zone => .ok (zone.getD .utc)
  | .error fault => .error (.zone fault)

/-- Whether a word switches logging on; it is on where there is no word. -/
def logsOn : Option String → Bool
  | none => true
  | some s => onWords.contains (Text.lower (Text.trim s))

/-- The settings that an environment makes, with zones looked up in a database. -/
def ofEnvironmentIn (zones : Calendar.ZoneDatabase) (env : Environment) :
    Except Fault WorkflowSettings := do
  return ⟨← zoneOf zones (env.get "WORKFLOW_TIMEZONE"),
    logsOn (env.get? "WORKFLOW_LOG_EVENTS")⟩

/-- The settings with zones from the extract. -/
def ofEnvironment (env : Environment) : Except Fault WorkflowSettings :=
  ofEnvironmentIn .listed env

end WorkflowSettings

/-!
## The database connection

The administrative connection is opened when a table is first asked for, and kept.
The settings it is opened with may be changed until then; what is missing from them
is told at the use, and the next use tries again.
-/

/-- The settings from which the connection is opened. One that counts as absent is missing. -/
structure ConnectionSettings where
  url : Value
  publicKey : Value
  adminKey : Value
deriving DecidableEq, Repr

/-- What is missing where a connection cannot be opened. -/
inductive ConnectionFault where
  | keyMissing
  | urlMissing
deriving DecidableEq, Repr

def ConnectionFault.message : ConnectionFault → String
  | keyMissing => "SUPABASE_SERVICE_ROLE_KEY (or SUPABASE_KEY) is required"
  | urlMissing => "SUPABASE_URL is required"

/-- The address and the key of an opened connection. -/
structure Opened where
  url : Value
  key : Value
deriving DecidableEq, Repr

namespace ConnectionSettings

/-- The public key is taken from the older of its two variables if the newer is empty. An
administrative key of white space only is kept as it is. -/
def ofEnvironment (env : Environment) : ConnectionSettings :=
  let deployment := Deployment.ofEnvironment env
  { url := .text deployment.databaseUrl
    publicKey := .text (env.getOr "SUPABASE_ANON_KEY" (env.get "SUPABASE_KEY"))
    adminKey := .text <|
      if deployment.databaseKey == "" then env.get "SUPABASE_SERVICE_ROLE_KEY"
      else deployment.databaseKey }

/-- The administrative key, or the public one in its place, and then the address. -/
def open? (s : ConnectionSettings) : Except ConnectionFault Opened :=
  let key := if s.adminKey.isPresent then s.adminKey else s.publicKey
  if !key.isPresent then .error .keyMissing
  else if !s.url.isPresent then .error .urlMissing
  else .ok ⟨s.url, key⟩

end ConnectionSettings

/-- A connection that is opened at its first use. -/
structure Connection where
  settings : ConnectionSettings
  opened : Option Opened
deriving DecidableEq, Repr

namespace Connection

def ofEnvironment (env : Environment) : Connection := ⟨.ofEnvironment env, none⟩

/-- Changes the settings; a connection that is open stays as it is. -/
def configure (c : Connection) (settings : ConnectionSettings) : Connection :=
  { c with settings }

/-- Uses the connection: the one that is open, or a new one. -/
def use (c : Connection) : Except ConnectionFault Opened × Connection :=
  match c.opened with
  | some o => (.ok o, c)
  | none =>
    match c.settings.open? with
    | .ok o => (.ok o, ⟨c.settings, some o⟩)
    | .error fault => (.error fault, c)

end Connection
end EditorialDesk
