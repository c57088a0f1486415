import EntityQuery.Journal.Severity
import EntityQuery.Text.Blank

/-!
# Configurations

What a connection is opened with: the project, the namespace and the timeout of
its queries, and the least severity that the journal records.
`Config.validate` says which configurations a connection can be opened with.
-/

namespace EntityQuery

/-- What is wrong with a configuration. -/
inductive ConfigError where
  /-- The file could not be read. -/
  | unreadable (detail : String)
  /-- The text is no configuration. -/
  | invalidJson
  | emptyProject
  | zeroTimeout
  | invalidLevel (level : String)
deriving DecidableEq, Repr

namespace ConfigError

/-- The code of every error of a configuration. -/
def code : String := "KINDQL_CONFIG_ERROR"

/-- What to tell about the error.  For text that is no configuration, the reader's own wording would
follow after a colon; it is left out. -/
def message : ConfigError → String
  | .unreadable detail => "Failed to read config: " ++ detail
  | .invalidJson => "Invalid config JSON"
  | .emptyProject => "project_id must not be empty"
  | .zeroTimeout => "timeout_secs must be > 0"
  | .invalidLevel level =>
    "Invalid log_level: '" ++ level ++ "'. Expected trace, info, warn, error or fatal."

/-- The line that shows the error. -/
def text (e : ConfigError) : String := code ++ ": " ++ e.message

end ConfigError

/-- What a connection is opened with. -/
structure Config where
  projectId : String
  /-- The namespace of queries and insertions; none for the default one. -/
  ns : Option String
  /-- Seconds that the store may take for a query. -/
  timeout : Option UInt64
  /-- The word for the least severity that is recorded. -/
  logLevel : String
deriving DecidableEq, Repr

namespace Config

/-- The level of a configuration that names none. -/
def defaultLevel : String := "info"

/-- The configuration for a project that says nothing else. -/
def forProject (projectId : String) : Config := ⟨projectId, none, none, defaultLevel⟩

/-- The least severity that is recorded. -/
def severity (config : Config) : Except ConfigError Severity :=
  match Severity.ofText? config.logLevel with
  | some severity => .ok severity
  | none => .error (.invalidLevel config.logLevel)

/-- Whether a connection can be opened: the project has a name that is not blank, the timeout is
not zero, and the level is a severity.  The answer is that severity. -/
def validate (config : Config) : Except ConfigError Severity :=
  if Text.allBlank config.projectId then .error .emptyProject
  else if config.timeout = some 0 then .error .zeroTimeout
  else config.severity

end Config

end EntityQuery
