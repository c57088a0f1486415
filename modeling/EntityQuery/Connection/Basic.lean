import EntityQuery.Connection.Json
import EntityQuery.Journal.Basic
import EntityQuery.Query.Basic

/-!
# Connections

A connection is a configuration that was found valid.  Opening one sets the
least severity that the journal records, and the queries of a connection begin
with its namespace and its timeout.
-/

namespace EntityQuery

namespace Config

/-- The configuration in a file of which the content, or what kept it from being read, is given. -/
def ofContent (content : Except String String) : Except ConfigError Config :=
  match content with
  | .error detail => .error (.unreadable detail)
  | .ok s =>
    match ofText? s with
    | none => .error .invalidJson
    | some config =>
      match config.validate with
      | .error e => .error e
      | .ok _ => .ok config

/-- Loads the configuration at a path with the given content, and records that. -/
def load (path : String) (content : Except String String) (journal : Journal) :
    Except ConfigError Config × Journal :=
  match ofContent content with
  | .error e => (.error e, journal)
  | .ok config =>
    (.ok config,
      journal.logEvent .configLoaded [("path", path), ("project_id", config.projectId)])

end Config

/-- What the queries of a connection begin with. -/
structure Connection where
  config : Config

namespace Connection

/-- Opens a connection.  From then on the journal records what the configuration asks for. -/
def establish (config : Config) (journal : Journal) : Except ConfigError Connection × Journal :=
  match config.validate with
  | .error e => (.error e, journal)
  | .ok threshold =>
    (.ok ⟨config⟩,
      { journal with threshold }.logEvent .connectionOpened
        [("namespace", config.ns.getD ""), ("project_id", config.projectId)])

/-- The query about which nothing was said but what the configuration says. -/
def query (connection : Connection) : Query :=
  let q := Query.empty.inNamespace connection.config.ns
  match connection.config.timeout with
  | some seconds => q.withTimeout seconds
  | none => q

theorem query_eq (connection : Connection) :
    connection.query = ⟨none, connection.config.ns, [], [], [], none, none, [],
      connection.config.timeout⟩ := by
  rw [query]
  cases connection.config.timeout <;> rfl

/-- The query for entities of a kind. -/
def table (connection : Connection) (kind : String) : Query := connection.query.ofKind kind

end Connection

end EntityQuery
