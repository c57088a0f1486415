import EntityQuery.CommandLine.Arguments
import EntityQuery.CommandLine.Fixtures
import EntityQuery.Request.Json
import EntityQuery.Store.Memory

/-!
# Running a command

A command reads one request from its input and writes one response.  All that
it needs of its surroundings is a `Host`, so that it runs on files and streams
as well as on texts at hand.

The configuration is loaded first, then the connection is opened, then the
fixtures are inserted, and only then is the input read.
-/

namespace EntityQuery

/-- What a command needs of its surroundings. -/
structure Host (m : Type → Type) where
  /-- The text of the file at a path, or what keeps it from being read. -/
  fileText : String → m (Except String String)
  /-- The text of the input, or what keeps it from being read. -/
  inputText : m (Except String String)

/-- How a command has ended. -/
structure Outcome where
  exitCode : Nat
  output : String
  /-- The events that were recorded on the way. -/
  events : List Entry
  /-- What to tell about a failure. -/
  complaint : Option String

namespace Command

/-- The name and the version of the program. -/
def versionText : String := "kindql 0.1.0\n"

/-- How the program is used. -/
def usageText : String :=
  "Usage: kindql <COMMAND>\n\n" ++
  "Commands:\n" ++
  "  render  Show the text of the query that a request says\n" ++
  "  query   Run the query that a request says on a store in memory\n" ++
  "          --config <CONFIG>      the configuration [default: ./kindql.json]\n" ++
  "          --fixtures <FIXTURES>  entities to insert before, by kind\n" ++
  "  help    Show this message\n\n" ++
  "Options:\n" ++
  "  -h, --help     Show this message\n" ++
  "  -V, --version  Show the version\n"

/-- The request in the input. -/
def readRequest (input : Except String String) : Except CommandError Request :=
  match input with
  | .error detail => .error (.unreadableInput detail)
  | .ok s =>
    if Text.allBlank s then .error .emptyInput
    else
      match Json.read? s with
      | none => .error .invalidInput
      | some v =>
        match Request.ofJson? v with
        | none => .error .invalidRequest
        | some request => .ok request

/-- The answer of the render command to an input. -/
def renderInput (input : Except String String) : Except CommandError Json :=
  match readRequest input with
  | .error e => .error e
  | .ok request =>
    match request.render with
    | .error e => .error (.query e)
    | .ok gql => .ok (.object [("gql", .string gql)])

/-- Opens the connection of a configuration file with the given content. -/
def connect (path : String) (content : Except String String) (journal : Journal) :
    Except CommandError Connection × Journal :=
  match Config.load path content journal with
  | (.error e, journal) => (.error (.config e), journal)
  | (.ok config, journal) =>
    match Connection.establish config journal with
    | (.error e, journal) => (.error (.config e), journal)
    | (.ok connection, journal) => (.ok connection, journal)

/-- The answer of the query command to an input, on a connection that is open. -/
def answerInput (connection : Connection) (input : Except String String)
    (s : Session MemoryStore) : Except CommandError Json × Session MemoryStore :=
  match readRequest input with
  | .error e => (.error e, s)
  | .ok request =>
    match request.execute connection s with
    | (.error e, s) => (.error (.query e), s)
    | (.ok v, s) => (.ok v, s)

variable {m : Type → Type} [Monad m]

/-- Inserts the fixtures at a path, if there is one. -/
def seedFrom (host : Host m) (connection : Connection) (fixtures : Option String)
    (s : Session MemoryStore) : m (Except CommandError Nat × Session MemoryStore) := do
  match fixtures with
  | none => return (.ok 0, s)
  | some path =>
    let content ← host.fileText path
    return connection.seed content s

/-- Runs the query command. -/
def runQuery (host : Host m) (config : String) (fixtures : Option String) :
    m (Except CommandError Json × Journal) := do
  let content ← host.fileText config
  match connect config content (.empty .info) with
  | (.error e, journal) => return (.error e, journal)
  | (.ok connection, journal) =>
    match ← seedFrom host connection fixtures ⟨.empty, journal⟩ with
    | (.error e, s) => return (.error e, s.journal)
    | (.ok _, s) =>
      let input ← host.inputText
      let (answer, s) := answerInput connection input s
      return (answer, s.journal)

/-- The outcome of a command that has answered. -/
def outcome (answer : Except CommandError Json) (journal : Journal) : Outcome :=
  match answer with
  | .ok data =>
    let response := Json.object [("data", data), ("status", .string "ok")]
    ⟨0, response.text ++ "\n", journal.entries, none⟩
  | .error e =>
    let response :=
      Json.object
        [("code", .string e.code), ("message", .string e.message), ("status", .string "error")]
    ⟨1, response.text ++ "\n", journal.entries, some e.text⟩

/-- Runs a command. -/
def run (host : Host m) : Command → m Outcome
  | .render => do
    let input ← host.inputText
    return outcome (renderInput input) (.empty .info)
  | .query config fixtures => do
    let (answer, journal) ← runQuery host config fixtures
    return outcome answer journal
  | .version => return ⟨0, versionText, [], none⟩
  | .help => return ⟨0, usageText, [], none⟩
  | .misuse => return ⟨2, "", [], some usageText⟩

end Command

end EntityQuery
