import EntityQuery.Connection.Config
import EntityQuery.Query.Error

/-!
# Command errors

What keeps a command of the program from its result.
-/

namespace EntityQuery

/-- A failure of a command. -/
inductive CommandError where
  | config (source : ConfigError)
  | unreadableFixtures (detail : String)
  /-- The text of the fixtures is no object. -/
  | invalidFixtures
  /-- The fixtures of a kind are no array. -/
  | fixturesNotArray (kind : String)
  /-- Some fixture of a kind is no object. -/
  | fixturesNotObjects (kind : String)
  | unreadableInput (detail : String)
  /-- The input has nothing but white space. -/
  | emptyInput
  /-- The input is no JSON text. -/
  | invalidInput
  /-- The input is JSON text but no request. -/
  | invalidRequest
  | query (source : QueryError)
deriving DecidableEq, Repr

namespace CommandError

/-- The code of the error; errors of queries keep theirs. -/
def code : CommandError → String
  | .config _ => "KINDQL_CLI_CONFIG_ERROR"
  | .unreadableFixtures _ | .unreadableInput _ | .emptyInput | .invalidInput =>
    "KINDQL_CLI_IO_ERROR"
  | .invalidFixtures | .fixturesNotArray _ | .fixturesNotObjects _ | .invalidRequest =>
    "KINDQL_CLI_INVALID_REQUEST"
  | .query source => source.code

/-- What to tell about the error.  For text that is not the JSON that is asked for, the reader's own
wording would follow after a colon; it is left out. -/
def message : CommandError → String
  | .config source => source.message
  | .unreadableFixtures detail => "Failed to read fixtures: " ++ detail
  | .invalidFixtures => "Invalid fixtures JSON"
  | .fixturesNotArray kind => "Fixtures for '" ++ kind ++ "' must be an array"
  | .fixturesNotObjects kind => "Fixture rows for '" ++ kind ++ "' must be objects"
  | .unreadableInput detail => detail
  | .emptyInput => "Empty input"
  | .invalidInput => "JSON error"
  | .invalidRequest => "Invalid query request"
  | .query source => source.message

/-- The line that shows the error. -/
def text (e : CommandError) : String := e.code ++ ": " ++ e.message

end CommandError

end EntityQuery
