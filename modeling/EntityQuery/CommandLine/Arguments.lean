/-!
# Arguments

The arguments of the program: a command and its options.  They are read from
left to right, and the first one that asks for help or that does not fit decides.
-/

namespace EntityQuery

/-- What the arguments ask for. -/
inductive Command where
  /-- Show the text of the query that a request says. -/
  | render
  /-- Run the query that a request says on a store in memory. -/
  | query (config : String) (fixtures : Option String)
  | version
  | help
  /-- The arguments do not fit. -/
  | misuse
deriving DecidableEq, Repr

namespace Command

/-- Where the configuration is if no path is given. -/
def defaultConfig : String := "./kindql.json"

/-- The options of the query command that were given so far. -/
structure QueryOptions where
  config : Option String
  fixtures : Option String

/-- An option of the query command that takes a path. -/
inductive PathOption where
  | config
  | fixtures

namespace PathOption

/-- The option with the given name. -/
def ofName? : String → Option PathOption
  | "--config" => some .config
  | "--fixtures" => some .fixtures
  | _ => none

/-- The options with one more path, unless it is empty or there is one already. -/
def set? (option : PathOption) (path : String) (options : QueryOptions) : Option QueryOptions :=
  if path.isEmpty then none
  else
    match option with
    | .config => if options.config.isSome then none else some { options with config := some path }
    | .fixtures =>
      if options.fixtures.isSome then none else some { options with fixtures := some path }

end PathOption

/-- Whether an argument is taken for an option where the value of one is expected. -/
def looksLikeOption (argument : String) : Bool :=
  argument.toList.head? == some '-' && argument != "-"

/-- An argument cut at its first equality sign: the name, and the value after the sign. -/
def splitValue (argument : String) : String × Option String :=
  match argument.toList.span (· != '=') with
  | (name, _ :: value) => (String.ofList name, some (String.ofList value))
  | (_, []) => (argument, none)

/-- Whether an argument begins with the short option for help. -/
def asksForHelp (argument : String) : Bool :=
  argument == "--help" || argument.toList.take 2 == ['-', 'h']

/-- The command of arguments that may hold no more than a request for help. -/
def bare (command : Command) : List String → Command
  | [] => command
  | "--" :: rest => if rest.isEmpty then command else .misuse
  | argument :: _ => if asksForHelp argument then .help else .misuse

/-- The query command with the given options. -/
def ofOptions (options : QueryOptions) : Command :=
  .query (options.config.getD defaultConfig) options.fixtures

/-- The query command of the arguments after its name. -/
def readQuery (options : QueryOptions) : List String → Command
  | [] => ofOptions options
  | argument :: rest =>
    let (name, value) := splitValue argument
    match PathOption.ofName? name with
    | none => bare (ofOptions options) (argument :: rest)
    | some option =>
      match value, rest with
      | some path, rest =>
        match option.set? path options with
        | some options => readQuery options rest
        | none => .misuse
      | none, [] => .misuse
      | none, path :: rest =>
        if looksLikeOption path then .misuse
        else
          match option.set? path options with
          | some options => readQuery options rest
          | none => .misuse

/-- What is asked for after the help command: the program, or one of its commands. -/
def readHelp : List String → Command
  | [] => .help
  | [command] => if ["render", "query", "help"].contains command then .help else .misuse
  | _ => .misuse

/-- What the arguments ask for. -/
def read : List String → Command
  | [] => .misuse
  | "render" :: rest => bare .render rest
  | "query" :: rest => readQuery ⟨none, none⟩ rest
  | "help" :: rest => readHelp rest
  | argument :: _ =>
    if asksForHelp argument then .help
    else if argument == "--version" || argument.toList.take 2 == ['-', 'V'] then .version
    else .misuse

end Command

end EntityQuery
