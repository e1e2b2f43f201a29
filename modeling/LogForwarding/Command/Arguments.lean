import LogForwarding.Command.Normalization
import LogForwarding.Command.Report
import LogForwarding.Command.Settings

/-!
# Arguments

The arguments of the program name a command in a tree of commands, with options and a
path. They are read from left to right. A value is looked at when the next argument is
read, so an argument that is not known at all is reported before a bad value in front of
it. Some options may stand at any command on the way; the innermost one counts.
-/

namespace LogForwarding

/-- Why arguments do not say what to do. Asking for help or for the version is also a
reason to do nothing else. -/
inductive UsageError where
  /-- Help was asked for. -/
  | help
  /-- The version was asked for. -/
  | version
  /-- There is no command, nor anything else. -/
  | nothing
  /-- There is no command. -/
  | missingCommand
  /-- There is no such command. -/
  | unknownCommand
  /-- There is no such argument here. -/
  | unknownArgument
  /-- A value is missing or not allowed. -/
  | invalidValue
  /-- An argument that takes no value has one. -/
  | uselessValue
  /-- An option was given twice. -/
  | repeatedOption
  /-- The path of the specification is missing. -/
  | missingPath
  deriving DecidableEq, Repr

/-- The exit code if there is nothing to do. -/
def UsageError.exitCode : UsageError → Nat
  | help => 0
  | version => 0
  | _ => 2

/-- What the program tells about its use. -/
def usageText : String :=
  "Usage: logfwd [OPTIONS] <COMMAND>\n\n"
    ++ "Commands:\n"
    ++ "  normalize <SPEC>   Normalize a specification and show the result\n"
    ++ "  validate <SPEC>    Tell whether all entities of a specification are accepted\n"
    ++ "  config validate    Tell whether the settings are usable\n"
    ++ "  config show        Show the settings\n"
    ++ "  help               Show this text"

/-- The text that is shown if there is nothing to do. -/
def UsageError.message : UsageError → String
  | help => usageText
  | version => "logfwd 0.1.0"
  | nothing => usageText
  | missingCommand => "error: a command is missing"
  | unknownCommand => "error: there is no such command"
  | unknownArgument => "error: there is no such argument"
  | invalidValue => "error: a value is missing or not allowed"
  | uselessValue => "error: an argument takes no value"
  | repeatedOption => "error: an option was given twice"
  | missingPath => "error: the path of the specification is missing"

/-- An option that takes a value. -/
inductive ValueOption where
  /-- The path of the settings file. -/
  | settingsPath
  /-- How much is logged. -/
  | logLevel
  /-- The format of the report. -/
  | format
  /-- The kind of log store. -/
  | store
  /-- The name of the log store. -/
  | storeName
  /-- The directory of secrets. -/
  | secretsDirectory
  /-- The section of the settings to show. -/
  | part
  deriving DecidableEq, Repr

namespace ValueOption

/-- The name of an option, which stands behind two dashes. -/
def name : ValueOption → String
  | settingsPath => "config"
  | logLevel => "log-level"
  | format => "output"
  | store => "store"
  | storeName => "store-name"
  | secretsDirectory => "secrets-dir"
  | part => "section"

/-- The letter of an option, which stands behind one dash. -/
def letter? : ValueOption → Option Char
  | settingsPath => some 'c'
  | _ => none

/-- Whether a value is allowed. A path must not be empty. -/
def allows (option : ValueOption) (value : String) : Bool :=
  match option with
  | settingsPath => !value.isEmpty
  | secretsDirectory => !value.isEmpty
  | format => (ReportFormat.ofName? value).isSome
  | _ => true

end ValueOption

/-- A place in the tree of commands. -/
inductive CommandNode where
  /-- The program itself. -/
  | program
  /-- Normalizes a specification. -/
  | normalize
  /-- Tells whether all entities of a specification are accepted. -/
  | validate
  /-- Commands about settings. -/
  | settings
  /-- Tells whether settings are usable. -/
  | checkSettings
  /-- Shows settings. -/
  | showSettings
  /-- Help about commands. -/
  | help
  deriving DecidableEq, Repr

namespace CommandNode

/-- The commands below a place. -/
def subcommands : CommandNode → List (String × CommandNode)
  | program =>
    [("normalize", normalize), ("validate", validate), ("config", settings), ("help", help)]
  | settings => [("validate", checkSettings), ("show", showSettings), ("help", help)]
  | _ => []

/-- The command with a name below a place. -/
def next? (node : CommandNode) (word : String) : Option CommandNode := node.subcommands.lookup word

/-- The options that are allowed everywhere. -/
def commonOptions : List ValueOption := [.settingsPath, .logLevel, .format]

/-- The options that are allowed at a place. -/
def options : CommandNode → List ValueOption
  | normalize => commonOptions ++ [.store, .storeName, .secretsDirectory]
  | validate => commonOptions ++ [.store, .storeName, .secretsDirectory]
  | showSettings => commonOptions ++ [.part]
  | _ => commonOptions

/-- Whether a command takes the path of a specification. -/
def takesPath : CommandNode → Bool
  | normalize => true
  | validate => true
  | _ => false

/-- The outcome of asking for help about the command that words lead to. -/
def helpAbout (node : CommandNode) : List String → UsageError
  | [] => .help
  | word :: rest =>
    match node.next? word with
    | some next => next.helpAbout rest
    | none => .unknownCommand

end CommandNode

/-- An argument whose value has not been looked at yet. -/
inductive PendingArgument where
  /-- An option, perhaps still without its value. -/
  | option (option : ValueOption) (value : Option String)
  /-- The path of a specification. -/
  | path (value : String)
  deriving DecidableEq, Repr

/-- What was read for one command. -/
structure CommandWords where
  /-- The command. -/
  node : CommandNode
  /-- Its options, in order. -/
  values : List (ValueOption × String) := []
  /-- The path of a specification. -/
  path? : Option String := none
  /-- The last argument, if its value has not been looked at. -/
  pending : Option PendingArgument := none
  /-- Whether there was a path, looked at or not. -/
  hasPath : Bool := false
  /-- Whether two dashes were read, after which there are no options. -/
  ended : Bool := false
  deriving Repr

namespace CommandWords

/-- The value of an option. -/
def value? (words : CommandWords) (option : ValueOption) : Option String :=
  words.values.lookup option

/-- Puts an option in place. -/
def take (words : CommandWords) (option : ValueOption) (value : Option String) :
    Except UsageError CommandWords :=
  match value with
  | none => .error .invalidValue
  | some value =>
    if (words.value? option).isSome then .error .repeatedOption
    else if option.allows value then .ok { words with values := words.values ++ [(option, value)] }
    else .error .invalidValue

/-- Looks at the last argument, if that has not been done. -/
def settle (words : CommandWords) : Except UsageError CommandWords :=
  let settled := { words with pending := none }
  match words.pending with
  | none => .ok words
  | some (.option option value) => settled.take option value
  | some (.path value) =>
    if value.isEmpty then .error .invalidValue else .ok { settled with path? := some value }

/-- Whether the next argument is the value of an option. -/
def awaitsValue (words : CommandWords) : Bool :=
  match words.pending with
  | some (.option _ none) => true
  | _ => false

/-- Reads an option with the value that is attached to it, or else puts it off. -/
def giveOption (words : CommandWords) (option : ValueOption) (attached : Option String) :
    Except UsageError CommandWords := do
  let words ← words.settle
  match attached with
  | some _ => words.take option attached
  | none => return { words with pending := some (.option option none) }

/-- Stops for a reason, unless the argument in front is at fault. -/
def stop (words : CommandWords) (reason : UsageError) : Except UsageError CommandWords := do
  let _ ← words.settle
  .error reason

/-- Reads what stands behind two dashes. -/
def readName (words : CommandWords) (name : String) (attached : Option String) :
    Except UsageError CommandWords :=
  match words.node.options.find? fun option => option.name == name with
  | some option => words.giveOption option attached
  | none =>
    if name = "help" || (name = "version" && words.node = .program) then
      if attached.isSome then .error .uselessValue
      else words.stop (if name = "help" then .help else .version)
    else .error .unknownArgument

/-- The value in the rest of a group of letters, perhaps behind an equals sign. -/
def attachedValue : List Char → Option String
  | [] => none
  | '=' :: rest => some (String.ofList rest)
  | rest => some (String.ofList rest)

/-- Reads what stands behind one dash. Every letter there either stops the reading or
takes the rest as its value. -/
def readLetters (words : CommandWords) : List Char → Except UsageError CommandWords
  | [] => .ok words
  | letter :: rest =>
    match words.node.options.find? fun option => option.letter? == some letter with
    | some option => words.giveOption option (attachedValue rest)
    | none =>
      if letter = 'h' then words.stop .help
      else if letter = 'V' && words.node = .program then words.stop .version
      else .error .unknownArgument

/-- Reads a word that is neither a command nor an option. -/
def readPlain (words : CommandWords) (word : String) : Except UsageError CommandWords :=
  if words.node.takesPath && !words.hasPath then do
    let words ← words.settle
    return { words with pending := some (.path word), hasPath := true }
  else if words.ended && (words.node.next? word).isSome then .error .unknownArgument
  else if words.node.subcommands.isEmpty then .error .unknownArgument
  else .error .unknownCommand

/-- Reads a word that is not a command. -/
def readWord (words : CommandWords) (word : String) : Except UsageError CommandWords :=
  if words.ended then words.readPlain word
  else
    match word.toList with
    | ['-', '-'] => .ok { words with ended := true }
    | '-' :: '-' :: rest =>
      let name := rest.takeWhile (· != '=')
      words.readName (String.ofList name) (attachedValue (rest.drop name.length))
    | '-' :: letter :: rest => words.readLetters (letter :: rest)
    | _ =>
      match words.pending with
      | some (.option option none) =>
        .ok { words with pending := some (.option option (some word)) }
      | _ => words.readPlain word

/-- Reads arguments for a command inside others, the innermost first. -/
def read (words : CommandWords) (outer : List CommandWords) :
    List String → Except UsageError (CommandWords × List CommandWords)
  | [] => .ok (words, outer)
  | word :: rest =>
    match if words.ended || words.awaitsValue then none else words.node.next? word with
    | some .help => .error (words.node.helpAbout rest)
    | some next => read { node := next } (words :: outer) rest
    | none => do
      let words ← words.readWord word
      read words outer rest

end CommandWords

/-- What the program is asked to do. -/
inductive Request where
  /-- Normalize a specification. -/
  | normalize (spec : String) (options : StoreOptions)
  /-- Tell whether all entities of a specification are accepted. -/
  | validate (spec : String) (options : StoreOptions)
  /-- Tell whether the settings are usable. -/
  | checkSettings
  /-- Show the settings, or one section of them. -/
  | showSettings (part : Option String)
  deriving DecidableEq, Repr

namespace CommandWords

/-- What was said about the log store. -/
def storeOptions (words : CommandWords) : StoreOptions where
  store := words.value? .store
  storeName := words.value? .storeName
  secretsDirectory := words.value? .secretsDirectory

/-- The path of the specification, which has to be there. -/
def path (words : CommandWords) : Except UsageError String :=
  match words.path? with
  | some path => .ok path
  | none => .error .missingPath

/-- What a command is asked to do. A command with others below it does nothing itself. -/
def request (words : CommandWords) : Except UsageError Request :=
  match words.node with
  | .normalize => do return .normalize (← words.path) words.storeOptions
  | .validate => do return .validate (← words.path) words.storeOptions
  | .checkSettings => .ok .checkSettings
  | .showSettings => .ok (.showSettings (words.value? .part))
  | .help => .error .help
  | .program => .error (if words.values.isEmpty then .nothing else .missingCommand)
  | .settings => .error (if words.values.isEmpty then .nothing else .missingCommand)

end CommandWords

/-- Arguments that say what to do. -/
structure Invocation where
  /-- What to do. -/
  request : Request
  /-- The path of the settings file. -/
  settingsPath : String := Settings.usualPath
  /-- How much is logged, if not as the settings say. -/
  logLevel : Option String := none
  /-- The format of the report. -/
  format : ReportFormat := .text
  deriving DecidableEq, Repr

/-- Reads the arguments of the program. -/
def Invocation.ofArguments (arguments : List String) : Except UsageError Invocation := do
  let (inner, outer) ← CommandWords.read { node := .program } [] arguments
  let inner ← inner.settle
  let request ← inner.request
  let all := inner :: (← outer.mapM CommandWords.settle)
  let value? (option : ValueOption) := all.findSome? fun words => words.value? option
  return {
    request
    settingsPath := (value? .settingsPath).getD Settings.usualPath
    logLevel := value? .logLevel
    format := ((value? .format).bind ReportFormat.ofName?).getD .text }

end LogForwarding
