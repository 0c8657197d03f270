import ModelFactory.Command.Options

/-!
# Reading the command line

Arguments are read from left to right. An option whose value is the next argument stays open until
that argument has been read, and it is settled when another option follows or the arguments end:
only then is it refused for a missing, a repeated or an invalid value. An argument that no rule fits
is refused at once.

The word of a command hands the rest of the arguments to that command. Its options are settled
before an option that stays open in front of it.
-/

set_option autoImplicit false

namespace ModelFactory.Command

/-! ## Refusals -/

/-- Why the arguments are refused. -/
inductive UsageError where
  | unknownCommand (word : String)
  | unexpectedArgument (text : String)
  | unexpectedValue (value : String) (option : OptionName)
  | valueMissing (option : OptionName)
  | invalidValue (value : String) (option : OptionName)
  | repeated (option : OptionName)
  | commandMissing
  | inputMissing
deriving DecidableEq

namespace UsageError

/-- The message to the user. -/
def message : UsageError → String
  | unknownCommand word => "unrecognized subcommand '" ++ word ++ "'"
  | unexpectedArgument text => "unexpected argument '" ++ text ++ "' found"
  | unexpectedValue value option =>
    "unexpected value '" ++ value ++ "' for '" ++ option.described
      ++ "' found; no more were expected"
  | valueMissing option =>
    "a value is required for '" ++ option.described ++ "' but none was supplied"
  | invalidValue value option => "invalid value '" ++ value ++ "' for '" ++ option.described ++ "'"
  | repeated option =>
    "the argument '" ++ option.described ++ "' cannot be used multiple times"
  | commandMissing => "'factory-gen' requires a subcommand but one was not provided"
  | inputMissing => "the following required arguments were not provided:"

end UsageError

/-- What help is given on. -/
inductive HelpTopic where
  | program
  | list
  | generate
  | help
deriving DecidableEq

/-- Why reading the arguments gives no invocation. -/
inductive Stop where
  | help (topic : HelpTopic) (long : Bool)
  | version
  | usage (error : UsageError)
  /-- There are no arguments. -/
  | nothingGiven
deriving DecidableEq

/-! ## Options of a level -/

/-- Where options may stand. -/
inductive Level where
  | program
  | list
  | generate
deriving DecidableEq

namespace Level

/-- The options that a level knows. -/
def options : Level → List OptionName
  | program => [.color, .theme, .help, .version]
  | list => [.input, .config, .color, .typeDefault, .theme, .help]
  | generate =>
    [.mode, .input, .color, .output, .config, .theme, .typeDefault, .noHeader, .verbose, .quiet,
      .help]

/-- The topic of the help that a level gives. -/
def topic : Level → HelpTopic
  | program => .program
  | list => .list
  | generate => .generate

/-- The option with a long spelling. -/
def longOption? (level : Level) (spelling : String) : Option OptionName :=
  level.options.find? (·.long == spelling)

/-- The option with a short spelling. -/
def shortOption? (level : Level) (spelling : Char) : Option OptionName :=
  level.options.find? (·.short? == some spelling)

end Level

/-- The words that are commands. -/
inductive CommandWord where
  | list
  | generate
  | help
deriving DecidableEq

/-- The command that a word stands for. -/
def CommandWord.ofWord? (word : String) : Option CommandWord :=
  [("list", list), ("generate", generate), ("help", help)].lookup word

/-! ## Settling options -/

/-- The value that a word stands for among few. -/
def choice {α : Type} (option : OptionName) (ofWord? : String → Option α) (word : String) :
    Except UsageError α :=
  match ofWord? word with
  | some value => .ok value
  | none => .error (if word = "" then .valueMissing option else .invalidValue word option)

/-- A path, which is not empty. -/
def pathValue (option : OptionName) (text : String) : Except UsageError String :=
  if text = "" then .error (.valueMissing option) else .ok text

/-- The options with one more that has a value. -/
def Given.withValue (given : Given) (option : OptionName) (value : String) :
    Except UsageError Given :=
  if given.has option then .error (.repeated option)
  else
    match option with
    | .mode => (choice option OutputMode.ofWord? value).map fun mode =>
      { given with mode := some mode }
    | .input => (pathValue option value).map fun path => { given with input := some path }
    | .output => (pathValue option value).map fun path => { given with output := some path }
    | .config => (pathValue option value).map fun path => { given with config := some path }
    | .typeDefault => .ok { given with typeDefaults := given.typeDefaults ++ [value] }
    | .color => (choice option ColorMode.ofWord? value).map fun color =>
      { given with color := some color }
    | .theme => (choice option ThemeMode.ofWord? value).map fun theme =>
      { given with theme := some theme }
    | .noHeader | .verbose | .quiet | .help | .version => .ok given

/-- The options with one more that has no value. -/
def Given.withFlag (given : Given) (option : OptionName) : Except UsageError Given :=
  if given.has option then .error (.repeated option)
  else
    match option with
    | .noHeader => .ok { given with noHeader := true }
    | .verbose => .ok { given with verbose := true }
    | .quiet => .ok { given with quiet := true }
    | _ => .ok given

/-- The arguments read so far. -/
structure Reading where
  given : Given := {}
  /-- The last option, if it is not settled, with its value as soon as that is read. -/
  unsettled : Option (OptionName × Option String) := none

namespace Reading

/-- The next argument is the value of the last option. -/
def waits (reading : Reading) : Bool :=
  match reading.unsettled with
  | some (_, none) => true
  | _ => false

/-- The options with the last one among them. -/
def settled (reading : Reading) : Except Stop Given :=
  match reading.unsettled with
  | none => .ok reading.given
  | some (option, none) => .error (.usage (.valueMissing option))
  | some (option, some value) => (reading.given.withValue option value).mapError .usage

/-- One more option with its value. -/
def addValue (reading : Reading) (option : OptionName) (value : String) : Except Stop Reading := do
  let given ← (← reading.settled).withValue option value |>.mapError .usage
  return { given }

/-- One more option, whose value is the next argument. -/
def openOption (reading : Reading) (option : OptionName) : Except Stop Reading := do
  return { given := ← reading.settled, unsettled := some (option, none) }

/-- One more option without value. Those that ask for information stop the reading. -/
def addFlag (level : Level) (long : Bool) (reading : Reading) (option : OptionName) :
    Except Stop Reading := do
  let given ← reading.settled
  match option with
  | .help => throw (.help level.topic long)
  | .version => throw .version
  | option => return { given := ← (given.withFlag option).mapError .usage }

/-- The value of the option that waits. -/
def fillIn (reading : Reading) (value : String) : Reading :=
  match reading.unsettled with
  | some (option, none) => { reading with unsettled := some (option, some value) }
  | _ => reading

end Reading

/-! ## Arguments -/

/-- A long spelling and the value after its equals sign. -/
def splitLong (chars : List Char) : String × Option String :=
  (.ofList (chars.takeWhile (· != '=')),
    match chars.dropWhile (· != '=') with
    | _ :: value => some (.ofList value)
    | [] => none)

/-- An argument with two hyphens in front. -/
def readLong (level : Level) (reading : Reading) (chars : List Char) : Except Stop Reading :=
  let (spelling, value?) := splitLong chars
  match level.longOption? spelling with
  | none => .error (.usage (.unexpectedArgument ("--" ++ spelling)))
  | some option =>
    match option.valueName?, value? with
    | some _, some value => reading.addValue option value
    | some _, none => reading.openOption option
    | none, some value => .error (.usage (.unexpectedValue value option))
    | none, none => reading.addFlag level true option

/-- An argument with one hyphen in front: options without value, and at the end one with a value. -/
def readShort (level : Level) : Reading → List Char → Except Stop Reading
  | reading, [] => .ok reading
  | reading, char :: rest =>
    match level.shortOption? char with
    | none => .error (.usage (.unexpectedArgument (.ofList ['-', char])))
    | some option =>
      if option.valueName?.isSome then
        match rest with
        | [] => reading.openOption option
        | '=' :: value => reading.addValue option (.ofList value)
        | value => reading.addValue option (.ofList value)
      else do readShort level (← reading.addFlag level false option) rest

/-- The refusal of an argument that no rule fits. -/
def strayError (level : Level) (afterHyphens : Bool) (word : String) : UsageError :=
  if level = .program ∧ !(afterHyphens && (CommandWord.ofWord? word).isSome) then
    .unknownCommand word
  else .unexpectedArgument word

/-- Reads the arguments of a level up to the word of a command, with what follows that word. Two
hyphens alone end the options. -/
def readArguments (level : Level) :
    Reading → List String → Except Stop (Reading × Option (CommandWord × List String))
  | reading, [] => .ok (reading, none)
  | reading, word :: rest =>
    match if level = .program ∧ !reading.waits then CommandWord.ofWord? word else none with
    | some command => .ok (reading, some (command, rest))
    | none =>
      match word.toList with
      | ['-', '-'] =>
        match rest with
        | [] => .ok (reading, none)
        | stray :: _ => .error (.usage (strayError level true stray))
      | '-' :: '-' :: chars => do readArguments level (← readLong level reading chars) rest
      | '-' :: char :: chars => do
        readArguments level (← readShort level reading (char :: chars)) rest
      | _ =>
        if reading.waits then readArguments level (reading.fillIn word) rest
        else .error (.usage (strayError level false word))

/-! ## Commands -/

/-- The topic that the words after the command `help` name. -/
def helpTopic : HelpTopic → List String → Except UsageError HelpTopic
  | topic, [] => .ok topic
  | .program, word :: rest =>
    match CommandWord.ofWord? word with
    | some .list => helpTopic .list rest
    | some .generate => helpTopic .generate rest
    | some .help => helpTopic .help rest
    | none => .error (.unknownCommand word)
  | _, word :: _ => .error (.unknownCommand word)

/-- What the options of a level ask for. -/
def requestOf (level : Level) (given : Given) (input : String) : Request :=
  let defaults : DefaultsOptions := ⟨given.config, given.typeDefaults⟩
  match level with
  | .generate =>
    .generate {
      input
      mode := given.mode.getD .combined
      output := given.output
      defaults
      header := !given.noHeader
      verbose := given.verbose
      quiet := given.quiet }
  | _ => .list ⟨input, defaults⟩

/-- Reads the arguments of a command. -/
def readCommand (level : Level) (arguments : List String) : Except Stop (Given × Request) := do
  let (reading, _) ← readArguments level {} arguments
  let given ← reading.settled
  match given.input with
  | some input => return (given, requestOf level given input)
  | none => throw (.usage .inputMissing)

/-- The invocation that the arguments ask for. An option given to the command holds against the same
option in front of it. -/
def readInvocation (arguments : List String) : Except Stop Invocation := do
  let (reading, command?) ← readArguments .program {} arguments
  match command? with
  | none =>
    let given ← reading.settled
    throw (if given = {} then .nothingGiven else .usage .commandMissing)
  | some (.help, rest) => throw (.help (← (helpTopic .program rest).mapError .usage) true)
  | some (.list, rest) => finish reading (← readCommand .list rest)
  | some (.generate, rest) => finish reading (← readCommand .generate rest)
where
  /-- The invocation of a command that has been read. -/
  finish (reading : Reading) (command : Given × Request) : Except Stop Invocation := do
    let outer ← reading.settled
    let (inner, request) := command
    return {
      request
      color := (inner.color.or outer.color).getD .auto
      theme := (inner.theme.or outer.theme).getD .auto }

end ModelFactory.Command
