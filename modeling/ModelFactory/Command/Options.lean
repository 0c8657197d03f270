/-!
# Options of the command line

The options with their spellings, and what the two commands are asked for.
-/

set_option autoImplicit false

namespace ModelFactory.Command

/-! ## Values with few spellings -/

/-- How generated text is written. -/
inductive OutputMode where
  /-- All factories go to one file. -/
  | combined
  /-- Each factory goes to a file of its own. -/
  | perClass
deriving DecidableEq

/-- The mode that a word stands for. -/
def OutputMode.ofWord? (word : String) : Option OutputMode :=
  [("combined", combined), ("per-class", perClass)].lookup word

/-- When output is coloured. -/
inductive ColorMode where
  | always
  | auto
  | never
deriving DecidableEq

/-- The mode that a word stands for. -/
def ColorMode.ofWord? (word : String) : Option ColorMode :=
  [("always", always), ("auto", auto), ("never", never)].lookup word

/-- Which background colours are chosen for. -/
inductive ThemeMode where
  | dark
  | light
  | auto
deriving DecidableEq

/-- The mode that a word stands for. -/
def ThemeMode.ofWord? (word : String) : Option ThemeMode :=
  [("dark", dark), ("light", light), ("auto", auto)].lookup word

/-! ## Options -/

/-- An option. -/
inductive OptionName where
  | mode
  | input
  | output
  | config
  | typeDefault
  | noHeader
  | verbose
  | quiet
  | color
  | theme
  | help
  | version
deriving DecidableEq

namespace OptionName

/-- The long spelling, after two hyphens. -/
def long : OptionName → String
  | mode => "mode"
  | input => "input"
  | output => "output"
  | config => "config"
  | typeDefault => "type-default"
  | noHeader => "no-header"
  | verbose => "verbose"
  | quiet => "quiet"
  | color => "color"
  | theme => "theme"
  | help => "help"
  | version => "version"

/-- The short spelling, after one hyphen. -/
def short? : OptionName → Option Char
  | mode => some 'm'
  | input => some 'i'
  | output => some 'o'
  | verbose => some 'v'
  | quiet => some 'q'
  | help => some 'h'
  | version => some 'V'
  | config | typeDefault | noHeader | color | theme => none

/-- The name of the value. Options without one have no value. -/
def valueName? : OptionName → Option String
  | mode => some "MODE"
  | input => some "FILE"
  | output => some "PATH"
  | config => some "FILE"
  | typeDefault => some "TYPE=EXPR"
  | color => some "COLOR"
  | theme => some "THEME"
  | noHeader | verbose | quiet | help | version => none

/-- The option with its value, as messages name it. -/
def described (option : OptionName) : String :=
  "--" ++ option.long ++
    match option.valueName? with
    | some name => " <" ++ name ++ ">"
    | none => ""

end OptionName

/-- The options that have been given. -/
structure Given where
  mode : Option OutputMode := none
  input : Option String := none
  output : Option String := none
  config : Option String := none
  /-- The type defaults in order, as they are written. -/
  typeDefaults : List String := []
  noHeader : Bool := false
  verbose : Bool := false
  quiet : Bool := false
  color : Option ColorMode := none
  theme : Option ThemeMode := none
deriving DecidableEq

namespace Given

/-- The option has been given and may not be given again. -/
def has (given : Given) : OptionName → Bool
  | .mode => given.mode.isSome
  | .input => given.input.isSome
  | .output => given.output.isSome
  | .config => given.config.isSome
  | .noHeader => given.noHeader
  | .verbose => given.verbose
  | .quiet => given.quiet
  | .color => given.color.isSome
  | .theme => given.theme.isSome
  | .typeDefault | .help | .version => false

end Given

/-! ## Requests -/

/-- Where type defaults come from. -/
structure DefaultsOptions where
  config : Option String := none
  typeDefaults : List String := []
deriving DecidableEq

/-- What generating is asked for. -/
structure GenerateOptions where
  input : String
  mode : OutputMode := .combined
  output : Option String := none
  defaults : DefaultsOptions := {}
  header : Bool := true
  verbose : Bool := false
  quiet : Bool := false
deriving DecidableEq

/-- What listing is asked for. -/
structure ListOptions where
  input : String
  defaults : DefaultsOptions := {}
deriving DecidableEq

/-- A command. -/
inductive Request where
  | list (options : ListOptions)
  | generate (options : GenerateOptions)
deriving DecidableEq

/-- A command with the options that hold for every command. -/
structure Invocation where
  request : Request
  color : ColorMode := .auto
  theme : ThemeMode := .auto
deriving DecidableEq

end ModelFactory.Command
