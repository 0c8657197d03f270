import ModelFactory.Command.Arguments
import ModelFactory.Text.Joined

/-!
# Help

The texts that explain the program, line by line.
-/

set_option autoImplicit false

namespace ModelFactory.Command

/-- The version of the program. -/
def versionText : String := "factory-gen 0.4.0"

/-- The help on the program. -/
def programHelp : List String := [
    "Companion factory generator for Dart data models",
    "",
    "Usage: factory-gen [OPTIONS] <COMMAND>",
    "",
    "Commands:",
    "  list      Show the default every field resolves to, and where it came from",
    "  generate  Generate factories from a model descriptor document",
    "  help      Print this message or the help of the given subcommand(s)",
    "",
    "Options:",
    "      --color <COLOR>  Control color output [default: auto] [possible values: always,"
      ++ " auto, never]",
    "      --theme <THEME>  Terminal theme (dark or light background) [default: auto]"
      ++ " [possible values: dark, light, auto]",
    "  -h, --help           Print help",
    "  -V, --version        Print version"]

/-- The help on listing. -/
def listHelp : List String := [
    "Show the default every field resolves to, and where it came from",
    "",
    "Usage: factory-gen list [OPTIONS] --input <FILE>",
    "",
    "Options:",
    "  -i, --input <FILE>              Path to the model descriptor document (JSON, or TOML"
      ++ " by extension)",
    "      --config <FILE>             Path to the project configuration (default:"
      ++ " ./factory_gen.toml when present)",
    "      --color <COLOR>             Control color output [default: auto] [possible"
      ++ " values: always, auto, never]",
    "      --type-default <TYPE=EXPR>  Project-wide default for a type, overriding the"
      ++ " configuration file. Repeatable, e.g. --type-default \"String='lorem'\" --type-default"
      ++ " \"List<int>=[1, 2]\"",
    "      --theme <THEME>             Terminal theme (dark or light background) [default:"
      ++ " auto] [possible values: dark, light, auto]",
    "  -h, --help                      Print help"]

/-- The help on generating. -/
def generateHelp : List String := [
    "Generate factories from a model descriptor document",
    "",
    "Usage: factory-gen generate [OPTIONS] --input <FILE>",
    "",
    "Options:",
    "  -m, --mode <MODE>",
    "          Generation mode",
    "",
    "          Possible values:",
    "          - combined:  Write every factory into the single file given by --output",
    "          - per-class: Write one file per model into the directory given by --output",
    "          ",
    "          [default: combined]",
    "",
    "  -i, --input <FILE>",
    "          Path to the model descriptor document (JSON, or TOML by extension)",
    "",
    "      --color <COLOR>",
    "          Control color output",
    "          ",
    "          [default: auto]",
    "          [possible values: always, auto, never]",
    "",
    "  -o, --output <PATH>",
    "          Output file (combined) or directory (per-class)",
    "",
    "      --config <FILE>",
    "          Path to the project configuration (default: ./factory_gen.toml when present)",
    "",
    "      --theme <THEME>",
    "          Terminal theme (dark or light background)",
    "          ",
    "          [default: auto]",
    "          [possible values: dark, light, auto]",
    "",
    "      --type-default <TYPE=EXPR>",
    "          Project-wide default for a type, overriding the configuration file."
      ++ " Repeatable, e.g. --type-default \"String='lorem'\" --type-default \"List<int>=[1, 2]\"",
    "",
    "      --no-header",
    "          Omit the generated-code banner and `part of` directive",
    "",
    "  -v, --verbose",
    "          Enable verbose output with every resolved default",
    "",
    "  -q, --quiet",
    "          Suppress non-essential output (errors only)",
    "",
    "  -h, --help",
    "          Print help (see a summary with '-h')"]

/-- The short help on generating. -/
def generateSummary : List String := [
    "Generate factories from a model descriptor document",
    "",
    "Usage: factory-gen generate [OPTIONS] --input <FILE>",
    "",
    "Options:",
    "  -m, --mode <MODE>               Generation mode [default: combined] [possible values:"
      ++ " combined, per-class]",
    "  -i, --input <FILE>              Path to the model descriptor document (JSON, or TOML"
      ++ " by extension)",
    "      --color <COLOR>             Control color output [default: auto] [possible"
      ++ " values: always, auto, never]",
    "  -o, --output <PATH>             Output file (combined) or directory (per-class)",
    "      --config <FILE>             Path to the project configuration (default:"
      ++ " ./factory_gen.toml when present)",
    "      --theme <THEME>             Terminal theme (dark or light background) [default:"
      ++ " auto] [possible values: dark, light, auto]",
    "      --type-default <TYPE=EXPR>  Project-wide default for a type, overriding the"
      ++ " configuration file. Repeatable, e.g. --type-default \"String='lorem'\" --type-default"
      ++ " \"List<int>=[1, 2]\"",
    "      --no-header                 Omit the generated-code banner and `part of` directive",
    "  -v, --verbose                   Enable verbose output with every resolved default",
    "  -q, --quiet                     Suppress non-essential output (errors only)",
    "  -h, --help                      Print help (see more with '--help')"]

/-- The help on help. -/
def helpHelp : List String := [
    "Print this message or the help of the given subcommand(s)",
    "",
    "Usage: factory-gen help [COMMAND]...",
    "",
    "Arguments:",
    "  [COMMAND]...  Print help for the subcommand(s)"]

/-- The help on a topic. Only that on generating has a short form. -/
def helpText (topic : HelpTopic) (long : Bool) : String :=
  Text.joined "\n" <|
    match topic with
    | .program => programHelp
    | .list => listHelp
    | .generate => if long then generateHelp else generateSummary
    | .help => helpHelp

end ModelFactory.Command
