import ModelFactory.Command.Fault
import ModelFactory.Command.Options
import ModelFactory.Text.Digits
import ModelFactory.Text.Parts

/-!
# Coloured text

Pieces of the output have a role, and a theme gives each role a colour. A piece is always wrapped in
escape sequences; what they say depends on the `Coloring`.
-/

set_option autoImplicit false

namespace ModelFactory.Command

/-- What a piece of the output is. -/
inductive Role where
  | timestamp
  | primary
  | accent
  | success
  | label
  | value
deriving DecidableEq

/-- The background that colours are chosen for. -/
inductive Theme where
  | dark
  | light
deriving DecidableEq

/-- A colour by its shares of red, green and blue. -/
structure Color where
  red : Nat
  green : Nat
  blue : Nat
deriving DecidableEq

/-- The colour of a role. -/
def Theme.color : Theme → Role → Color
  | dark, .timestamp => ⟨118, 166, 166⟩
  | dark, .success => ⟨118, 166, 166⟩
  | dark, .primary => ⟨191, 126, 4⟩
  | dark, .accent => ⟨166, 84, 55⟩
  | dark, .label => ⟨217, 164, 4⟩
  | dark, .value => ⟨242, 211, 56⟩
  | light, .timestamp => ⟨92, 62, 38⟩
  | light, .primary => ⟨70, 42, 25⟩
  | light, .accent => ⟨211, 99, 70⟩
  | light, .success => ⟨34, 142, 90⟩
  | light, .label => ⟨176, 103, 66⟩
  | light, .value => ⟨199, 146, 76⟩

/-- How pieces are coloured. -/
inductive Coloring where
  | colored (theme : Theme)
  /-- The colour of each piece is the one that the terminal starts with. -/
  | reset
  /-- The user wants no colour at all. -/
  | refused
deriving DecidableEq

/-- The character that starts an escape sequence. -/
def escape : String := "\x1b"

namespace Coloring

/-- The sequence before a piece. -/
def opening (coloring : Coloring) (role : Role) : String :=
  match coloring with
  | colored theme =>
    let color := theme.color role
    escape ++ "[38;2;" ++ toString color.red ++ ";" ++ toString color.green ++ ";"
      ++ toString color.blue ++ "m"
  | reset => escape ++ "[39m"
  | refused => escape ++ "[m"

/-- The sequence after a piece. -/
def closing : Coloring → String
  | refused => escape ++ "[m"
  | _ => escape ++ "[39m"

/-- A piece in its colour. -/
def paint (coloring : Coloring) (role : Role) (piece : String) : String :=
  coloring.opening role ++ piece ++ coloring.closing

end Coloring

/-! ## What the environment says -/

/-- What the program is told by its surroundings. -/
structure Environment where
  /-- The time of day, as it stands in front of messages. -/
  clock : String
  /-- The value of `NO_COLOR`. -/
  noColor : Option String := none
  /-- The value of `COLORFGBG`. -/
  colorFgBg : Option String := none
  /-- The output goes to a terminal. -/
  onTerminal : Bool := false
  /-- The columns of the terminal, or what is taken for them. -/
  width : Nat := 80
  /-- The words of the libraries. -/
  wording : Wording := {}

/-- The number that a text of digits says, if it fits an octet. -/
def octet? (text : String) : Option Nat :=
  let digits := match text.toList with
    | '+' :: rest => rest
    | chars => chars
  if digits.isEmpty || !digits.all Char.isDigit then none
  else
    let number := Text.decimalNumber digits
    if number ≤ 255 then some number else none

/-- The first colour of a terminal that is bright. -/
def firstBright : Nat := 8

/-- The theme for a terminal, told by the number of its background colour. -/
def detectedTheme (colorFgBg : Option String) : Theme :=
  match colorFgBg.bind fun text => (Text.partsBetween ';' text.toList).getLast? with
  | none => .dark
  | some background =>
    match octet? (.ofList background) with
    | some number => if number ≥ firstBright then .light else .dark
    | none => .dark

/-- The theme of a mode. -/
def Environment.theme (environment : Environment) : ThemeMode → Theme
  | .dark => .dark
  | .light => .light
  | .auto => detectedTheme environment.colorFgBg

/-- Colours are on. -/
def Environment.usesColor (environment : Environment) : ColorMode → Bool
  | .always => true
  | .never => false
  | .auto => environment.onTerminal

/-- How pieces are coloured for an invocation. -/
def Environment.coloring (environment : Environment) (invocation : Invocation) : Coloring :=
  if environment.noColor.any (· != "") then .refused
  else if environment.usesColor invocation.color then
    .colored (environment.theme invocation.theme)
  else .reset

end ModelFactory.Command
