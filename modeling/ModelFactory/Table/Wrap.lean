import ModelFactory.Text.Parts
import ModelFactory.Unicode.Cluster
import ModelFactory.Unicode.Width

/-!
# Wrapping a line

`wrapped width line` breaks a line so that its pieces fit a column. Words are filled in greedily. A
word that is wider than the column is cut between clusters of characters and starts on the line
before it if enough room is left there. A line that has almost no room left is complete.
-/

set_option autoImplicit false

namespace ModelFactory.Table

/-- The columns of characters. -/
def widthOf (chars : List Char) : Nat := Unicode.widthAfter .nothing chars

/-- A line with so little room left takes no more. -/
def leastRoom : Nat := 2

/-- The words between blanks; two blanks in a row have an empty word between them. -/
def wordsOf (line : List Char) : List (List Char) := Text.partsBetween ' ' line

/-- The clusters in front that fit a width, and the rest. -/
def takeFitting (room : Nat) : List (List Char) → List Char × List Char
  | [] => ([], [])
  | cluster :: rest =>
    let width := widthOf cluster
    if width ≤ room then
      let (fitting, left) := takeFitting (room - width) rest
      (cluster ++ fitting, left)
    else ([], (cluster :: rest).flatten)

/-- A word cut at a width. On a fresh line at least one character is taken. -/
def cutWord (room : Nat) (fresh : Bool) (word : List Char) : List Char × List Char :=
  match takeFitting room (Unicode.clusters word), fresh with
  | ([], char :: rest), true => ([char], rest)
  | cut, _ => cut

/-- A line with a word at its end. -/
def withWord (line word : List Char) : List Char :=
  if line.isEmpty then word else line ++ ' ' :: word

/-- Fills words into lines, the first of which is begun. -/
def fill (width : Nat) : (steps : Nat) → List Char → List (List Char) → List (List Char)
  | 0, line, _ => [line]
  | _, line, [] => if line.isEmpty then [] else [line]
  | steps + 1, line, word :: words =>
    let joined := withWord line word
    let space := if line.isEmpty then 0 else 1
    let room := width - widthOf line - space
    if widthOf word + widthOf line + space ≤ width then
      if widthOf joined > width - leastRoom then joined :: fill width steps [] words
      else fill width steps joined words
    else if !line.isEmpty && room ≤ leastRoom then line :: fill width steps [] (word :: words)
    else if widthOf word > width then
      let (head, rest) := cutWord room line.isEmpty word
      withWord line head :: fill width steps [] (rest :: words)
    else if widthOf word > width - leastRoom then line :: word :: fill width steps [] words
    else line :: fill width steps word words

/-- The pieces of a line that fit a width. Each character and each word takes at most three
steps. -/
def wrapped (width : Nat) (line : List Char) : List (List Char) :=
  if widthOf line ≤ width then [line] else fill width (3 * (line.length + 1)) [] (wordsOf line)

/-- The pieces of a cell that fit a width. A line feed always starts a new line. -/
def cellLines (lines : List (List Char)) (width : Nat) : List (List Char) :=
  lines.flatMap (wrapped width)

end ModelFactory.Table
