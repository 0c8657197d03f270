import ModelFactory.Table.Wrap

/-!
# Columns of a table

Columns share the width of a terminal. Those whose content fits the average of the open ones get the
width of their content, which leaves more for the others (`settleNatural`). Then columns that end up
much narrower when they are wrapped at the average get that width (`settleWrapped`). The rest is
shared out evenly (`shareOut`).
-/

set_option autoImplicit false

namespace ModelFactory.Table

/-- A column. -/
structure Column where
  title : String
  cells : List String
  /-- The cells, but not the title, are set to the right. -/
  rightAligned : Bool := false

/-- The lines of a text between its line feeds. -/
def linesOf (text : String) : List (List Char) := Text.partsBetween '\n' text.toList

/-- The largest number of a list. -/
def largest (numbers : List Nat) : Nat := numbers.foldl max 0

namespace Column

/-- The lines of all cells and of the title, before they are wrapped. -/
def lines (column : Column) : List (List Char) :=
  linesOf column.title ++ column.cells.flatMap linesOf

/-- The width of the widest line. -/
def naturalWidth (column : Column) : Nat := largest (column.lines.map widthOf)

/-- The number of octets of the longest line, when lines are wrapped at a width. -/
def longestWrapped (column : Column) (width : Nat) : Nat :=
  largest ((cellLines column.lines width).map fun line => (String.ofList line).utf8ByteSize)

end Column

/-! ## Sharing the width -/

/-- Columns on the way to their widths. -/
structure Layout where
  /-- Each column with its width, as soon as that is settled. -/
  columns : List (Column × Option Nat)
  /-- The width that the open columns share. -/
  remaining : Nat

namespace Layout

/-- The number of columns without a width. -/
def openCount (layout : Layout) : Nat := layout.columns.countP (·.2.isNone)

/-- One pass over the columns from the left. A column that `fit` gives a width at the average of the
open ones is settled, and the average changes at once. -/
def pass (fit : Column → Nat → Option Nat) :
    (openLeft remaining : Nat) → List (Column × Option Nat) → List (Column × Option Nat) × Nat
  | _, remaining, [] => ([], remaining)
  | openLeft, remaining, (column, some width) :: rest =>
    let (rest, remaining) := pass fit openLeft remaining rest
    ((column, some width) :: rest, remaining)
  | openLeft, remaining, (column, none) :: rest =>
    match fit column (remaining / openLeft) with
    | some width =>
      let (rest, remaining) := pass fit (openLeft - 1) (remaining - width) rest
      ((column, some width) :: rest, remaining)
    | none =>
      let (rest, remaining) := pass fit openLeft remaining rest
      ((column, none) :: rest, remaining)

/-- Passes over the columns until one settles nothing. A pass that settles something leaves fewer
open columns, so that there are no more than `passes`. -/
def settle (fit : Column → Nat → Option Nat) : (passes : Nat) → Layout → Layout
  | 0, layout => layout
  | passes + 1, layout =>
    let (columns, remaining) := pass fit layout.openCount layout.remaining layout.columns
    let after : Layout := ⟨columns, remaining⟩
    if after.openCount < layout.openCount then settle fit passes after else after

/-- Columns whose content fits the average get the width of their content. -/
def settleNatural (layout : Layout) : Layout :=
  settle (fun column average =>
    if column.naturalWidth ≤ average then some (max 1 column.naturalWidth) else none)
    layout.columns.length layout

/-- The room that has to be left over before a column is narrowed to its wrapped lines. -/
def spareRoom : Nat := 3

/-- Columns that leave much of the average empty when they are wrapped get the width of their
longest line, which is counted in octets. -/
def settleWrapped (layout : Layout) : Layout :=
  settle (fun column average =>
    let longest := column.longestWrapped average
    if longest + spareRoom ≤ average then some (max 1 longest) else none)
    layout.columns.length layout

/-- The widths of all columns, when the first `surplus` open ones get one more than the average. -/
def widthsWith (average : Nat) : (surplus : Nat) → List (Column × Option Nat) → List Nat
  | _, [] => []
  | surplus, (_, some width) :: rest => width :: widthsWith average surplus rest
  | 0, (_, none) :: rest => max 1 average :: widthsWith average 0 rest
  | surplus + 1, (_, none) :: rest => (average + 1) :: widthsWith average surplus rest

/-- The open columns share what remains. -/
def shareOut (layout : Layout) : List Nat :=
  let count := layout.openCount
  widthsWith (layout.remaining / count) (layout.remaining % count) layout.columns

end Layout

/-- The blanks on either side of a cell. -/
def padding : Nat := 1

/-- The widths of the contents of columns in a table of a width. -/
def columnWidths (width : Nat) (columns : List Column) : List Nat :=
  let between := columns.length - 1
  let layout : Layout :=
    ⟨columns.map (·, none), width - between - 2 * padding * columns.length⟩
  layout.settleNatural.settleWrapped.shareOut

end ModelFactory.Table
