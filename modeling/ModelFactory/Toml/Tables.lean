import ModelFactory.Toml.Value

/-!
# Building TOML tables

Entries are put where a path of keys leads. A path is followed in one of three ways (`PathKind`):
from a header, from the dots of a key, and from the dots of a key between braces. Each makes tables
of its own form where there are none and may enter only some forms of tables that are there, so that
no table is defined twice.

A `Draft` is the text read so far: the tables that are complete and the one that lines are added to.
-/

set_option autoImplicit false

namespace ModelFactory.Toml

/-- What a path of keys is taken from. -/
inductive PathKind where
  | header
  | dotted
  | inlineDotted
deriving DecidableEq

namespace PathKind

/-- The form of the tables that the path makes. -/
def newForm : PathKind → TableForm
  | header => .implied
  | dotted => .dotted
  | inlineDotted => .inlineDotted

/-- The path may lead through a table of this form. -/
def mayEnter : PathKind → TableForm → Bool
  | header, form => !form.isInline
  | dotted, form => form == .implied || form == .dotted
  | inlineDotted, form => form == .inlineDotted

end PathKind

/-- Changes the table that a path leads to. The path makes tables that are missing and goes on in
the last of several tables that share a header. -/
def changeAt (kind : PathKind) (change : TableForm → Entries → Option Entries) :
    List String → TableForm → Entries → Option Entries
  | [], form, entries => change form entries
  | key :: path, _, entries =>
    match entries.lookup key with
    | none => do
      let inner ← changeAt kind change path kind.newForm []
      return entries ++ [(key, .table kind.newForm inner)]
    | some (.table form inner) =>
      if kind.mayEnter form then do
        let inner ← changeAt kind change path form inner
        return entries.replace key (.table form inner)
      else none
    | some (.tables rows) =>
      match rows.reverse with
      | [] => none
      | last :: others => do
        let last ← changeAt kind change path .header last
        return entries.replace key (.tables (others.reverse ++ [last]))
    | some _ => none

/-- A new entry of a table. Dotted keys may only add to a table that dotted keys made. -/
def addEntry (path : List String) (key : String) (value : Value) (form : TableForm)
    (entries : Entries) : Option Entries :=
  if form.isDotted == path.isEmpty || (entries.lookup key).isSome then none
  else some (entries ++ [(key, value)])

/-- A key with the keys before its dots. -/
structure KeyPath where
  path : List String
  key : String

/-- Puts a value under a dotted key. -/
def putAt (kind : PathKind) (target : KeyPath) (value : Value) (form : TableForm)
    (entries : Entries) : Option Entries :=
  changeAt kind (addEntry target.path target.key value) target.path form entries

/-- The table between braces with these entries. -/
def inlineTable? (entries : List (KeyPath × Value)) : Option Value := do
  let made ← entries.foldlM
    (fun made (target, value) => putAt .inlineDotted target value .inline made) []
  return .table .inline made

/-! ## The text read so far -/

/-- Where the lines that are being read belong. -/
inductive Heading where
  /-- The lines before the first header. -/
  | top
  | table (target : KeyPath)
  /-- One of several tables that share the header. -/
  | row (target : KeyPath)

/-- The text read so far. -/
structure Draft where
  root : Entries := []
  heading : Heading := .top
  /-- The entries under the last header. -/
  current : Entries := []

namespace Draft

/-- Adds the entry of one line. -/
def addLine (draft : Draft) (target : KeyPath) (value : Value) : Option Draft :=
  (putAt .dotted target value .header draft.current).map fun current => { draft with current }

/-- Adds a table to the tables that share its header. -/
def addRow (key : String) (row : Entries) (entries : Entries) : Option Entries :=
  match entries.lookup key with
  | none => some (entries ++ [(key, .tables [row])])
  | some (.tables rows) => some (entries.replace key (.tables (rows ++ [row])))
  | some _ => none

/-- The tables with the current one at its place. -/
def closed (draft : Draft) : Option Entries :=
  match draft.heading with
  | .top => some draft.current
  | .table target =>
    changeAt .header (fun _ entries =>
      if (entries.lookup target.key).isSome then none
      else some (entries ++ [(target.key, .table .header draft.current)]))
      target.path .header draft.root
  | .row target =>
    changeAt .header (fun _ => addRow target.key draft.current) target.path .header draft.root

/-- The table that a path leads to, as it is. -/
def tableAt? (path : List String) (entries : Entries) : Option Entries :=
  match path with
  | [] => some entries
  | key :: path =>
    match entries.lookup key with
    | some (.table _ inner) => tableAt? path inner
    | some (.tables rows) => rows.getLast?.bind (tableAt? path)
    | _ => none

/-- The header of a table. A table that longer headers implied is taken over with its entries. -/
def openTable (draft : Draft) (target : KeyPath) : Option Draft := do
  let root ← draft.closed
  let root ← changeAt .header (fun _ entries => some entries) target.path .header root
  match ((tableAt? target.path root).bind (·.lookup target.key)) with
  | none => return ⟨root, .table target, []⟩
  | some (.table .implied entries) =>
    let root ← changeAt .header (fun _ entries => some (entries.without target.key)) target.path
      .header root
    return ⟨root, .table target, entries⟩
  | some _ => none

/-- The header of one of several tables. -/
def openRow (draft : Draft) (target : KeyPath) : Option Draft := do
  let root ← draft.closed
  let root ← changeAt .header (fun _ entries =>
    match entries.lookup target.key with
    | none => some (entries ++ [(target.key, .tables [])])
    | some (.tables _) => some entries
    | some _ => none) target.path .header root
  return ⟨root, .row target, []⟩

end Draft

end ModelFactory.Toml
