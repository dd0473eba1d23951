import ServiceShapes.Toml.Basic
import ServiceShapes.Toml.Key

/-!
# Filling TOML tables

A table is filled entry by entry, and nothing is ever defined twice.

* `assign?` puts a value under a key.  The names on the way lead through tables that dotted keys
  made, and the value may only go into such a table.
* `addTable?` adds a table with a header of its own.  It may complete a table that was only named on
  the way to another one, and moves behind its siblings then.
* `addItem?` adds one more table to an array of tables.

All three walk down the names with `edit?`, which makes tables where there are none and goes on in
the last table of an array of tables.  Nothing can be added to a table that is written between
braces, nor to any other value.
-/

namespace ServiceShapes.Toml

/-- Whether a walk that makes tables of one origin may go on in a table of another. -/
def mayEnter (made existing : TableOrigin) : Bool :=
  match existing with
  | .inline => false
  | .header => made != .dotted
  | .implied | .dotted => true

/-- Puts a value under a name: in the place of the old one, or behind all others. -/
def put (name : String) (value : Toml) : Entries → Entries
  | [] => [(name, value)]
  | (n, v) :: rest => if n = name then (name, value) :: rest else (n, v) :: put name value rest

/-- Changes the entries of the table at the end of a path; missing tables on the way are made, with
`made` as their origin. -/
def edit? (made : TableOrigin) (change : TableOrigin → Entries → Option Entries) :
    (path : List String) → TableOrigin → Entries → Option Entries
  | [], origin, entries => change origin entries
  | name :: path, _, entries =>
    match (entries.lookup name).getD (.table made []) with
    | .table origin inner =>
      if mayEnter made origin then
        (edit? made change path origin inner).map fun inner =>
          put name (.table origin inner) entries
      else none
    | .tables items => match items.getLast? with
      | some inner =>
        (edit? made change path .header inner).map fun inner =>
          put name (.tables (items.dropLast ++ [inner])) entries
      | none => none
    | _ => none

/-- An entry of a table: a key and its value. -/
abbrev Assignment := Key × Toml

/-- Puts a value under a key of a table that is being filled. -/
def assign? (entries : Entries) (assignment : Assignment) : Option Entries :=
  let (key, value) := assignment
  let change (origin : TableOrigin) (entries : Entries) : Option Entries :=
    if (key.path = [] ∨ origin = .dotted) ∧ entries.lookup key.name = none then
      some (entries ++ [(key.name, value)])
    else none
  edit? .dotted change key.path .header entries

/-- Puts values under keys one after another. -/
def assignAll? (entries : Entries) (assignments : List Assignment) : Option Entries :=
  assignments.foldlM assign? entries

/-- Adds a table with a header of its own. -/
def addTable? (header : Key) (assignments : List Assignment) (root : Entries) : Option Entries :=
  let change (_ : TableOrigin) (entries : Entries) : Option Entries := do
    let start ← match entries.lookup header.name with
      | none => some []
      | some (.table .implied inner) => some inner
      | some _ => none
    let filled ← assignAll? start assignments
    some (entries.filter (·.1 ≠ header.name) ++ [(header.name, .table .header filled)])
  edit? .implied change header.path .header root

/-- Adds a table to an array of tables. -/
def addItem? (header : Key) (assignments : List Assignment) (root : Entries) : Option Entries :=
  let change (_ : TableOrigin) (entries : Entries) : Option Entries := do
    let items ← match entries.lookup header.name with
      | none => some []
      | some (.tables items) => some items
      | some _ => none
    let filled ← assignAll? [] assignments
    some (put header.name (.tables (items ++ [filled])) entries)
  edit? .implied change header.path .header root

end ServiceShapes.Toml
