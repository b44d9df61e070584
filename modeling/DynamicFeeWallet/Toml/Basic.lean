/-!
# Settings documents

Values of TOML, and how a table grows. A table may be stated by a header, be implied by the header of one below it, be
made of dotted keys, or be closed, written on one line. `Toml.define` adds a value under a path, and a `Draft` is the
document while its headers open one table after another; both refuse what was defined before.
-/

namespace DynamicFeeWallet

/-- How a table came about. -/
inductive Origin where
  /-- It has a header of its own. -/
  | stated
  /-- The header of a table below it names it. -/
  | implied
  /-- Dotted keys name it. -/
  | dotted
  /-- It is written on one line. -/
  | closed
deriving DecidableEq

/-- A value. -/
inductive Toml where
  /-- A text. -/
  | text (s : String)
  /-- A whole number. -/
  | whole (n : Int)
  /-- A fraction, held as it is written. -/
  | fraction (literal : String)
  /-- A truth value. -/
  | truth (b : Bool)
  /-- A date, a time, or both, held as it is written. -/
  | date (literal : String)
  /-- A row of values. -/
  | array (items : List Toml)
  /-- A table. -/
  | table (origin : Origin) (entries : List (String × Toml))
  /-- A row of tables, each with a header of its own. -/
  | tables (rows : List (List (String × Toml)))

namespace Toml

/-- The entries of a table, in the order of their definition. -/
abbrev Entries := List (String × Toml)

/-- The value of a key. -/
def Entries.get? (entries : Entries) (key : String) : Option Toml := List.lookup key entries

/-- The entries with another value for a key that is there. -/
def Entries.set (entries : Entries) (key : String) (value : Toml) : Entries :=
  entries.map fun (k, v) => if k = key then (k, value) else (k, v)

/-- The entries with one more; there is none yet of this key. -/
def Entries.add? (entries : Entries) (key : String) (value : Toml) : Option Entries :=
  if (entries.get? key).isSome then none else some (entries ++ [(key, value)])

/-- Changes the table at the end of a path, making the tables on the way that are not there. Dotted keys do not enter
a table that has a header, and nothing enters a closed one; the last of a row of tables stands for the row. -/
def within (viaDots : Bool) (change : Origin → Entries → Option Entries) :
    List String → Origin → Entries → Option Entries
  | [], origin, entries => change origin entries
  | key :: path, _, entries =>
    match entries.get? key with
    | none => do
      let origin : Origin := if viaDots then .dotted else .implied
      return entries ++ [(key, table origin (← within viaDots change path origin []))]
    | some (table .closed _) => none
    | some (table origin inner) =>
      if viaDots && origin == .stated then none
      else do return entries.set key (table origin (← within viaDots change path origin inner))
    | some (tables rows) => do
      let last ← rows.getLast?
      return entries.set key (tables (rows.dropLast ++ [← within viaDots change path .stated last]))
    | some _ => none

/-- Adds a value under a key at the end of a dotted path. -/
def define (path : List String) (key : String) (value : Toml) (origin : Origin) (entries : Entries) : Option Entries :=
  within true (fun origin entries =>
    if (origin == .dotted) == path.isEmpty then none else entries.add? key value) path origin entries

end Toml

/-- A document while it is read: the tables that are finished, and the one that keys are added to. -/
structure Draft where
  /-- The finished tables. -/
  root : Toml.Entries := []
  /-- The entries of the open table. -/
  current : Toml.Entries := []
  /-- The path and the key of the open table; there is none before the first header. -/
  place : Option (List String × String) := none
  /-- The open table is one of a row. -/
  isRow : Bool := false

namespace Draft

open Toml

/-- Adds a value to the open table. -/
def define (path : List String) (key : String) (value : Toml) (d : Draft) : Option Draft := do
  return { d with current := ← Toml.define path key value .stated d.current }

/-- Puts the open table where it belongs. -/
def close (d : Draft) : Option Entries :=
  match d.place with
  | none => some d.current
  | some (path, key) =>
    within false (fun _ entries =>
      match d.isRow, entries.get? key with
      | true, none => some (entries ++ [(key, tables [d.current])])
      | true, some (tables rows) => some (entries.set key (tables (rows ++ [d.current])))
      | false, none => some (entries ++ [(key, table .stated d.current)])
      | _, _ => none) path .stated d.root

/-- Opens the table of a header. One that was only implied is taken up again. -/
def openTable (path : List String) (key : String) (d : Draft) : Option Draft := do
  let root ← d.close
  let found := fun (_ : Origin) (entries : Entries) =>
    match entries.get? key with
    | none => some entries
    | some (table .implied _) => some (entries.filter fun (k, _) => k ≠ key)
    | some _ => none
  let root' ← within false found path .stated root
  return { root := root', current := (inner? root path key).getD [], place := some (path, key) }
where
  /-- The entries of the table under a key at the end of a path, if it is there. -/
  inner? (entries : Entries) : List String → String → Option Entries
    | [], key =>
      match entries.get? key with
      | some (table _ inner) => some inner
      | _ => none
    | step :: path, key =>
      match entries.get? step with
      | some (table _ inner) => inner? inner path key
      | some (tables rows) => rows.getLast?.bind fun last => inner? last path key
      | _ => none

/-- Opens one more table of a row. -/
def openRow (path : List String) (key : String) (d : Draft) : Option Draft := do
  let root ← d.close
  let check := fun (_ : Origin) (entries : Entries) =>
    match entries.get? key with
    | none => some entries
    | some (tables _) => some entries
    | some _ => none
  return { root := ← within false check path .stated root, place := some (path, key), isRow := true }

end Draft

end DynamicFeeWallet
