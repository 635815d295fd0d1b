import CommandGrammar.Collection.Assoc
import CommandGrammar.Toml.Value

/-!
# Building tables

Entries, dotted keys and headers add to a tree of tables, and each may do so only where the table it
reaches allows it: no key gets a second value, a header opens a table once, and a dotted key adds to
no table but those that dotted keys made. A step into an array of tables means its newest table.
-/

set_option autoImplicit false

namespace CommandGrammar.Toml

/-- A table in the making. -/
structure Table where
  standing : Standing
  entries : List (String × Value)

/-- The table that has nothing in it, opened by its own header. -/
def Table.empty : Table :=
  ⟨.explicit, []⟩

/-- A table as a value. -/
def Table.toValue (table : Table) : Value :=
  .table table.standing table.entries

/-- Changes the table at the end of a path. Steps that are missing are made on the way; `dotted`
says whether the steps are those of a dotted key. -/
def Table.changeAt (dotted : Bool) (change : Table → Option Table) :
    List String → Table → Option Table
  | [], table => change table
  | key :: path, table =>
    let step (below : Table) := Table.changeAt dotted change path below
    let store (value : Value) : Table :=
      { table with entries := Assoc.put key value table.entries }
    match table.entries.lookup key with
    | none =>
      (step ⟨if dotted then .dotted else .implied, []⟩).map fun below => store below.toValue
    | some (.table standing entries) =>
      if standing = .inline || dotted && standing = .explicit then none
      else (step ⟨standing, entries⟩).map fun below => store below.toValue
    | some (.tables (newest :: earlier)) =>
      (step ⟨.explicit, newest⟩).map fun below => store (.tables (below.entries :: earlier))
    | some _ => none

/-- Gives a new key its value. -/
def Table.insertNew (key : String) (value : Value) (table : Table) : Option Table :=
  match table.entries.lookup key with
  | none => some { table with entries := Assoc.put key value table.entries }
  | some _ => none

/-- Gives the key at the end of a dotted key its value. A table reached by dots must be one that
dots made. -/
def Table.insertAt (path : List String) (key : String) (value : Value) (table : Table) :
    Option Table :=
  let insert (reached : Table) : Option Table :=
    if !path.isEmpty && reached.standing ≠ .dotted then none else reached.insertNew key value
  table.changeAt true insert path

/-- Opens a table by a header. A table that stands already may be opened only if it is a mere step
on the way of earlier headers. -/
def Table.openTable (key : String) (table : Table) : Option Table :=
  match table.entries.lookup key with
  | none => table.insertNew key Table.empty.toValue
  | some (.table .implied entries) =>
    some { table with entries := Assoc.put key (.table .explicit entries) table.entries }
  | some _ => none

/-- Adds a table to an array of tables by a header. -/
def Table.openElement (key : String) (table : Table) : Option Table :=
  match table.entries.lookup key with
  | none => table.insertNew key (.tables [[]])
  | some (.tables earlier) =>
    some { table with entries := Assoc.put key (.tables ([] :: earlier)) table.entries }
  | some _ => none

end CommandGrammar.Toml
