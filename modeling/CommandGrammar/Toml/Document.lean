import CommandGrammar.Toml.Statement

/-!
# TOML documents

The statements of a document build its root table in order. An entry belongs to the table of the
header before it, and to the root where there is none.
-/

set_option autoImplicit false

namespace CommandGrammar.Toml

/-- A document in the making: its root table, and the steps of the header in force. -/
structure Document where
  root : Table
  header : List String

/-- Carries out a statement. -/
def Document.add (document : Document) : Statement → Option Document
  | .blank => some document
  | .entry key value =>
    (document.root.changeAt false (Table.insertAt key.path key.last value) document.header).map
      fun root => { document with root }
  | .table key =>
    (document.root.changeAt false (Table.openTable key.last) key.path).map
      fun root => ⟨root, key.path ++ [key.last]⟩
  | .element key =>
    (document.root.changeAt false (Table.openElement key.last) key.path).map
      fun root => ⟨root, key.path ++ [key.last]⟩

/-- The entries of the root table of a document. -/
def parse? (text : List Char) : Option (List (String × Value)) := do
  let statements ← statements? text
  let document ← statements.foldlM Document.add ⟨.empty, []⟩
  return document.root.entries

end CommandGrammar.Toml
