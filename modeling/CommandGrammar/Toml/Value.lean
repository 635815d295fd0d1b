/-!
# TOML values

What a TOML document can say of a key. A table remembers how it came into being, because that
decides what may still be added to it; floats and moments of time are kept as they were written.

A number that cannot be read may stand in a document, and is an error only for whoever reads it.
-/

set_option autoImplicit false

namespace CommandGrammar.Toml

/-- How a table came into being. -/
inductive Standing where
  /-- As a step on the way of a header. A header of its own may still follow. -/
  | implied
  /-- As a step of a dotted key. -/
  | dotted
  /-- By a header of its own. -/
  | explicit
  /-- As a value between braces, which is complete. -/
  | inline
  deriving DecidableEq

/-- A TOML value. -/
inductive Value where
  | text (value : String)
  | integer (value : Int)
  | float (written : String)
  /-- A number that is too large, that has a base but no digits, or whose digits run into other
  characters. -/
  | unreadable (written : String)
  | boolean (value : Bool)
  | moment (written : String)
  | array (items : List Value)
  | table (standing : Standing) (entries : List (String × Value))
  /-- An array of tables that headers add to; the newest table stands first. -/
  | tables (newestFirst : List (List (String × Value)))

mutual

/-- Whether a value can be read to its end. -/
def Value.isReadable : Value → Bool
  | .unreadable _ => false
  | .array items => areReadable items
  | .table _ entries => areEntriesReadable entries
  | .tables newestFirst => areTablesReadable newestFirst
  | _ => true

/-- Whether all values can be read. -/
def areReadable : List Value → Bool
  | [] => true
  | value :: values => value.isReadable && areReadable values

/-- Whether the values of all entries can be read. -/
def areEntriesReadable : List (String × Value) → Bool
  | [] => true
  | (_, value) :: entries => value.isReadable && areEntriesReadable entries

/-- Whether the entries of all tables can be read. -/
def areTablesReadable : List (List (String × Value)) → Bool
  | [] => true
  | entries :: tables => areEntriesReadable entries && areTablesReadable tables

end

end CommandGrammar.Toml
