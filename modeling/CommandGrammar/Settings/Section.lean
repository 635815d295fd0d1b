import CommandGrammar.Toml.Value

/-!
# Sections of a settings file

A section is a table of its settings, or an array of them in their order. A setting may be left out,
and what a section says beyond its settings does not count. A value of another kind than its setting
makes the whole file unusable, so every reader here fails on one. A table is read to its end, so it
fails too on a further value that cannot be read; an array is read only as far as it has settings.
-/

set_option autoImplicit false

namespace CommandGrammar.Section

/-- A text. -/
def text? : Toml.Value → Option String
  | .text value => some value
  | _ => none

/-- A number without a sign in 64 bits. -/
def number? : Toml.Value → Option Nat
  | .integer value => if 0 ≤ value ∧ value < Int.pow 2 64 then some value.toNat else none
  | _ => none

/-- A list of texts. -/
def texts? : Toml.Value → Option (List String)
  | .array items => items.mapM text?
  | _ => none

/-- The value of a setting, or its default if it is left out. -/
def valueOr {α : Type} (read? : Toml.Value → Option α) (default : α) : Option Toml.Value → Option α
  | none => some default
  | some value => read? value

/-- What a section says of two settings, given their names. A moment of time says nothing of any. -/
def settings? (first second : String) : Option Toml.Value → Option (Option Toml.Value × Option Toml.Value)
  | none | some (.moment _) => some (none, none)
  | some (.table _ entries) =>
    if Toml.areEntriesReadable entries then some (entries.lookup first, entries.lookup second)
    else none
  | some (.array items) => some (items[0]?, items[1]?)
  | some (.tables newestFirst) =>
    let items := newestFirst.reverse.map (Toml.Value.table .explicit)
    some (items[0]?, items[1]?)
  | some _ => none

end CommandGrammar.Section
