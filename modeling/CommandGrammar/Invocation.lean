import CommandGrammar.Argument.Raw
import CommandGrammar.Sender

/-!
# Invocations

An invocation is what a handler, a mapper or a completion source may ask about the line at hand: who
sent it, its text, the arguments parsed on the way to the node in question, and the value of each
argument.

The parsed arguments are bindings by name: each name has at most one, and of two arguments with one
name the deeper one counts. The value of an argument is what `resolve` answers; how it comes about,
and that a mapper has the last word on it, is said in `CommandGrammar.Invocation.Mapper`. The accessors here
differ in what they ask for: `raw?` and the typed readers next to it look at the binding,
`getOptional` and `get` at the resolved value.
-/

set_option autoImplicit false

namespace CommandGrammar

/-- An argument as it was parsed: the byte range of its text, and its raw value. -/
structure Binding where
  start : Nat
  stop : Nat
  value : Raw

/-- The parsed arguments on the way to a node, by name. -/
abbrev Bindings : Type :=
  List (String × Binding)

/-- The value of an argument: the raw one, or what a mapper made of it. `host` holds the values that
only the host knows, such as entities. -/
inductive Value (ε : Type) where
  | raw (value : Raw)
  | flags (found : List String)
  | named (found : List (String × Raw))
  | host (value : ε)

namespace Value

variable {ε : Type}

/-- The raw value, if no mapper made another kind of value of it. -/
def raw? : Value ε → Option Raw
  | .raw value => some value
  | _ => none

/-- The integer, if the value is one. -/
def int? (value : Value ε) : Option Int32 :=
  value.raw?.bind Raw.int?

/-- The float, if the value is one. -/
def float? (value : Value ε) : Option Float :=
  value.raw?.bind Raw.float?

/-- The truth value, if the value is one. -/
def bool? (value : Value ε) : Option Bool :=
  value.raw?.bind Raw.bool?

/-- The text, if the value is one. -/
def text? (value : Value ε) : Option String :=
  value.raw?.bind Raw.text?

/-- The set of flags, if the value is one. -/
def flags? : Value ε → Option (List String)
  | .flags found => some found
  | _ => none

/-- The named arguments, if the value holds them. -/
def named? : Value ε → Option (List (String × Raw))
  | .named found => some found
  | _ => none

/-- The host's value, if the value is one. -/
def host? : Value ε → Option ε
  | .host value => some value
  | _ => none

end Value

/-- The kinds of raw values, as an error names them. -/
inductive RawKind where
  | integer
  | float
  | boolean
  | string
  deriving DecidableEq

/-- The name of a kind of raw values. -/
def RawKind.name : RawKind → String
  | .integer => "integer"
  | .float => "float"
  | .boolean => "boolean"
  | .string => "string"

/-- Why a handler failed. An argument that may be absent is no failure; these are values that the
grammar promised and the invocation does not have, and failures of the handler's own. -/
inductive CommandError where
  | missingArgument (id : String)
  | argumentType (id : String) (expected : RawKind)
  | other (text : String)

/-- What the error says. -/
def CommandError.message : CommandError → String
  | .missingArgument id =>
    "Required command argument '" ++ id ++ "' is missing or failed to map"
  | .argumentType id expected => "Command argument '" ++ id ++ "' is not a " ++ expected.name
  | .other text => text

/-- What may be asked about the line at hand. -/
structure Invocation (m : Type → Type) (κ ε : Type) where
  sender : Sender m κ
  input : String
  arguments : Bindings
  mapperIds : List String
  resolve : String → m (Option (Value ε))

namespace Invocation

variable {m : Type → Type} {κ ε α : Type}

/-- The argument as it was parsed. -/
def parsed? (invocation : Invocation m κ ε) (id : String) : Option Binding :=
  invocation.arguments.lookup id

/-- The raw value of an argument, whatever a mapper makes of it. -/
def raw? (invocation : Invocation m κ ε) (id : String) : Option Raw :=
  (invocation.parsed? id).map Binding.value

/-- The raw value of an argument that is a text. -/
def rawText? (invocation : Invocation m κ ε) (id : String) : Option String :=
  (invocation.raw? id).bind Raw.text?

/-- Whether an argument of this name was parsed. -/
def hasArgument (invocation : Invocation m κ ε) (id : String) : Bool :=
  (invocation.parsed? id).isSome

/-- The raw value of an argument as one kind of value, or the reason why there is none. -/
def rawAs (invocation : Invocation m κ ε) (expected : RawKind) (read : Raw → Option α)
    (id : String) : Except CommandError α :=
  match invocation.raw? id with
  | none => .error (.missingArgument id)
  | some value =>
    match read value with
    | none => .error (.argumentType id expected)
    | some result => .ok result

/-- The raw integer of an argument. -/
def int (invocation : Invocation m κ ε) (id : String) : Except CommandError Int32 :=
  invocation.rawAs .integer Raw.int? id

/-- The raw float of an argument. -/
def float (invocation : Invocation m κ ε) (id : String) : Except CommandError Float :=
  invocation.rawAs .float Raw.float? id

/-- The raw truth value of an argument. -/
def bool (invocation : Invocation m κ ε) (id : String) : Except CommandError Bool :=
  invocation.rawAs .boolean Raw.bool? id

/-- The raw text of an argument. -/
def text (invocation : Invocation m κ ε) (id : String) : Except CommandError String :=
  invocation.rawAs .string Raw.text? id

variable [Monad m]

/-- The value of an argument that may be absent, as one kind of value. -/
def getOptional (invocation : Invocation m κ ε) (read : Value ε → Option α) (id : String) :
    m (Option α) := do
  let value ← invocation.resolve id
  return value.bind read

/-- The value of an argument that must be there, as one kind of value. -/
def get (invocation : Invocation m κ ε) (read : Value ε → Option α) (id : String) :
    m (Except CommandError α) := do
  match ← invocation.getOptional read id with
  | some value => return .ok value
  | none => return .error (.missingArgument id)

/-- One value of a named-arguments argument. -/
def named? (invocation : Invocation m κ ε) (read : Raw → Option α) (id key : String) :
    m (Option α) := do
  let found ← invocation.getOptional Value.named? id
  return found.bind fun values => (values.lookup key).bind read

/-- One value of a named-arguments argument, or a default. -/
def namedOr (invocation : Invocation m κ ε) (read : Raw → Option α) (id key : String)
    (default : α) : m α := do
  return (← invocation.named? read id key).getD default

/-- The flags of a flags argument; none when the argument is absent. -/
def flags (invocation : Invocation m κ ε) (id : String) : m (List String) := do
  return (← invocation.getOptional Value.flags? id).getD []

/-- Whether a flags argument holds a flag. -/
def hasFlag (invocation : Invocation m κ ε) (id flag : String) : m Bool := do
  return (← invocation.flags id).contains flag

end Invocation

end CommandGrammar
