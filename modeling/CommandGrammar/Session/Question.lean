import CommandGrammar.Session.Callbacks

/-!
# Questions about an invocation

A handler of a session puts a list of questions to its invocation, notes the answers, and then
claims the invocation, leaves it, or fails. A question that fails is answered by its error; where
the answer was needed, the handler stops there and fails with that error.
-/

set_option autoImplicit false

namespace CommandGrammar.Session

/-- The kinds of values that a question may ask for. -/
inductive ValueKind where
  | int
  | float
  | bool
  | text
  | candidate
  | entity
  | flags
  | named

/-- The value, if it is of the kind. -/
def ValueKind.keep? (kind : ValueKind) (value : Value Extra) : Option (Value Extra) :=
  match kind, value with
  | .int, .raw (.int _) => some value
  | .float, .raw (.float _) => some value
  | .bool, .raw (.bool _) => some value
  | .text, .raw (.text _) => some value
  | .candidate, .host (.candidate _) => some value
  | .entity, .host (.entity _) => some value
  | .flags, .flags _ => some value
  | .named, .named _ => some value
  | _, _ => none

/-- The raw value, if it is of the kind. -/
def ValueKind.keepRaw? (kind : ValueKind) (value : Raw) : Option Raw :=
  (kind.keep? (.raw value)).map fun _ => value

/-- A question about an invocation. -/
abbrev Question : Type :=
  Context → Effect (Except CommandError Answer)

namespace Question

/-- The answer of a question that may fail and gives a raw value. -/
def ofRaw {α : Type} (make : α → Raw) (result : Except CommandError α) :
    Except CommandError Answer :=
  result.map fun value => .value (some (.raw (make value)))

/-- The value of an argument that must be there. -/
def get (kind : ValueKind) (id : String) : Question :=
  fun context => do
    return (← context.get kind.keep? id).map fun value => .value (some value)

/-- The value of an argument that may be absent. -/
def getOptional (kind : ValueKind) (id : String) : Question :=
  fun context => do
    return .ok (.value (← context.getOptional kind.keep? id))

/-- One of the named arguments. -/
def named (kind : ValueKind) (id key : String) : Question :=
  fun context => do
    return .ok (.value ((← context.named? kind.keepRaw? id key).map .raw))

/-- One of the named arguments, or a default. -/
def namedOr (kind : ValueKind) (id key : String) (default : Raw) : Question :=
  fun context => do
    return .ok (.value (some (.raw (← context.namedOr kind.keepRaw? id key default))))

/-- The flags of an argument. -/
def flags (id : String) : Question :=
  fun context => do
    return .ok (.texts (Ascending.ofList (← context.flags id)))

/-- Whether an argument holds a flag. -/
def hasFlag (id flag : String) : Question :=
  fun context => do
    return .ok (.flag (← context.hasFlag id flag))

/-- The raw integer of an argument. -/
def int (id : String) : Question :=
  fun context => return ofRaw .int (context.int id)

/-- The raw float of an argument. -/
def float (id : String) : Question :=
  fun context => return ofRaw .float (context.float id)

/-- The raw truth value of an argument. -/
def bool (id : String) : Question :=
  fun context => return ofRaw .bool (context.bool id)

/-- The raw text of an argument, which must be there. -/
def text (id : String) : Question :=
  fun context => return ofRaw .text (context.text id)

/-- The entity that the raw text of an argument selects in a group. -/
def resolveRaw (entities : Entities Effect Kind Extra) (id : String) : Question :=
  fun context => do
    return .ok (.text ((← context.resolveRaw entities id).map entities.displayName))

/-- The value of an argument, of whatever kind. -/
def resolve (id : String) : Question :=
  fun context => do
    return .ok (.value (← context.resolve id))

/-- The raw value of an argument. -/
def raw (id : String) : Question :=
  fun context => return .ok (.value ((context.raw? id).map .raw))

/-- The raw text of an argument that may be absent. -/
def rawText (id : String) : Question :=
  fun context => return .ok (.text (context.rawText? id))

/-- The byte range of an argument. -/
def range (id : String) : Question :=
  fun context =>
    return .ok (.range ((context.parsed? id).map fun binding => (binding.start, binding.stop)))

/-- Whether an argument was parsed. -/
def hasArgument (id : String) : Question :=
  fun context => return .ok (.flag (context.hasArgument id))

/-- The line. -/
def input : Question :=
  fun context => return .ok (.text (some context.input))

/-- The kind and the name of the sender. -/
def sender : Question :=
  fun context => return .ok (.texts [context.sender.kind.name, context.sender.name])

/-- Whether the sender has a permission. -/
def permission (permission : String) : Question :=
  fun context => return .ok (.flag (context.sender.permits permission))

/-- The names of the mapped arguments. -/
def mappers : Question :=
  fun context => return .ok (.texts (Ascending.ofList context.mapperIds))

/-- Tells the sender something. -/
def say (text : String) : Question :=
  fun context => do
    context.sender.tell text
    return .ok .nothing

end Question

/-- How a handler ends once its questions are answered. -/
inductive Verdict where
  | claim
  | leave
  | fail (text : String)

/-- What a handler does: its label, its questions, each with whether its answer is needed, and how
it ends. -/
structure Script where
  label : String
  questions : List (Question × Bool)
  verdict : Verdict

/-- Puts questions in order. A needed answer that fails ends the list. -/
def askAll (context : Context) : List (Question × Bool) → Effect (List Answer × Option CommandError)
  | [] => return ([], none)
  | (question, needed) :: rest => do
    match ← question context with
    | .ok answer =>
      let (answers, failure) ← askAll context rest
      return (answer :: answers, failure)
    | .error error =>
      if needed then return ([.failed error], some error)
      else
        let (answers, failure) ← askAll context rest
        return (.failed error :: answers, failure)

/-- Carries out a script. -/
def Script.run (script : Script) (context : Context) : Effect (Except CommandError Bool) := do
  let (answers, failure) ← askAll context script.questions
  note (.handler script.label answers)
  match failure with
  | some error => return .error error
  | none =>
    match script.verdict with
    | .claim => return .ok true
    | .leave => return .ok false
    | .fail text => return .error (.other text)

/-- The script as the body of a handler that answers at once. -/
def Script.direct (script : Script) : Body Effect Kind Extra :=
  .direct script.run

/-- The script as work for later, which nobody waits for. -/
def Script.background (script : Script) : Body Effect Kind Extra :=
  .background .running fun context =>
    { delay := 0
      run := do
        note (.background context.sender.name context.sender.name context.input)
        let _ ← script.run context }

end CommandGrammar.Session
