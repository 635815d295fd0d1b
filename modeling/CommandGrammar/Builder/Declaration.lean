import CommandGrammar.Builder

/-!
# Declarations

A command is declared by a list of steps, carried out in order on the builder of its root. A step
declares something on the builder at hand, opens the scope of a child, or handles a child in three
parts: `detach` creates it, `edit` carries out steps on it, and `attach` puts it into place, with
any other steps in between. The name of a detached child belongs to the list of steps it was created
in.

Every handler is numbered when it is declared. A step may also hand out the builder as it stands at
that moment, under a note of the caller's own.
-/

set_option autoImplicit false

namespace CommandGrammar

/-- One step of a declaration. -/
inductive Declaration (m : Type → Type) (κ ε ν : Type) where
  | require (requirement : Sender m κ → m Bool)
  | offer (source : Completion.Source m κ ε)
  | handle (audience : Audience κ) (body : Body m κ ε)
  | rebind
  | map (id : String) (mapper : Mapper m κ ε)
  | child (pattern : Pattern) (body : List (Declaration m κ ε ν))
  | detach (label : String) (pattern : Pattern)
  | edit (label : String) (body : List (Declaration m κ ε ν))
  | attach (label : String)
  | note (subject : ν)

/-- Where a list of steps stands: the builder at hand, its detached children by their names, the
number of handlers declared so far, and the builders handed out so far. -/
structure Draft (m : Type → Type) (κ ε ν : Type) where
  builder : Builder m κ ε
  detached : List (String × Builder m κ ε)
  declared : Nat
  notes : List (ν × Builder m κ ε)

namespace Draft

variable {m : Type → Type} {κ ε ν : Type}

/-- Opens the scope of another builder; it has no detached children yet. -/
def enter (draft : Draft m κ ε ν) (builder : Builder m κ ε) : Draft m κ ε ν :=
  { draft with builder, detached := [] }

/-- Comes back from a scope to the builder and the detached children outside of it. -/
def leave (inner : Draft m κ ε ν) (builder : Builder m κ ε)
    (detached : List (String × Builder m κ ε)) : Draft m κ ε ν :=
  { inner with builder, detached }

end Draft

namespace Declaration

variable {m : Type → Type} {κ ε ν : Type}

mutual

/-- Carries out one step. An `edit` or `attach` of a child that was not detached here does nothing.
-/
def apply : Declaration m κ ε ν → Draft m κ ε ν → Draft m κ ε ν
  | .require requirement, draft =>
    { draft with builder := draft.builder.require requirement }
  | .offer source, draft =>
    { draft with builder := draft.builder.offer source }
  | .handle audience body, draft =>
    { draft with
      builder := draft.builder.handle ⟨audience, draft.declared, body⟩
      declared := draft.declared + 1 }
  | .rebind, draft =>
    { draft with builder := draft.builder.rebind }
  | .map id mapper, draft =>
    { draft with builder := draft.builder.map id mapper }
  | .child pattern body, draft =>
    let inner := applyAll body (draft.enter (draft.builder.child pattern))
    inner.leave (draft.builder.attach inner.builder) draft.detached
  | .detach label pattern, draft =>
    { draft with detached := Assoc.put label (draft.builder.child pattern) draft.detached }
  | .edit label body, draft =>
    match draft.detached.lookup label with
    | none => draft
    | some held =>
      let inner := applyAll body (draft.enter held)
      inner.leave draft.builder (Assoc.put label inner.builder draft.detached)
  | .attach label, draft =>
    match draft.detached.lookup label with
    | none => draft
    | some held =>
      { draft with
        builder := draft.builder.attach held
        detached := Assoc.erase label draft.detached }
  | .note subject, draft =>
    { draft with notes := draft.notes ++ [(subject, draft.builder)] }

/-- Carries out steps in order. -/
def applyAll : List (Declaration m κ ε ν) → Draft m κ ε ν → Draft m κ ε ν
  | [], draft => draft
  | step :: rest, draft => applyAll rest (apply step draft)

end

/-- A child that matches a fixed word. -/
def literal (name : String) (body : List (Declaration m κ ε ν)) : Declaration m κ ε ν :=
  .child (.literal name) body

/-- A child that reads an argument. -/
def argument (name : String) (form : Form) (body : List (Declaration m κ ε ν)) :
    Declaration m κ ε ν :=
  .child (.argument name form) body

variable [Monad m]

/-- Requires a permission. -/
def requirePermission (permission : String) : Declaration m κ ε ν :=
  .require fun sender => pure (sender.permits permission)

/-- A handler that answers at once. -/
def onExecute (audience : Audience κ)
    (answer : Invocation m κ ε → m (Except CommandError Bool)) : Declaration m κ ε ν :=
  .handle audience (.direct answer)

/-- A handler for the senders of one kind that leaves its work for later. -/
def onExecuteLater (kind : κ) (job : Invocation m κ ε → Job m Unit) : Declaration m κ ε ν :=
  .handle (.only kind) (.background .running job)

end Declaration

end CommandGrammar
