/-!
# Senders

A sender is whoever issues a command line. The grammar asks it for its name, for permissions, for an
identity that tells it apart from the entities it may target, and for its kind, which handlers are
declared for. Telling a sender something is an effect of the host.
-/

set_option autoImplicit false

namespace CommandGrammar

/-- Whoever issues a command line. A sender without an identity is never taken for an entity. -/
structure Sender (m : Type → Type) (κ : Type) where
  kind : κ
  name : String
  permits : String → Bool
  identity : Option Nat
  tell : String → m Unit

/-- The senders that a handler is declared for. -/
inductive Audience (κ : Type) where
  /-- Every sender. -/
  | anyone
  /-- The senders of one kind. -/
  | only (kind : κ)
  deriving DecidableEq

/-- Whether a sender of a kind belongs to the audience. -/
def Audience.admits {κ : Type} [DecidableEq κ] : Audience κ → κ → Bool
  | .anyone, _ => true
  | .only kind, other => kind = other

end CommandGrammar
