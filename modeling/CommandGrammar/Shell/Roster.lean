import CommandGrammar.Builder.Composite

/-!
# The roster

The shell knows a fixed list of participants. A participant is found by its name, without regard to
the case of ASCII letters; of several with one name the first is found. A user of the shell who is
on the roster has the name and the identity of its entry there, and any other user an identity of
its own.
-/

set_option autoImplicit false

namespace CommandGrammar.Shell

/-- An entry of the roster. -/
structure Participant where
  name : String
  identity : Nat
  deriving DecidableEq

/-- The participants, in the order of their names in the list they come from. -/
structure Roster where
  participants : List Participant

/-- Someone who issues commands from the shell. Operators have every permission. -/
structure User where
  name : String
  identity : Nat
  operator : Bool
  permissions : List String

namespace User

/-- The user as an operator or not. -/
def withOperator (user : User) (operator : Bool) : User :=
  { user with operator }

/-- The user with one more permission. -/
def withPermission (user : User) (permission : String) : User :=
  { user with permissions := permission :: user.permissions }

/-- Whether the user has a permission. -/
def permits (user : User) (permission : String) : Bool :=
  user.operator || user.permissions.contains permission

end User

namespace Roster

/-- The roster of a list of names; the identity of a participant is its place in the list. -/
def ofNames (names : List String) : Roster :=
  ⟨names.zipIdx.map fun entry => ⟨entry.1, entry.2⟩⟩

/-- The first participant of a name. -/
def find? (roster : Roster) (name : String) : Option Participant :=
  roster.participants.find? fun participant =>
    Text.equalIgnoringAsciiCase participant.name name

/-- The user of a name. -/
def user (roster : Roster) (name : String) : User :=
  match roster.find? name with
  | some participant => ⟨participant.name, participant.identity, false, []⟩
  | none => ⟨name, roster.participants.length, false, []⟩

/-- The participant that a token selects. `@r` selects the first one; `@a` means all of them, and is
an error when there are several; any other token that starts with `@` is an error; and a name
selects the participant it finds. -/
def resolve (roster : Roster) (token : String) : Except ResolveError (Option Participant) :=
  if token = "@r" then .ok roster.participants.head?
  else if token = "@a" then
    if 1 < roster.participants.length then .error (.ambiguous token roster.participants.length)
    else .ok roster.participants.head?
  else if ['@'].isPrefixOf token.toList then .error (.invalid token "unknown selector")
  else .ok (roster.find? token)

end Roster

end CommandGrammar.Shell
