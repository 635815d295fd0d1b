/-!
# Identities as they are shown

Inside the shell an identity is a number. To the outside each of them is shown as a random UUID of
version 4: sixteen bytes in hexadecimal, in five groups, of which one digit gives the version and
one the variant.
-/

set_option autoImplicit false

namespace CommandGrammar.Program

/-- The lower-case hexadecimal digits of a byte. -/
def hexByte (byte : UInt8) : List Char :=
  [Nat.digitChar (byte.toNat / 16), Nat.digitChar (byte.toNat % 16)]

/-- The bytes with the version and the variant set. -/
def markUuid (bytes : List UInt8) : List UInt8 :=
  (bytes.modify 6 fun byte => byte % 16 + 0x40).modify 8 fun byte => byte % 64 + 0x80

/-- Sixteen bytes as a UUID. -/
def showUuid (bytes : List UInt8) : String :=
  let digits := (markUuid bytes).flatMap hexByte
  let group (start length : Nat) := String.ofList ((digits.drop start).take length)
  "-".intercalate [group 0 8, group 8 4, group 12 4, group 16 4, group 20 12]

end CommandGrammar.Program
