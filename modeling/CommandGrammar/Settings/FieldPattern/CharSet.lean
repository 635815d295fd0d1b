/-!
# Sets of characters in patterns

A pattern names a set of characters by a letter behind a backslash or spells it out between
brackets. What is kept of a set is what decides whether it can be matched.

A pattern is matched by characters or by bytes. By characters, no tables of properties are at hand:
neither the digits, blanks and word characters of Unicode nor its letter cases. By bytes, no set may
hold a byte beyond ASCII, because it would match a part of a character; so the complement of a set
cannot be matched.
-/

set_option autoImplicit false

namespace CommandGrammar.FieldPattern

/-- A character as a pattern gives it. `isByte` marks one given by two hexadecimal digits, which
means a byte where a pattern is matched by bytes. -/
structure Literal where
  char : Char
  isByte : Bool

/-- A literal that stands for itself. -/
def Literal.plain (c : Char) : Literal :=
  ⟨c, false⟩

/-- Whether a literal is an ASCII character. -/
def Literal.isAscii (literal : Literal) : Bool :=
  literal.char.toNat < 0x80

/-- A set of characters as it is written. -/
inductive CharSet where
  | empty
  | literal (literal : Literal)
  | range (first last : Literal)
  /-- One of the sets of ASCII characters that have a name between colons. -/
  | named (negated : Bool)
  /-- The digits, the blanks or the word characters. -/
  | kind (negated : Bool)
  | bracketed (negated : Bool) (set : CharSet)
  | union (items : List CharSet)
  /-- The intersection or a difference of two sets. -/
  | combined (left right : CharSet)

/-- The union of sets; of a single set it is that set. -/
def CharSet.unionOf : List CharSet → CharSet
  | [] => .empty
  | [item] => item
  | items => .union items

mutual

/-- How deep brackets, unions and operations nest in a set. -/
def CharSet.height : CharSet → Nat
  | .bracketed _ set => set.height + 1
  | .union items => heightOfSets items + 1
  | .combined left right => max left.height right.height + 1
  | _ => 0

/-- The greatest height among sets. -/
def heightOfSets : List CharSet → Nat
  | [] => 0
  | item :: items => max item.height (heightOfSets items)

end

mutual

/-- Whether a set can be matched by characters. -/
def CharSet.isTextual (ignoresCase : Bool) : CharSet → Bool
  | .empty => true
  | .literal _ | .range _ _ | .named _ => !ignoresCase
  | .kind _ => false
  | .bracketed _ set => set.isTextual ignoresCase
  | .union items => areTextual ignoresCase items
  | .combined left right => left.isTextual ignoresCase && right.isTextual ignoresCase

/-- Whether all of the sets can be matched by characters. -/
def areTextual (ignoresCase : Bool) : List CharSet → Bool
  | [] => true
  | item :: items => item.isTextual ignoresCase && areTextual ignoresCase items

end

mutual

/-- Whether a set can be matched by bytes. -/
def CharSet.isBytewise : CharSet → Bool
  | .empty => true
  | .literal literal => literal.isAscii
  | .range _ last => last.isAscii
  | .named negated | .kind negated => !negated
  | .bracketed negated set => !negated && set.isBytewise
  | .union items => areBytewise items
  | .combined left right => left.isBytewise && right.isBytewise

/-- Whether all of the sets can be matched by bytes. -/
def areBytewise : List CharSet → Bool
  | [] => true
  | item :: items => item.isBytewise && areBytewise items

end

end CommandGrammar.FieldPattern
