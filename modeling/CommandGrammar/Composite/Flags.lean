import CommandGrammar.Collection.Ascending
import CommandGrammar.Composite.Named

/-!
# Flags

A text of tokens `-word` and `--word` in any order, between any blanks, where a word is one of ASCII
letters, digits and underscores. As with named arguments a token counts as a whole or not at all.

`scan` reads the flags, `collect` keeps the ones that are allowed, and `suggest` offers the allowed
ones that are not typed yet.
-/

set_option autoImplicit false

namespace CommandGrammar.Flags

open Text

/-- What stands behind the one or two dashes of a token. -/
def body? (token : List Char) : Option (List Char) :=
  (dropStart? ['-', '-'] token).or (dropStart? ['-'] token)

/-- Whether a token is a flag. -/
def isFlag (token : List Char) : Bool :=
  match body? token with
  | some body => isIdentifier body
  | none => false

/-- The flags of a text, in order. -/
def scan (text : List Char) : List (List Char) :=
  (words text).filter isFlag

/-- The allowed flags that occur in a text, in ascending order. -/
def collect (allowed : List String) (text : List Char) : List String :=
  Ascending.ofList (((scan text).map String.ofList).filter fun flag => allowed.contains flag)

/-- The allowed flags that are not in the text yet and continue its last word, without regard to
case. -/
def suggest (allowed : List String) (typed : List Char) : List String :=
  let lowered := lowercase typed
  let present := splitOn (· == ' ') lowered
  let last := lastPiece (· == ' ') lowered
  allowed.filter fun flag =>
    let form := lowercase flag.toList
    !present.contains form && last.isPrefixOf form

end CommandGrammar.Flags
