import CommandGrammar.Argument.Form
import CommandGrammar.Collection.Assoc
import CommandGrammar.Text.LetterCase

/-!
# Named arguments

A text of `-key:value` pairs in any order, between any blanks. A key is a word of ASCII letters,
digits and underscores; a value is everything after the first colon and is not empty. A token that
is not such a pair as a whole is passed over: nothing is ever taken out of the inside of a larger
token.

`scan` reads the pairs, `collect` keeps the pairs whose key is declared and whose value the declared
form accepts, and `suggest` offers the keys that are not typed yet.
-/

set_option autoImplicit false

namespace CommandGrammar

open Text

/-- Whether a text is a word of ASCII letters, digits and underscores. -/
def isIdentifier (text : List Char) : Bool :=
  !text.isEmpty && text.all fun c => c.isAlphanum || c == '_'

namespace Named

/-- The declared keys and the forms of their values, in the order of declaration. -/
abbrev Options : Type :=
  List (String × Form)

/-- The key and the value of a token `-key:value`. -/
def pair? (token : List Char) : Option (List Char × List Char) := do
  let body ← dropStart? ['-'] token
  let (key, value) ← cutAt? ':' body
  if isIdentifier key && !value.isEmpty then some (key, value) else none

/-- The pairs of a text, in order. -/
def scan (text : List Char) : List (List Char × List Char) :=
  (words text).filterMap pair?

/-- The value of a pair, when its key is declared and the form accepts it. Of two declarations of a
key the first counts. -/
def value? (options : Options) (pair : List Char × List Char) : Option Raw := do
  let form ← options.lookup (String.ofList pair.1)
  (form.readToken pair.2).toOption

/-- Adds a pair to the values found so far; a pair without a value changes nothing. -/
def bind (options : Options) (found : List (String × Raw)) (pair : List Char × List Char) :
    List (String × Raw) :=
  match value? options pair with
  | some value => Assoc.put (String.ofList pair.1) value found
  | none => found

/-- The values of the declared keys in a text; the last good value of a key counts. -/
def collect (options : Options) (text : List Char) : List (String × Raw) :=
  (scan text).foldl (bind options) []

/-- The text `-key:`. -/
def keyText (key : String) : String :=
  "-" ++ key ++ ":"

/-- The keys that are not in the text yet and continue its last word, without regard to case. -/
def suggest (options : Options) (typed : List Char) : List String :=
  let lowered := lowercase typed
  let used := (scan lowered).map Prod.fst
  let unused := (Assoc.names options).filter fun key => !used.contains (lowercase key.toList)
  (unused.map keyText).filter fun offer =>
    (lastPiece (· == ' ') lowered).isPrefixOf (lowercase offer.toList)

end Named

end CommandGrammar
