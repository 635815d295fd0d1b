import CommandGrammar.Settings.FieldPattern.Escape

/-!
# Reading sets of characters

A set between brackets is a union of characters, ranges, escapes, named sets and further sets, with
operations between such unions that are applied from left to right. Dashes right behind the opening
bracket stand for themselves, and so does a closing bracket if it comes first.
-/

set_option autoImplicit false

namespace CommandGrammar.FieldPattern

open Text (isBlank)

/-- The names of the named sets. -/
def setNames : List String :=
  ["alnum", "alpha", "ascii", "blank", "cntrl", "digit", "graph", "lower", "print", "punct",
    "space", "upper", "word", "xdigit"]

/-- Reads a named set behind its opening bracket. -/
def namedSet? : List Char → Option (CharSet × List Char)
  | ':' :: text =>
    let (negated, text) :=
      match text with
      | '^' :: text => (true, text)
      | text => (false, text)
    match text.dropWhile (· != ':') with
    | ':' :: ']' :: rest =>
      if setNames.contains (String.ofList (text.takeWhile (· != ':'))) then
        some (.named negated, rest)
      else none
    | _ => none
  | _ => none

/-- The character that decides whether the dash in front of the text makes a range. Where gaps are
skipped it is looked for behind blanks and behind the sign that starts a comment, but not behind the
comment. -/
def behindDash? (skips : Bool) (text : List Char) : Option Char :=
  if skips then
    match text.dropWhile isBlank with
    | '#' :: comment => (comment.dropWhile isBlank).head?
    | text => text.head?
  else text.head?

/-- Reads a character or an escape in a set. -/
def setEscape? (skips : Bool) : List Char → Option (Escape × List Char)
  | [] => none
  | '\\' :: rest => escape? skips rest
  | c :: rest => some (.literal (.plain c), rest)

/-- The set that an escape stands for; the edges of texts and words are no sets. -/
def Escape.toSet? : Escape → Option CharSet
  | .literal c => some (.literal c)
  | .set kind => some kind
  | .edge | .wordEdge => none

/-- The range between two escapes, which must be characters in ascending order. -/
def rangeBetween? : Escape → Escape → Option CharSet
  | .literal first, .literal last =>
    if first.char ≤ last.char then some (.range first last) else none
  | _, _ => none

/-- Reads a character, an escape or a range in a set. -/
def setItem? (skips : Bool) (text : List Char) : Option (CharSet × List Char) := do
  let (first, rest) ← setEscape? skips text
  let alone := first.toSet?.map fun set => (set, rest)
  match afterGap skips rest with
  | '-' :: rest =>
    let next := behindDash? skips rest
    if next = some ']' || next = some '-' then alone
    else
      let (last, rest) ← setEscape? skips (afterGap skips rest)
      return (← rangeBetween? first last, rest)
  | _ => alone

/-- A set in the making. -/
structure OpenSet where
  negated : Bool
  /-- Whether nothing but dashes has been read behind the opening bracket. -/
  isFresh : Bool
  /-- The items of the union at hand, the newest first. -/
  items : List CharSet
  /-- The set on the left of the operation in front of the union. -/
  pending : Option CharSet

/-- The set that has been read so far. -/
def OpenSet.set (reading : OpenSet) : CharSet :=
  let right := CharSet.unionOf reading.items.reverse
  match reading.pending with
  | none => right
  | some left => .combined left right

/-- Adds an item. -/
def OpenSet.add (reading : OpenSet) (item : CharSet) : OpenSet :=
  { reading with isFresh := false, items := item :: reading.items }

/-- Adds a dash behind the opening bracket. -/
def OpenSet.addDash (reading : OpenSet) : OpenSet :=
  { reading with items := .literal (.plain '-') :: reading.items }

/-- Goes on behind an operation. -/
def OpenSet.operate (reading : OpenSet) : OpenSet :=
  { reading with isFresh := false, items := [], pending := some reading.set }

/-- Starts with a set behind its opening bracket. -/
def openSet (skips : Bool) (text : List Char) : OpenSet × List Char :=
  match afterGap skips text with
  | '^' :: rest => (⟨true, true, [], none⟩, rest)
  | rest => (⟨false, true, [], none⟩, rest)

/-- Reads the rest of a set up to its closing bracket. The fuel bounds the number of steps. -/
def setWithin? (skips : Bool) : Nat → OpenSet → List Char → Option (CharSet × List Char)
  | 0, _, _ => none
  | fuel + 1, reading, text =>
    match afterGap skips text with
    | [] => none
    | ']' :: rest =>
      if reading.isFresh && reading.items.isEmpty then
        setWithin? skips fuel (reading.add (.literal (.plain ']'))) rest
      else some (.bracketed reading.negated reading.set, rest)
    | '[' :: rest =>
      match namedSet? rest with
      | some (set, rest) => setWithin? skips fuel (reading.add set) rest
      | none => do
        let (inner, rest) := openSet skips rest
        let (set, rest) ← setWithin? skips fuel inner rest
        setWithin? skips fuel (reading.add set) rest
    | '&' :: '&' :: rest | '~' :: '~' :: rest => setWithin? skips fuel reading.operate rest
    | '-' :: rest =>
      if reading.isFresh then setWithin? skips fuel reading.addDash rest
      else
        match rest with
        | '-' :: rest => setWithin? skips fuel reading.operate rest
        | rest => do
          let (set, rest) ← setItem? skips ('-' :: rest)
          setWithin? skips fuel (reading.add set) rest
    | text => do
      let (set, rest) ← setItem? skips text
      setWithin? skips fuel (reading.add set) rest

/-- Reads a set behind its opening bracket. -/
def bracketed? (skips : Bool) (text : List Char) : Option (CharSet × List Char) :=
  let (reading, rest) := openSet skips text
  setWithin? skips (rest.length + 1) reading rest

end CommandGrammar.FieldPattern
