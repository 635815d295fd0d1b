import CommandGrammar.Settings.FieldPattern.Brackets
import CommandGrammar.Settings.FieldPattern.Expression
import CommandGrammar.Text.Alphanumeric

/-!
# Reading expressions

A group is read item by item. A sign of repetition takes the item before it; a group starts with its
name, with a change of modes or with nothing. No two groups share a name.
-/

set_option autoImplicit false

namespace CommandGrammar.FieldPattern

/-- What stands at the start of a group. -/
inductive GroupHead where
  /-- A change of modes and nothing else: this is the whole group. -/
  | modes (change : ModeChange)
  /-- The body follows. -/
  | body (name : Option String) (change : ModeChange)

/-- Whether the characters can be the name of a group. -/
def isGroupName : List Char → Bool
  | [] => false
  | first :: rest =>
    (first = '_' || Text.isAlphabetic first)
      && rest.all fun c => ['_', '.', '[', ']'].contains c || Text.isAlphanumeric c

/-- Reads the name of a group up to its closing angle. -/
def groupName? (text : List Char) : Option (GroupHead × List Char) :=
  let name := text.takeWhile (· != '>')
  match text.dropWhile (· != '>') with
  | _ :: rest =>
    if isGroupName name then some (.body (some (String.ofList name)) .none, rest) else none
  | [] => none

/-- Reads what stands at the start of a group. A question mark with no letters behind it is no
change of modes. -/
def groupHead? : List Char → Option (GroupHead × List Char)
  | '?' :: 'P' :: '<' :: rest => groupName? rest
  | '?' :: '<' :: rest => groupName? rest
  | '?' :: rest => do
    let (letters, alone, rest) ← modeLetters? [] rest
    let change := ModeChange.ofLetters letters
    if !alone then return (.body none change, rest)
    else if letters.isEmpty then none
    else return (.modes change, rest)
  | rest => some (.body none .none, rest)

/-- Reads a single item that does not open anything. A lone opening brace is no item. -/
def item? (skips : Bool) : List Char → Option (Expression × List Char)
  | [] => none
  | c :: rest =>
    if c = '\\' then
      (escape? skips rest).map fun (escape, rest) =>
        match escape with
        | .literal literal => (.literal literal, rest)
        | .set set => (.set set, rest)
        | .edge => (.edge, rest)
        | .wordEdge => (.wordEdge, rest)
    else if c = '\x7b' then none
    else if c = '.' then some (.anyChar, rest)
    else if c = '^' || c = '$' then some (.edge, rest)
    else some (.literal (.plain c), rest)

/-- A group in the making. -/
structure OpenGroup where
  skips : Bool
  /-- The names of the groups that have been opened so far. -/
  names : List String
  /-- The alternatives before the one at hand, the newest first. -/
  earlier : List Expression
  /-- The items of the alternative at hand, the newest first. -/
  items : List Expression

/-- A group of which nothing has been read. -/
def OpenGroup.empty (skips : Bool) (names : List String) : OpenGroup :=
  ⟨skips, names, [], []⟩

/-- Adds an item. -/
def OpenGroup.add (group : OpenGroup) (item : Expression) : OpenGroup :=
  { group with items := item :: group.items }

/-- The alternatives that have been read, the newest first. -/
def OpenGroup.alternatives (group : OpenGroup) : List Expression :=
  .sequenceOf group.items.reverse :: group.earlier

/-- Goes on with the next alternative. -/
def OpenGroup.alternate (group : OpenGroup) : OpenGroup :=
  { group with earlier := group.alternatives, items := [] }

/-- Repeats the newest item; a change of modes cannot be repeated. -/
def OpenGroup.repeat? (group : OpenGroup) : Option OpenGroup :=
  match group.items with
  | [] | .modes _ :: _ => none
  | item :: items => some { group with items := .repetition item :: items }

/-- What has been read. -/
def OpenGroup.expression (group : OpenGroup) : Expression :=
  .alternativesOf group.alternatives.reverse

/-- The names with the name of a further group, which must be new. -/
def addName? (names : List String) : Option String → Option (List String)
  | none => some names
  | some name => if names.contains name then none else some (name :: names)

/-- Reads the rest of a group up to its closing parenthesis or to the end of the text. The fuel
bounds the number of steps. -/
def groupWithin? : Nat → OpenGroup → List Char → Option (OpenGroup × List Char)
  | 0, _, _ => none
  | fuel + 1, group, text =>
    match afterGap group.skips text with
    | [] => some (group, [])
    | ')' :: rest => some (group, ')' :: rest)
    | '|' :: rest => groupWithin? fuel group.alternate rest
    | '(' :: rest => do
      match ← groupHead? (afterGap group.skips rest) with
      | (.modes change, rest) =>
        let group := { group with skips := change.skipsAfter group.skips }
        groupWithin? fuel (group.add (.modes change)) rest
      | (.body name change, rest) =>
        let names ← addName? group.names name
        let (inner, rest) ← groupWithin? fuel (.empty (change.skipsAfter group.skips) names) rest
        match rest with
        | ')' :: rest =>
          let group := { group with names := inner.names }
          groupWithin? fuel (group.add (.group change inner.expression)) rest
        | _ => none
    | '[' :: rest => do
      let (set, rest) ← bracketed? group.skips rest
      groupWithin? fuel (group.add (.set set)) rest
    | c :: rest => do
      if c = '*' || c = '+' || c = '?' then
        let group ← group.repeat?
        match rest with
        | '?' :: rest => groupWithin? fuel group rest
        | rest => groupWithin? fuel group rest
      else
        let (item, rest) ← item? group.skips (c :: rest)
        groupWithin? fuel (group.add item) rest

/-- Reads an expression. -/
def expression? (text : List Char) : Option Expression :=
  match groupWithin? (text.length + 1) (.empty false []) text with
  | some (group, []) => some group.expression
  | _ => none

end CommandGrammar.FieldPattern
