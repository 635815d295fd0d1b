import CommandGrammar.Toml.Scalar
import CommandGrammar.Toml.Table

/-!
# Statements of TOML

A document is a list of statements: entries, headers of tables, and headers of arrays of tables.
This module reads keys, values and statements. Values nest at most eighty deep, a key has at most
eighty parts, and the reader of a list goes on for at most as many items as the text has characters.
-/

set_option autoImplicit false

namespace CommandGrammar.Toml

/-- A key: the steps on the way, and the last one. -/
structure Key where
  path : List String
  last : String

/-- The characters of a bare key. -/
def isBareKeyChar (c : Char) : Bool :=
  c.isAlphanum || c = '_' || c = '-'

/-- Reads one part of a key. -/
def keyPart? (text : List Char) : Option (String × List Char) :=
  match text.takeWhile isBareKeyChar with
  | [] => (quotedLine? text).map fun read => (String.ofList read.1, read.2)
  | bare => some (String.ofList bare, text.dropWhile isBareKeyChar)

/-- Reads the parts of a key between dots, at most a given number of them. -/
def keyParts? : Nat → List Char → Option (Key × List Char)
  | 0, _ => none
  | count + 1, text => do
    let (part, rest) ← keyPart? text
    match skipSpaces rest with
    | '.' :: more =>
      let (key, rest) ← keyParts? count (skipSpaces more)
      return (⟨part :: key.path, key.last⟩, rest)
    | rest => return (⟨[], part⟩, rest)

/-- Reads a key and the blanks behind it. -/
def key? (text : List Char) : Option (Key × List Char) :=
  keyParts? 80 text

/-- Reads the items of an array up to its closing bracket. -/
def items? (value? : List Char → Option (Value × List Char)) :
    Nat → List Char → Option (List Value × List Char)
  | 0, _ => none
  | fuel + 1, text => do
    match ← skipGap? text with
    | ']' :: rest => return ([], rest)
    | text =>
      let (item, rest) ← value? text
      match ← skipGap? rest with
      | ']' :: rest => return ([item], rest)
      | ',' :: rest =>
        let (items, rest) ← items? value? fuel rest
        return (item :: items, rest)
      | _ => none

/-- Reads a key, the equals sign and a value. `skip?` skips what may stand on both sides of the
sign. -/
def assignment? (skip? : List Char → Option (List Char))
    (value? : List Char → Option (Value × List Char)) (text : List Char) :
    Option (Key × Value × List Char) := do
  let (key, rest) ← key? text
  match ← skip? rest with
  | '=' :: rest =>
    let (value, rest) ← value? (← skip? rest)
    return (key, value, rest)
  | _ => none

/-- Reads the entries of an inline table up to its closing brace; they may run over several lines.
-/
def members? (value? : List Char → Option (Value × List Char)) :
    Nat → Table → List Char → Option (Table × List Char)
  | 0, _, _ => none
  | fuel + 1, table, text => do
    match ← skipGap? text with
    | '}' :: rest => return (table, rest)
    | text =>
      let (key, value, rest) ← assignment? skipGap? value? text
      let table ← table.insertAt key.path key.last value
      match ← skipGap? rest with
      | '}' :: rest => return (table, rest)
      | ',' :: rest => members? value? fuel table rest
      | _ => none

/-- Reads a value that may nest as deep as it is told. -/
def valueWithin? : Nat → List Char → Option (Value × List Char)
  | 0, text =>
    match quoted? text with
    | some (chars, rest) => some (.text (String.ofList chars), rest)
    | none => takeScalar? text
  | depth + 1, text =>
    match text with
    | '[' :: rest =>
      (items? (valueWithin? depth) (rest.length + 1) rest).map fun read =>
        (.array read.1, read.2)
    | '{' :: rest =>
      (members? (valueWithin? depth) (rest.length + 1) .empty rest).map fun read =>
        (.table .inline read.1.entries, read.2)
    | _ => valueWithin? 0 text

/-- Reads a value. -/
def value? (text : List Char) : Option (Value × List Char) :=
  valueWithin? 80 text

/-- What a line of a document says. -/
inductive Statement where
  | blank
  | entry (key : Key) (value : Value)
  | table (key : Key)
  | element (key : Key)

/-- Reads a key between blanks and a closing mark. -/
def header? (closing : List Char) (text : List Char) : Option (Key × List Char) := do
  let (key, rest) ← key? (skipSpaces text)
  if closing.isPrefixOf rest then return (key, rest.drop closing.length) else none

/-- Reads a statement, without the end of its line. -/
def statementBody? (text : List Char) : Option (Statement × List Char) :=
  match text with
  | [] => some (.blank, [])
  | '#' :: _ | '\n' :: _ | '\r' :: _ => some (.blank, text)
  | '[' :: '[' :: rest => (header? [']', ']'] rest).map fun read => (.element read.1, read.2)
  | '[' :: rest => (header? [']'] rest).map fun read => (.table read.1, read.2)
  | _ =>
    (assignment? (some ∘ skipSpaces) value? text).map fun read =>
      (.entry read.1 read.2.1, read.2.2)

/-- Reads a statement and the end of its line. -/
def statement? (text : List Char) : Option (Statement × List Char) := do
  let (statement, rest) ← statementBody? (skipSpaces text)
  return (statement, ← skipLineEnd? (skipSpaces rest))

/-- Reads statements to the end of the text, as many as the fuel allows. -/
def statementsWithin? : Nat → List Char → Option (List Statement)
  | _, [] => some []
  | 0, _ :: _ => none
  | fuel + 1, text => do
    let (statement, rest) ← statement? text
    return statement :: (← statementsWithin? fuel rest)

/-- Reads the statements of a document; a byte order mark in front of it does not count. -/
def statements? (text : List Char) : Option (List Statement) :=
  match text with
  | '\ufeff' :: rest => statementsWithin? (rest.length + 1) rest
  | _ => statementsWithin? (text.length + 1) text

end CommandGrammar.Toml
