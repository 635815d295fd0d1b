import CommandGrammar.Text.Hexadecimal
import CommandGrammar.Toml.Scan

/-!
# Quoted texts in TOML

The four ways of quoting a text: between single or double quotes, on one line or, between three of
them, on several. Double quotes know escapes; a backslash at the end of a line joins the lines. A
line end right behind the opening quotes does not count, and up to two quotes may stand in front of
the closing ones.
-/

set_option autoImplicit false

namespace CommandGrammar.Toml

open Text (hexValue? codeLength?)

/-- The character that a letter behind a backslash stands for. -/
def escapedChar? (c : Char) : Option Char :=
  if c = 'b' then some '\x08'
  else if c = 't' then some '\t'
  else if c = 'n' then some '\n'
  else if c = 'f' then some '\x0c'
  else if c = 'r' then some '\r'
  else if c = 'e' then some '\x1b'
  else if c = '"' || c = '\\' then some c
  else none

/-- Where a scanner between double quotes stands. -/
inductive QuoteState where
  | plain
  /-- Behind a number of quotes that may belong to the closing ones. -/
  | quotes (count : Nat)
  | escape
  /-- Inside a code point: the digits to come, and the value so far. -/
  | code (digits value : Nat)
  /-- Behind a backslash and blanks, which must be followed by a line end. -/
  | joining
  /-- Behind a backslash and a line end; blanks and line ends do not count. -/
  | joined
  /-- Behind a carriage return, where joined lines say whether it counts. -/
  | lineEnd (joined : Bool)

/-- One step inside a code point. -/
def codeStep (digits value : Nat) (c : Char) : ScanStep QuoteState :=
  match hexValue? c with
  | none => .fail
  | some digit =>
    let value := 16 * value + digit
    if 1 < digits then .next (.code (digits - 1) value) []
    else if value.isValidChar then .next .plain [Char.ofNat value]
    else .fail

/-- One step behind a backslash. -/
def escapeStep (c : Char) : ScanStep QuoteState :=
  match escapedChar? c, codeLength? c with
  | some escaped, _ => .next .plain [escaped]
  | none, some digits => .next (.code digits 0) []
  | none, none => .fail

/-- One step between double quotes on one line. -/
def lineStep : QuoteState → Char → ScanStep QuoteState
  | .escape, c => escapeStep c
  | .code digits value, c => codeStep digits value c
  | _, c =>
    if c = '"' then .stopBehind []
    else if c = '\\' then .next .escape []
    else if isPlain c then .next .plain [c] else .fail

/-- One step between three double quotes, behind nothing that waits. -/
def plainStep (c : Char) : ScanStep QuoteState :=
  if c = '"' then .next (.quotes 1) []
  else if c = '\\' then .next .escape []
  else if c = '\r' then .next (.lineEnd false) []
  else if c = '\n' || isPlain c then .next .plain [c] else .fail

/-- A step with characters put out in front of it. -/
def ScanStep.after {σ : Type} (earlier : List Char) : ScanStep σ → ScanStep σ
  | .next state output => .next state (earlier ++ output)
  | .stopBehind output => .stopBehind (earlier ++ output)
  | .stopBefore output => .stopBefore (earlier ++ output)
  | .fail => .fail

/-- One step behind quotes: three of them close the text, and up to two may stand in front of these.
-/
def quotesStep {σ : Type} (mark : Char) (resume : Char → ScanStep σ) (counted : Nat → σ)
    (count : Nat) (c : Char) : ScanStep σ :=
  if c = mark then
    if count = 4 then .stopBehind [mark, mark] else .next (counted (count + 1)) []
  else if 3 ≤ count then .stopBefore (List.replicate (count - 3) mark)
  else (resume c).after (List.replicate count mark)

/-- One step between three double quotes. -/
def blockStep : QuoteState → Char → ScanStep QuoteState
  | .plain, c => plainStep c
  | .quotes count, c => quotesStep '"' plainStep .quotes count c
  | .escape, c =>
    if isSpace c then .next .joining []
    else if c = '\n' then .next .joined []
    else if c = '\r' then .next (.lineEnd true) []
    else escapeStep c
  | .code digits value, c => codeStep digits value c
  | .joining, c =>
    if isSpace c then .next .joining []
    else if c = '\n' then .next .joined []
    else if c = '\r' then .next (.lineEnd true) []
    else .fail
  | .joined, c =>
    if isSpace c || c = '\n' then .next .joined []
    else if c = '\r' then .next (.lineEnd true) []
    else plainStep c
  | .lineEnd true, c => if c = '\n' then .next .joined [] else .fail
  | .lineEnd false, c => if c = '\n' then .next .plain ['\r', '\n'] else .fail

/-- The quotes in front of the closing ones, where the text ends. -/
def blockEnd : QuoteState → Option (List Char)
  | .quotes count => if 3 ≤ count then some (List.replicate (count - 3) '"') else none
  | _ => none

/-- Where a scanner between single quotes stands. -/
inductive LiteralState where
  | plain
  | quotes (count : Nat)
  | lineEnd

/-- The single quote. -/
def singleQuote : Char :=
  '\x27'

/-- One step between single quotes on one line. -/
def literalLineStep (_ : LiteralState) (c : Char) : ScanStep LiteralState :=
  if c = singleQuote then .stopBehind []
  else if isPlain c then .next .plain [c] else .fail

/-- One step between three single quotes, behind nothing that waits. -/
def literalPlainStep (c : Char) : ScanStep LiteralState :=
  if c = singleQuote then .next (.quotes 1) []
  else if c = '\r' then .next .lineEnd []
  else if c = '\n' || isPlain c then .next .plain [c] else .fail

/-- One step between three single quotes. -/
def literalBlockStep : LiteralState → Char → ScanStep LiteralState
  | .plain, c => literalPlainStep c
  | .quotes count, c => quotesStep singleQuote literalPlainStep .quotes count c
  | .lineEnd, c => if c = '\n' then .next .plain ['\r', '\n'] else .fail

/-- The quotes in front of the closing ones, where the text ends. -/
def literalBlockEnd : LiteralState → Option (List Char)
  | .quotes count => if 3 ≤ count then some (List.replicate (count - 3) singleQuote) else none
  | _ => none

/-- The text without a line end at its start. -/
def dropFirstLineEnd : List Char → List Char
  | '\n' :: rest => rest
  | '\r' :: '\n' :: rest => rest
  | rest => rest

/-- Reads a text quoted on one line. -/
def quotedLine? : List Char → Option (List Char × List Char)
  | [] => none
  | c :: rest =>
    if c = '"' then scan lineStep (fun _ => none) .plain rest
    else if c = singleQuote then scan literalLineStep (fun _ => none) .plain rest
    else none

/-- Reads a text quoted in any of the four ways. -/
def quoted? : List Char → Option (List Char × List Char)
  | c :: d :: e :: rest =>
    if c = d && d = e && c = '"' then scan blockStep blockEnd .plain (dropFirstLineEnd rest)
    else if c = d && d = e && c = singleQuote then
      scan literalBlockStep literalBlockEnd .plain (dropFirstLineEnd rest)
    else quotedLine? (c :: d :: e :: rest)
  | text => quotedLine? text

end CommandGrammar.Toml
