/-!
# Scanning machines

A scanner reads a text one character at a time with a state. At each character it goes on with a new
state, or stops behind the character, or stops in front of it, or fails; and it puts out any number
of characters on the way. Where the text ends, the state tells whether that is an end.
-/

set_option autoImplicit false

namespace CommandGrammar.Toml

/-- What a scanner does at a character. -/
inductive ScanStep (σ : Type) where
  | next (state : σ) (output : List Char)
  | stopBehind (output : List Char)
  | stopBefore (output : List Char)
  | fail

/-- Reads with a scanner: what it put out, and the text behind the place where it stopped. -/
def scan {σ : Type} (step : σ → Char → ScanStep σ) (atEnd : σ → Option (List Char)) (state : σ) :
    List Char → Option (List Char × List Char)
  | [] => (atEnd state).map fun output => (output, [])
  | c :: rest =>
    match step state c with
    | .next state output =>
      (scan step atEnd state rest).map fun scanned => (output ++ scanned.1, scanned.2)
    | .stopBehind output => some (output, rest)
    | .stopBefore output => some (output, c :: rest)
    | .fail => none

/-- A plain character: a tab, or any character that is not a control character. -/
def isPlain (c : Char) : Bool :=
  c = '\t' || 0x20 ≤ c.toNat && c.toNat ≠ 0x7F

/-- A blank inside a line. -/
def isSpace (c : Char) : Bool :=
  c = ' ' || c = '\t'

/-- The text without the blanks it starts with. -/
def skipSpaces (text : List Char) : List Char :=
  text.dropWhile isSpace

/-- Where a scanner of gaps stands. -/
inductive GapState where
  | between
  | comment
  | lineEnd

/-- One step through a gap. -/
def gapStep : GapState → Char → ScanStep GapState
  | .lineEnd, c => if c = '\n' then .next .between [] else .fail
  | .comment, c =>
    if c = '\n' then .next .between []
    else if c = '\r' then .next .lineEnd []
    else if isPlain c then .next .comment [] else .fail
  | .between, c =>
    if isSpace c || c = '\n' then .next .between []
    else if c = '\r' then .next .lineEnd []
    else if c = '#' then .next .comment [] else .stopBefore []

/-- Skips blanks, line ends and comments. -/
def skipGap? (text : List Char) : Option (List Char) :=
  let atEnd : GapState → Option (List Char)
    | .lineEnd => none
    | _ => some []
  (scan gapStep atEnd .between text).map Prod.snd

/-- Skips a comment, if there is one, and the end of the line, or finds the end of the text. -/
def skipLineEnd? (text : List Char) : Option (List Char) :=
  let rest :=
    match text with
    | '#' :: comment => comment.dropWhile isPlain
    | _ => text
  match rest with
  | [] => some []
  | '\n' :: rest => some rest
  | '\r' :: '\n' :: rest => some rest
  | _ => none

end CommandGrammar.Toml
