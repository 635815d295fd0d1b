import CommandGrammar.Decimal.Binary64
import CommandGrammar.Toml.Quoted
import CommandGrammar.Toml.Value

/-!
# Scalars without quotes in TOML

Truth values, integers in four bases, floats, and dates and times. Each reader takes a whole word
and either knows it or does not. Underscores may stand between two digits; a decimal number starts
with a zero only when that is its whole integral part. A number with more digits than can be
represented, a base without digits, and digits that run into other characters behind an underscore
are known but cannot be read.
-/

set_option autoImplicit false

namespace CommandGrammar.Toml

open Decimal (Numeral infinityBits ofDigits takeSign)
open Text (hexValue?)

/-- The digits of a number without the underscores between them; an underscore anywhere else, or no
digit at all, is an error. -/
def digits? (isDigit : Char → Bool) : List Char → Option (List Char)
  | [] => none
  | [c] => if isDigit c then some [c] else none
  | c :: '_' :: rest => if isDigit c then (digits? isDigit rest).map (c :: ·) else none
  | c :: rest => if isDigit c then (digits? isDigit rest).map (c :: ·) else none

/-- The digits of a decimal number without a needless zero in front. -/
def decimalDigits? (text : List Char) : Option (List Char) :=
  match digits? Char.isDigit text with
  | some ('0' :: _ :: _) => none
  | found => found

/-- The number that digits of a base stand for. -/
def ofBase (base : Nat) (digits : List Char) : Nat :=
  digits.foldl (fun value c => base * value + (hexValue? c).getD 0) 0

/-- The number of digits of a base. -/
def basedInteger? (base : Nat) (text : List Char) : Option Int :=
  let isDigit (c : Char) : Bool :=
    match hexValue? c with
    | some value => value < base
    | none => false
  (digits? isDigit text).map fun digits => (ofBase base digits : Int)

/-- Whether an integer can be represented at all, in 128 bits with a sign or without. -/
def isRepresentable (value : Int) : Bool :=
  -Int.pow 2 127 ≤ value && value < Int.pow 2 128

/-- Reads an integer. -/
def integer? (word : List Char) : Option Int :=
  match word with
  | '0' :: 'x' :: digits => basedInteger? 16 digits
  | '0' :: 'o' :: digits => basedInteger? 8 digits
  | '0' :: 'b' :: digits => basedInteger? 2 digits
  | _ =>
    let (negative, unsigned) := takeSign word
    (decimalDigits? unsigned).map fun digits =>
      if negative then -(ofDigits digits : Int) else (ofDigits digits : Int)

/-- The signs of a base. -/
def baseSigns : List (List Char) :=
  [['0', 'x'], ['0', 'o'], ['0', 'b']]

/-- Whether each underscore stands between two hexadecimal digits; `digit` tells of the character in
front of the text. -/
def underscoresDivide (digit : Bool) : List Char → Bool
  | [] => true
  | '_' :: c :: rest => digit && (hexValue? c).isSome && underscoresDivide true rest
  | c :: rest => c != '_' && underscoresDivide (hexValue? c).isSome rest

/-- Whether a word starts like an integer with underscores and then goes on in whatever way, but not
like a float. -/
def runsOn (word : List Char) : Bool :=
  let unsigned := (takeSign word).2
  let behind := unsigned.dropWhile Char.isDigit
  (decimalDigits? (unsigned.takeWhile Char.isDigit)).isSome && unsigned.head? != some '0'
    && behind.head? = some '_' && !behind.any (['.', 'e', 'E'].contains ·)
    && underscoresDivide true behind

/-- Whether a text is the exponent of a float: a mark, an optional sign, and digits. -/
def isExponent : List Char → Bool
  | [] => false
  | mark :: rest =>
    (mark = 'e' || mark = 'E') && (digits? Char.isDigit (takeSign rest).2).isSome

/-- Whether a character belongs to the digits of a number. -/
def isDigitOrUnderscore (c : Char) : Bool :=
  c.isDigit || c = '_'

/-- Whether a text without a sign has the form of a float: digits, and behind them a fraction, an
exponent or both. -/
def isDecimalFloat (unsigned : List Char) : Bool :=
  (decimalDigits? (unsigned.takeWhile isDigitOrUnderscore)).isSome
    && (match unsigned.dropWhile isDigitOrUnderscore with
        | '.' :: rest =>
          (digits? Char.isDigit (rest.takeWhile isDigitOrUnderscore)).isSome
            && (let rest := rest.dropWhile isDigitOrUnderscore
                rest.isEmpty || isExponent rest)
        | rest => isExponent rest)

/-- Whether a decimal number is finite as a float. -/
def isFinite (unsigned : List Char) : Bool :=
  match Numeral.readUnsigned? false (unsigned.filter (· != '_')) with
  | some numeral => numeral.magnitudeBits < infinityBits
  | none => false

/-- Reads a float: infinity or no number by their names, or a decimal number. -/
def float? (word : List Char) : Option Value :=
  let unsigned := (takeSign word).2
  if unsigned = ['i', 'n', 'f'] || unsigned = ['n', 'a', 'n'] then
    some (.float (String.ofList word))
  else if !isDecimalFloat unsigned then none
  else if isFinite unsigned then some (.float (String.ofList word))
  else some (.unreadable (String.ofList word))

/-! ## Dates and times -/

/-- Takes a number of exactly so many digits. -/
def takeDigits? (count : Nat) (text : List Char) : Option (Nat × List Char) :=
  let digits := text.take count
  if digits.length = count && digits.all Char.isDigit then
    some (ofDigits digits, text.drop count)
  else none

/-- Takes a given character. -/
def takeChar? (c : Char) : List Char → Option (List Char)
  | [] => none
  | d :: rest => if c = d then some rest else none

/-- The number of days in a month. -/
def daysIn (year month : Nat) : Nat :=
  if month = 2 then
    if year % 4 = 0 && (year % 100 ≠ 0 || year % 400 = 0) then 29 else 28
  else if month = 4 || month = 6 || month = 9 || month = 11 then 30
  else 31

/-- Takes a date. -/
def takeDate? (text : List Char) : Option (List Char) := do
  let (year, text) ← takeDigits? 4 text
  let (month, text) ← takeDigits? 2 (← takeChar? '-' text)
  let (day, text) ← takeDigits? 2 (← takeChar? '-' text)
  if 1 ≤ month && month ≤ 12 && 1 ≤ day && day ≤ daysIn year month then some text else none

/-- Takes the fraction of a second, if there is one. -/
def takeFraction? : List Char → Option (List Char)
  | '.' :: rest =>
    if (rest.takeWhile Char.isDigit).isEmpty then none else some (rest.dropWhile Char.isDigit)
  | rest => some rest

/-- Takes a time of day; the seconds may be left out. -/
def takeTime? (text : List Char) : Option (List Char) := do
  let (hour, text) ← takeDigits? 2 text
  let (minute, text) ← takeDigits? 2 (← takeChar? ':' text)
  if 23 < hour || 59 < minute then none
  else
    match text with
    | ':' :: text =>
      let (second, text) ← takeDigits? 2 text
      if 60 < second then none else takeFraction? text
    | _ => some text

/-- Whether a text is the offset of a time from universal time, or nothing. -/
def isOffset : List Char → Bool
  | [] => true
  | [c] => c = 'Z' || c = 'z'
  | sign :: text =>
    (sign = '+' || sign = '-')
      && (match takeDigits? 2 text with
          | some (hour, ':' :: text) =>
            (match takeDigits? 2 text with
             | some (minute, []) => hour ≤ 23 && minute ≤ 59
             | _ => false)
          | _ => false)

/-- Whether a word is a date, a time, or both with an optional offset. -/
def isMoment (word : List Char) : Bool :=
  match takeDate? word with
  | some [] => true
  | some (mark :: rest) =>
    (mark = 'T' || mark = 't' || mark = ' ')
      && (match takeTime? rest with
          | some rest => isOffset rest
          | none => false)
  | none => takeTime? word = some []

/-- Reads a word as the scalar that it is. -/
def scalar? (word : List Char) : Option Value :=
  if word = ['t', 'r', 'u', 'e'] then some (.boolean true)
  else if word = ['f', 'a', 'l', 's', 'e'] then some (.boolean false)
  else
    match integer? word with
    | some value =>
      if isRepresentable value then some (.integer value)
      else some (.unreadable (String.ofList word))
    | none =>
      if baseSigns.contains word || runsOn word then some (.unreadable (String.ofList word))
      else if isMoment word then some (.moment (String.ofList word))
      else float? word

/-- The characters of words: all but blanks, line ends and the signs with a meaning of their own. -/
def isWordChar (c : Char) : Bool :=
  !isSpace c && !(['\r', '\n', '=', ',', '[', ']', '{', '}', '#'].contains c)

/-- Whether a word goes on behind tabs. -/
def goesOn (text : List Char) : Bool :=
  match text.dropWhile (· = '\t') with
  | [] => false
  | c :: _ => isWordChar c && !(['.', '"', singleQuote].contains c)

/-- Takes a word, which may have tabs in it. -/
def takeWord : List Char → List Char × List Char
  | [] => ([], [])
  | c :: rest =>
    if isWordChar c || c = '\t' && goesOn rest then
      let (word, behind) := takeWord rest
      (c :: word, behind)
    else ([], c :: rest)

/-- Takes the word of a scalar, and with a date also the time behind one space. -/
def takeScalarWord (text : List Char) : List Char × List Char :=
  let (word, rest) := takeWord text
  match rest with
  | ' ' :: c :: behind =>
    if takeDate? word = some [] && c.isDigit then
      let (time, behind) := takeWord (c :: behind)
      (word ++ ' ' :: time, behind)
    else (word, rest)
  | _ => (word, rest)

/-- Reads a scalar without quotes. -/
def takeScalar? (text : List Char) : Option (Value × List Char) :=
  let (word, rest) := takeScalarWord text
  (scalar? word).map fun value => (value, rest)

end CommandGrammar.Toml
