/-!
# Byte offsets

Positions in a command line count the bytes of its UTF-8 encoding. A line is a list of characters
here, `byteLength` gives its length in bytes, and `dropBytes?` reads the text from an offset on,
refusing an offset that lies inside a character or beyond the end. `takeBytes?` and `slice?` refuse in
the same way. `splitAtByte` never refuses: it stops before the first character that does not fit.
-/

set_option autoImplicit false

namespace CommandGrammar.Text

/-- The length of the UTF-8 encoding of the text. -/
def byteLength : List Char → Nat
  | [] => 0
  | c :: rest => c.utf8Size + byteLength rest

@[simp] theorem byteLength_nil : byteLength [] = 0 := rfl

@[simp] theorem byteLength_cons (c : Char) (rest : List Char) :
    byteLength (c :: rest) = c.utf8Size + byteLength rest := rfl

@[simp] theorem byteLength_append (first second : List Char) :
    byteLength (first ++ second) = byteLength first + byteLength second := by
  induction first with
  | nil => simp
  | cons c rest ih => simp [ih, Nat.add_assoc]

/-- A text without bytes is empty. -/
theorem eq_nil_of_byteLength {text : List Char} (none_ : byteLength text = 0) : text = [] := by
  cases text with
  | nil => rfl
  | cons c rest =>
    rw [byteLength_cons] at none_
    exact absurd (Nat.eq_zero_of_add_eq_zero_right none_) (Nat.ne_of_gt c.utf8Size_pos)

/-- Any other text has some. -/
theorem byteLength_pos {text : List Char} (some_ : text ≠ []) : 0 < byteLength text :=
  Nat.pos_of_ne_zero fun none_ => some_ (eq_nil_of_byteLength none_)

/-- The text from a byte offset on, when the offset lies between two characters or at an end. -/
def dropBytes? : List Char → Nat → Option (List Char)
  | text, 0 => some text
  | [], _ + 1 => none
  | c :: rest, offset + 1 =>
    if c.utf8Size ≤ offset + 1 then dropBytes? rest (offset + 1 - c.utf8Size) else none

/-- The beginning of the text of so many bytes, when it ends between two characters or at an end. -/
def takeBytes? : List Char → Nat → Option (List Char)
  | _, 0 => some []
  | [], _ + 1 => none
  | c :: rest, length + 1 =>
    if c.utf8Size ≤ length + 1 then (takeBytes? rest (length + 1 - c.utf8Size)).map (c :: ·) else none

/-- The part of the text from one offset to another, when it can be cut at both. -/
def slice? (text : List Char) (start stop : Nat) : Option (List Char) :=
  if start ≤ stop then (dropBytes? text start).bind (takeBytes? · (stop - start)) else none

/-- The characters of the text with the offsets at which they start, counted from the given one on. -/
def charOffsets : Nat → List Char → List (Nat × Char)
  | _, [] => []
  | offset, c :: rest => (offset, c) :: charOffsets (offset + c.utf8Size) rest

/-- The longest beginning of at most `offset` bytes, and what follows it. -/
def splitAtByte (offset : Nat) : List Char → List Char × List Char
  | [] => ([], [])
  | c :: rest =>
    if c.utf8Size ≤ offset then
      let (before, after) := splitAtByte (offset - c.utf8Size) rest
      (c :: before, after)
    else ([], c :: rest)

/-- Cutting a text loses nothing. -/
theorem splitAtByte_append (offset : Nat) (text : List Char) :
    (splitAtByte offset text).1 ++ (splitAtByte offset text).2 = text := by
  induction text generalizing offset with
  | nil => rfl
  | cons c rest ih =>
    unfold splitAtByte
    split
    · simp [ih]
    · rfl

end CommandGrammar.Text
