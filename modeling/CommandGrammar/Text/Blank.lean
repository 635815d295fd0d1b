import CommandGrammar.Text.Ranges

/-!
# Blanks

A blank is a character with the Unicode property `White_Space`. Texts are trimmed of blanks, and a
reader stops at the first blank, by this one class; the plain space that separates two tokens of a
command line is a narrower notion and is never decided here.
-/

set_option autoImplicit false

namespace CommandGrammar.Text

/-- The property `White_Space`, as inclusive ranges of code points. -/
def blankRanges : List (Nat × Nat) :=
  [(0x9, 0xD), (0x20, 0x20), (0x85, 0x85), (0xA0, 0xA0), (0x1680, 0x1680), (0x2000, 0x200A),
    (0x2028, 0x2029), (0x202F, 0x202F), (0x205F, 0x205F), (0x3000, 0x3000)]

/-- Whether the character is white space. -/
def isBlank (c : Char) : Bool :=
  inRanges blankRanges c

/-- The plain space is a blank. -/
theorem isBlank_space : isBlank ' ' = true := by decide

/-- The text without the blanks it starts with. -/
def trimStart (text : List Char) : List Char :=
  text.dropWhile isBlank

/-- The text without its longest ending in the class. -/
def dropEndWhile (drop : Char → Bool) (text : List Char) : List Char :=
  (text.reverse.dropWhile drop).reverse

/-- The text without the blanks it ends with. -/
def trimEnd (text : List Char) : List Char :=
  dropEndWhile isBlank text

/-- The text without the blanks around it. -/
def trim (text : List Char) : List Char :=
  trimEnd (trimStart text)

/-- Blanks in front of a text are trimmed with those it starts with. -/
theorem trimStart_append {lead : List Char} (blank : ∀ c ∈ lead, isBlank c = true)
    (text : List Char) : trimStart (lead ++ text) = trimStart text :=
  List.dropWhile_append_of_pos blank

/-- An ending in the class is dropped with the one in front of it. -/
theorem dropEndWhile_append {drop : Char → Bool} {trail : List Char}
    (dropped : ∀ c ∈ trail, drop c = true) (text : List Char) :
    dropEndWhile drop (text ++ trail) = dropEndWhile drop text := by
  rw [dropEndWhile, List.reverse_append, List.dropWhile_append_of_pos, ← dropEndWhile]
  exact fun c member => dropped c (List.mem_reverse.mp member)

/-- A first character outside of the class stays. -/
theorem dropEndWhile_cons {drop : Char → Bool} {c : Char} (kept : drop c = false) (text : List Char) :
    dropEndWhile drop (c :: text) = c :: dropEndWhile drop text := by
  have single : [c].dropWhile drop = [c] := List.dropWhile_cons_of_neg (Bool.not_eq_true _ ▸ kept)
  simp only [dropEndWhile, List.reverse_cons, List.dropWhile_append, single]
  cases text.reverse.dropWhile drop <;> simp

/-- What was dropped are characters of the class. -/
theorem exists_of_dropEndWhile (drop : Char → Bool) (text : List Char) :
    ∃ dropped, text = dropEndWhile drop text ++ dropped ∧ ∀ c ∈ dropped, drop c = true := by
  refine ⟨(text.reverse.takeWhile drop).reverse, ?_, fun c member => ?_⟩
  · rw [dropEndWhile, ← List.reverse_append, List.takeWhile_append_dropWhile, List.reverse_reverse]
  · exact List.all_eq_true.mp List.all_takeWhile c (List.mem_reverse.mp member)

/-- What is left ends with a character outside of the class, unless nothing is left. -/
theorem dropEndWhile_cases (drop : Char → Bool) (text : List Char) :
    dropEndWhile drop text = [] ∨
      ∃ front c, drop c = false ∧ dropEndWhile drop text = front ++ [c] := by
  have kept := List.head?_dropWhile_not drop text.reverse
  unfold dropEndWhile
  cases left : text.reverse.dropWhile drop with
  | nil => exact .inl rfl
  | cons c front =>
    rw [left] at kept
    exact .inr ⟨front.reverse, c, kept, List.reverse_cons⟩

/-- To drop some of the blanks at the end first makes no difference to a trimmed text. -/
theorem trimEnd_dropEndWhile {drop : Char → Bool} (blank : ∀ c, drop c = true → isBlank c = true)
    (text : List Char) : trimEnd (dropEndWhile drop text) = trimEnd text := by
  obtain ⟨dropped, parts, all⟩ := exists_of_dropEndWhile drop text
  conv => rhs; rw [parts]
  exact (dropEndWhile_append (fun c member => blank c (all c member)) _).symm

/-- Blanks behind a text stay behind what is left of it, unless nothing is. -/
theorem trimStart_append_blank {trail : List Char} (blank : ∀ c ∈ trail, isBlank c = true)
    (text : List Char) : trimStart (text ++ trail) =
      if trimStart text = [] then [] else trimStart text ++ trail := by
  have none_ : trimStart trail = [] := List.append_nil trail ▸ trimStart_append blank []
  unfold trimStart at none_ ⊢
  rw [List.dropWhile_append, none_]
  simp only [List.isEmpty_iff]

/-- Blanks behind a text are trimmed with those it ends with. -/
theorem trim_append {trail : List Char} (blank : ∀ c ∈ trail, isBlank c = true) (text : List Char) :
    trim (text ++ trail) = trim text := by
  unfold trim
  rw [trimStart_append_blank blank]
  split
  next none_ => rw [none_]
  next => exact dropEndWhile_append blank _

end CommandGrammar.Text
