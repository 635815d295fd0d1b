import CommandGrammar.Text.Blank

/-!
# Pieces of a text

`pieces` cuts a text at every separator and keeps empty pieces; `words` keeps the pieces between
blanks that are not empty. What is said of words follows from one equation: a blank parts the words
before it from those behind it.
-/

set_option autoImplicit false

namespace CommandGrammar.Text

/-- The piece before the first separator, and the pieces after it. -/
def pieces (separates : Char → Bool) : List Char → List Char × List (List Char)
  | [] => ([], [])
  | c :: rest =>
    let (first, others) := pieces separates rest
    if separates c then ([], first :: others) else (c :: first, others)

/-- All pieces, the first one included; there is always at least one. -/
def splitOn (separates : Char → Bool) (text : List Char) : List (List Char) :=
  let (first, others) := pieces separates text
  first :: others

theorem splitOn_eq (separates : Char → Bool) (text : List Char) :
    splitOn separates text = (pieces separates text).1 :: (pieces separates text).2 := rfl

/-- The longest runs of characters that are not blanks, in order. -/
def words (text : List Char) : List (List Char) :=
  (splitOn isBlank text).filter fun piece => !piece.isEmpty

/-- The text is one token: it is not empty, and there is no blank in it. -/
def IsToken (text : List Char) : Prop :=
  text ≠ [] ∧ ∀ c ∈ text, isBlank c = false

instance : DecidablePred IsToken :=
  fun text => decidable_of_iff (text ≠ [] ∧ text.all (!isBlank ·) = true) <| by
    simp only [IsToken, List.all_eq_true, Bool.not_eq_true']

/-- A text is cut at a separator: the pieces before it, and then the pieces behind it. -/
theorem splitOn_append_cons {separates : Char → Bool} {c : Char} (separator : separates c = true)
    (before after : List Char) :
    splitOn separates (before ++ c :: after) =
      splitOn separates before ++ splitOn separates after := by
  induction before with
  | nil => simp [splitOn, pieces, separator]
  | cons d before ih =>
    simp only [splitOn, List.cons_append, List.cons.injEq] at ih ⊢
    by_cases here : separates d = true
    · simp [pieces, here, ih]
    · simp [pieces, here, ih]

/-- Characters that do not separate belong to the first piece of what they stand in front of. -/
theorem pieces_append_of_none {separates : Char → Bool} {front : List Char}
    (none_ : ∀ c ∈ front, separates c = false) (text : List Char) :
    pieces separates (front ++ text) =
      (front ++ (pieces separates text).1, (pieces separates text).2) := by
  induction front with
  | nil => rfl
  | cons c front ih =>
    obtain ⟨here, behind⟩ := List.forall_mem_cons.mp none_
    simp [pieces, here, ih behind]

/-- A text without a separator is one piece. -/
theorem splitOn_of_none {separates : Char → Bool} {text : List Char}
    (none_ : ∀ c ∈ text, separates c = false) : splitOn separates text = [text] := by
  induction text with
  | nil => rfl
  | cons c rest ih =>
    obtain ⟨here, behind⟩ := List.forall_mem_cons.mp none_
    have pieces_ : pieces separates rest = (rest, []) := by
      simpa [splitOn, Prod.ext_iff] using ih behind
    simp [splitOn, pieces, here, pieces_]

/-- A blank parts the words before it from the words behind it. -/
theorem words_append_cons {c : Char} (blank : isBlank c = true) (before after : List Char) :
    words (before ++ c :: after) = words before ++ words after := by
  simp [words, splitOn_append_cons blank]

/-- A blank in front is no part of a word. -/
theorem words_cons {c : Char} (blank : isBlank c = true) (text : List Char) :
    words (c :: text) = words text := by
  simpa [words, splitOn, pieces] using words_append_cons blank [] text

/-- A token is one word. -/
theorem words_of_isToken {token : List Char} (isToken : IsToken token) : words token = [token] := by
  simp [words, splitOn_of_none isToken.2, isToken.1]

/-- What stands after the last separator. -/
def lastPiece (separates : Char → Bool) (text : List Char) : List Char :=
  (pieces separates text).2.getLastD (pieces separates text).1

/-- It is the last of the pieces. -/
theorem getLast?_splitOn (separates : Char → Bool) (text : List Char) :
    (splitOn separates text).getLast? = some (lastPiece separates text) := by
  rw [splitOn_eq, List.getLast?_cons, lastPiece, List.getLastD_eq_getLast?]

/-- It stands behind every separator. -/
theorem lastPiece_append_cons {separates : Char → Bool} {c : Char} (separator : separates c = true)
    (before after : List Char) :
    lastPiece separates (before ++ c :: after) = lastPiece separates after := by
  apply Option.some.inj
  rw [← getLast?_splitOn, splitOn_append_cons separator, List.getLast?_append, getLast?_splitOn]
  rfl

/-- Without a separator it is the whole text. -/
theorem lastPiece_of_none {separates : Char → Bool} {text : List Char}
    (none_ : ∀ c ∈ text, separates c = false) : lastPiece separates text = text := by
  apply Option.some.inj
  rw [← getLast?_splitOn, splitOn_of_none none_]
  rfl

/-- A text is what stands up to its last separator, and then its last piece. -/
theorem dropEndWhile_append_lastPiece (separates : Char → Bool) (text : List Char) :
    dropEndWhile (!separates ·) text ++ lastPiece separates text = text := by
  obtain ⟨dropped, parts, all⟩ := exists_of_dropEndWhile (!separates ·) text
  have none_ : ∀ c ∈ dropped, separates c = false := by simpa using all
  have last : lastPiece separates text = dropped := by
    rcases dropEndWhile_cases (!separates ·) text with empty | ⟨front, c, separator, ends⟩
    · rw [empty, List.nil_append] at parts
      rw [parts, lastPiece_of_none none_]
    · rw [ends, List.append_assoc, List.singleton_append] at parts
      rw [parts, lastPiece_append_cons (by simpa using separator), lastPiece_of_none none_]
  rw [last, ← parts]

/-- The pieces of a text hang on its separators alone. -/
theorem splitOn_congr {separates separates' : Char → Bool} {text : List Char}
    (same : ∀ c ∈ text, separates c = separates' c) :
    splitOn separates text = splitOn separates' text := by
  have same_pieces : pieces separates text = pieces separates' text := by
    induction text with
    | nil => rfl
    | cons c rest ih =>
      obtain ⟨here, behind⟩ := List.forall_mem_cons.mp same
      rw [pieces, pieces, here, ih behind]
  rw [splitOn_eq, splitOn_eq, same_pieces]

/-- The text before the first occurrence of a character, and the text after it. -/
def cutAt? (mark : Char) (text : List Char) : Option (List Char × List Char) :=
  match text.dropWhile (· != mark) with
  | [] => none
  | _ :: rest => some (text.takeWhile (· != mark), rest)

/-- A text that starts with the mark is cut there. -/
theorem cutAt?_cons_self (mark : Char) (text : List Char) :
    cutAt? mark (mark :: text) = some ([], text) := by
  simp [cutAt?]

/-- Another character in front belongs to the text before the mark. -/
theorem cutAt?_cons_of_ne {mark c : Char} (other : c ≠ mark) (text : List Char) :
    cutAt? mark (c :: text) = (cutAt? mark text).map fun parts => (c :: parts.1, parts.2) := by
  simp only [cutAt?, List.dropWhile_cons, List.takeWhile_cons, bne_iff_ne, ne_eq, other,
    not_false_eq_true, if_true]
  split <;> rfl

/-- A text is cut at the first mark in it. -/
theorem cutAt?_eq_some_iff {mark : Char} {text before after : List Char} :
    cutAt? mark text = some (before, after) ↔ text = before ++ mark :: after ∧ mark ∉ before := by
  induction text generalizing before with
  | nil => simp [cutAt?]
  | cons c rest ih =>
    by_cases found : c = mark
    · subst found
      rw [cutAt?_cons_self]
      cases before with
      | nil => simp
      | cons d before => simp +contextual
    · rw [cutAt?_cons_of_ne found, Option.map_eq_some_iff]
      cases before with
      | nil => simp [found]
      | cons d before =>
        constructor
        · rintro ⟨⟨_, _⟩, cut, ⟨⟩⟩
          obtain ⟨rfl, clear⟩ := ih.mp cut
          exact ⟨rfl, by simp [Ne.symm found, clear]⟩
        · rintro ⟨⟨⟩, clear⟩
          exact ⟨(before, after), ih.mpr ⟨rfl, fun member => clear (.tail _ member)⟩, rfl⟩

/-- What follows a given beginning, when the text has it. -/
def dropStart? : List Char → List Char → Option (List Char)
  | [], text => some text
  | _ :: _, [] => none
  | c :: start, d :: text => if c = d then dropStart? start text else none

/-- A text has a given beginning exactly when it is that beginning and a rest. -/
theorem dropStart?_eq_some_iff {start text rest : List Char} :
    dropStart? start text = some rest ↔ text = start ++ rest := by
  induction start generalizing text with
  | nil => simp [dropStart?]
  | cons c start ih =>
    cases text with
    | nil => simp [dropStart?]
    | cons d text =>
      by_cases h : c = d
      · simp [dropStart?, h, ih]
      · simp [dropStart?, h, Ne.symm h]

end CommandGrammar.Text
