import CommandGrammar.Composite.Flags
import Mathlib.Data.List.Forall2

/-!
# What a scan reads off the tokens of a text

A text is tokens between blanks, and its words are those tokens, however it is laid out (`Text.LaidOut`).
The two scanners ask each token for its form as a whole: a pair is a dash, an identifier, a colon and
whatever follows it, and a flag is one or two dashes and an identifier. No token has both forms, since an
identifier has no colon in it. What a scan finds is told as a relation between the tokens and the values,
taken or passed over from the front (`Text.ReadsOff`), with no mention of how the scanner takes a token
apart.
-/

set_option autoImplicit false

namespace CommandGrammar

/-- In lists that correspond every member of the first has one in the second. -/
theorem exists_of_mem_left {α β : Type} {related : α → β → Prop} {members : List α} {others : List β}
    (all : List.Forall₂ related members others) {member : α} (listed : member ∈ members) :
    ∃ other ∈ others, related member other := by
  induction all with
  | nil => cases listed
  | cons both _ ih =>
    rcases List.mem_cons.mp listed with rfl | behind
    · exact ⟨_, List.mem_cons_self, both⟩
    · obtain ⟨other, later, both⟩ := ih behind
      exact ⟨other, List.mem_cons_of_mem _ later, both⟩

/-! ## Tokens between blanks -/

namespace Text

/-- The text is these tokens in order, with any blanks before, between and after them. Two tokens are
never without a blank between them. -/
inductive LaidOut : List (List Char) → List Char → Prop where
  /-- The empty text has no token. -/
  | empty : LaidOut [] []
  /-- A blank in front changes nothing. -/
  | blank {c : Char} {tokens : List (List Char)} {text : List Char} :
      isBlank c = true → LaidOut tokens text → LaidOut tokens (c :: text)
  /-- A token stands before the end of a text, or before a blank. -/
  | token {token : List Char} {tokens : List (List Char)} {text : List Char} :
      IsToken token → (∀ c ∈ text.head?, isBlank c = true) → LaidOut tokens text →
      LaidOut (token :: tokens) (token ++ text)

/-- A token is the first word of a text that goes on with a blank, if it goes on. -/
theorem words_append_of_isToken {token text : List Char} (isToken : IsToken token)
    (boundary : ∀ c ∈ text.head?, isBlank c = true) : words (token ++ text) = token :: words text := by
  cases text with
  | nil =>
    rw [List.append_nil, words_of_isToken isToken]
    rfl
  | cons c text =>
    have blank : isBlank c = true := boundary c rfl
    rw [words_append_cons blank, words_of_isToken isToken, words_cons blank]
    rfl

/-- The words of a text are its tokens. -/
theorem LaidOut.words_eq {tokens : List (List Char)} {text : List Char}
    (laidOut : LaidOut tokens text) : words text = tokens := by
  induction laidOut with
  | empty => rfl
  | blank blank _ ih => rw [words_cons blank, ih]
  | token isToken boundary _ ih => rw [words_append_of_isToken isToken boundary, ih]

/-- Every text is tokens between blanks. -/
theorem exists_laidOut (text : List Char) : ∃ tokens, LaidOut tokens text := by
  induction text with
  | nil => exact ⟨[], .empty⟩
  | cons c rest ih =>
    obtain ⟨tokens, laidOut⟩ := ih
    by_cases blank : isBlank c = true
    · exact ⟨tokens, laidOut.blank blank⟩
    · have single : IsToken [c] := ⟨List.cons_ne_nil _ _, by simpa using blank⟩
      -- The character starts a token of its own, unless the text behind it starts with one.
      cases laidOut with
      | empty => exact ⟨[[c]], .token single (by simp) .empty⟩
      | blank next laidOut =>
        exact ⟨[c] :: tokens, .token single (by simpa using next) (laidOut.blank next)⟩
      | @token token others text isToken boundary laidOut =>
        have longer : IsToken (c :: token) :=
          ⟨List.cons_ne_nil _ _, List.forall_mem_cons.mpr ⟨by simpa using blank, isToken.2⟩⟩
        exact ⟨(c :: token) :: others, .token longer boundary laidOut⟩

/-- The words of a text are the one list of tokens that it is laid out of. -/
theorem words_eq_iff {tokens : List (List Char)} {text : List Char} :
    words text = tokens ↔ LaidOut tokens text := by
  refine ⟨?_, LaidOut.words_eq⟩
  rintro rfl
  obtain ⟨tokens, laidOut⟩ := exists_laidOut text
  rwa [laidOut.words_eq]

variable {α : Type}

/-- The values that the tokens of a form stand for, in the order of the tokens. -/
inductive ReadsOff (form : List Char → α → Prop) : List (List Char) → List α → Prop where
  | nil : ReadsOff form [] []
  /-- A token of the form gives its value. -/
  | take {token : List Char} {value : α} {tokens : List (List Char)} {values : List α} :
      form token value → ReadsOff form tokens values →
      ReadsOff form (token :: tokens) (value :: values)
  /-- A token that is not of the form gives none. -/
  | pass {token : List Char} {tokens : List (List Char)} {values : List α} :
      (∀ value, ¬ form token value) → ReadsOff form tokens values →
      ReadsOff form (token :: tokens) values

/-- A reader of single tokens reads the values off the tokens. -/
theorem readsOff_filterMap {form : List Char → α → Prop} {read : List Char → Option α}
    (reads : ∀ token value, read token = some value ↔ form token value) (tokens : List (List Char)) :
    ReadsOff form tokens (tokens.filterMap read) := by
  induction tokens with
  | nil => exact .nil
  | cons token tokens ih =>
    cases found : read token with
    | none =>
      rw [List.filterMap_cons_none found]
      refine .pass (fun value holds => ?_) ih
      exact nomatch found.symm.trans ((reads token value).mpr holds)
    | some value =>
      rw [List.filterMap_cons_some found]
      exact .take ((reads token value).mp found) ih

/-- Every value stands for a token as a whole. -/
theorem ReadsOff.exists_token {form : List Char → α → Prop} {tokens : List (List Char)}
    {values : List α} (readsOff : ReadsOff form tokens values) :
    ∀ value ∈ values, ∃ token ∈ tokens, form token value := by
  induction readsOff with
  | nil => exact fun _ member => nomatch member
  | @take token value tokens values holds _ ih =>
    intro other member
    rcases List.mem_cons.mp member with rfl | member
    · exact ⟨token, .head _, holds⟩
    · obtain ⟨token, listed, holds⟩ := ih other member
      exact ⟨token, .tail _ listed, holds⟩
  | pass _ _ ih =>
    intro value member
    obtain ⟨token, listed, holds⟩ := ih value member
    exact ⟨token, .tail _ listed, holds⟩

/-- Where every token stands for a value that no other value shares it with, these values are read off. -/
theorem ReadsOff.eq_of_forall₂ {form : List Char → α → Prop}
    (functional : ∀ token value other, form token value → form token other → value = other)
    {tokens : List (List Char)} {values found : List α} (readsOff : ReadsOff form tokens found)
    (forms : List.Forall₂ form tokens values) : found = values := by
  induction readsOff generalizing values with
  | nil =>
    cases forms
    rfl
  | take holds _ ih =>
    obtain _ | ⟨here, behind⟩ := forms
    rw [functional _ _ _ holds here, ih behind]
  | pass fails _ _ =>
    obtain _ | ⟨here, behind⟩ := forms
    exact absurd here (fails _)

end Text

open Text

/-! ## Identifiers -/

/-- The character is an ASCII letter, a digit or an underscore. -/
def IsIdentifierChar (c : Char) : Prop :=
  ('A' ≤ c ∧ c ≤ 'Z') ∨ ('a' ≤ c ∧ c ≤ 'z') ∨ ('0' ≤ c ∧ c ≤ '9') ∨ c = '_'

/-- The text is one or more of these characters. -/
def IsIdentifier (text : List Char) : Prop :=
  text ≠ [] ∧ ∀ c ∈ text, IsIdentifierChar c

/-- The characters of identifiers are told by three ranges and the underscore. -/
theorem isIdentifierChar_iff {c : Char} :
    (c.isAlphanum || c == '_') = true ↔ IsIdentifierChar c := by
  have upper : c.isUpper = true ↔ 'A' ≤ c ∧ c ≤ 'Z' := decide_eq_true_iff
  have lower : c.isLower = true ↔ 'a' ≤ c ∧ c ≤ 'z' := by
    show (decide ('a' ≤ c) && decide (c ≤ 'z')) = true ↔ _
    rw [Bool.and_eq_true, decide_eq_true_iff, decide_eq_true_iff]
  have digit : c.isDigit = true ↔ '0' ≤ c ∧ c ≤ '9' := by
    show (decide ('0' ≤ c) && decide (c ≤ '9')) = true ↔ _
    rw [Bool.and_eq_true, decide_eq_true_iff, decide_eq_true_iff]
  show ((c.isUpper || c.isLower || c.isDigit) || c == '_') = true ↔ _
  rw [Bool.or_eq_true, Bool.or_eq_true, Bool.or_eq_true, upper, lower, digit, beq_iff_eq, or_assoc,
    or_assoc]
  rfl

/-- Identifiers are told by their characters. -/
theorem isIdentifier_iff {text : List Char} : isIdentifier text = true ↔ IsIdentifier text := by
  simp only [isIdentifier, IsIdentifier, Bool.and_eq_true, Bool.not_eq_true', List.isEmpty_eq_false_iff,
    List.all_eq_true, isIdentifierChar_iff]

/-- There is no dash and no colon in an identifier. -/
theorem IsIdentifier.not_mem {word : List Char} (identifier : IsIdentifier word) {c : Char}
    (other : ¬ IsIdentifierChar c) : c ∉ word :=
  fun member => other (identifier.2 c member)

theorem not_isIdentifierChar_dash : ¬ IsIdentifierChar '-' := by
  unfold IsIdentifierChar
  decide

theorem not_isIdentifierChar_colon : ¬ IsIdentifierChar ':' := by
  unfold IsIdentifierChar
  decide

/-! ## Pairs and flags -/

/-- The token is `-key:value`, where the key is an identifier and the value is not empty. -/
structure Named.IsPair (token : List Char) (pair : List Char × List Char) : Prop where
  key : IsIdentifier pair.1
  value : pair.2 ≠ []
  token_eq : token = '-' :: (pair.1 ++ ':' :: pair.2)

/-- The token is `-word` or `--word`, where the word is an identifier. -/
def Flags.IsFlag (token : List Char) : Prop :=
  ∃ word, IsIdentifier word ∧ (token = '-' :: word ∨ token = '-' :: '-' :: word)

/-- A token is taken for a pair exactly when it is one: its value is everything behind the first colon,
colons and dashes included. -/
theorem Named.pair?_eq_some_iff {token : List Char} {pair : List Char × List Char} :
    pair? token = some pair ↔ IsPair token pair := by
  obtain ⟨key, value⟩ := pair
  simp only [pair?, Option.bind_eq_bind, Option.bind_eq_some_iff, dropStart?_eq_some_iff]
  constructor
  · rintro ⟨body, rfl, ⟨_, _⟩, cut, judged⟩
    split at judged
    next good =>
      cases judged
      obtain ⟨rfl, _⟩ := cutAt?_eq_some_iff.mp cut
      rw [Bool.and_eq_true, isIdentifier_iff, Bool.not_eq_true', List.isEmpty_eq_false_iff] at good
      exact ⟨good.1, good.2, rfl⟩
    next => cases judged
  · rintro ⟨identifier, some_, rfl⟩
    refine ⟨key ++ ':' :: value, rfl, (key, value), cutAt?_eq_some_iff.mpr ⟨rfl, ?_⟩, ?_⟩
    · exact identifier.not_mem not_isIdentifierChar_colon
    · rw [if_pos]
      rw [Bool.and_eq_true, isIdentifier_iff, Bool.not_eq_true', List.isEmpty_eq_false_iff]
      exact ⟨identifier, some_⟩

/-- A token is taken for a flag exactly when it is one. -/
theorem Flags.isFlag_iff {token : List Char} : isFlag token = true ↔ IsFlag token := by
  constructor
  · intro flag
    unfold isFlag at flag
    split at flag
    next word found =>
      refine ⟨word, isIdentifier_iff.mp flag, ?_⟩
      rcases Option.or_eq_some_iff.mp found with two | ⟨_, one⟩
      · exact .inr (dropStart?_eq_some_iff.mp two)
      · exact .inl (dropStart?_eq_some_iff.mp one)
    next => cases flag
  · rintro ⟨word, identifier, rfl | rfl⟩
    · -- One dash is not taken for the first of two: an identifier does not start with a dash.
      have one : dropStart? ['-', '-'] ('-' :: word) = none := by
        refine Option.eq_none_iff_forall_not_mem.mpr fun rest two => ?_
        have starts : word = '-' :: rest := List.cons.inj (dropStart?_eq_some_iff.mp two) |>.2
        exact identifier.not_mem not_isIdentifierChar_dash (starts ▸ List.mem_cons_self)
      have body : body? ('-' :: word) = some word := by
        rw [body?, one, Option.none_or]
        exact dropStart?_eq_some_iff.mpr rfl
      simpa only [isFlag, body] using isIdentifier_iff.mpr identifier
    · have two : dropStart? ['-', '-'] ('-' :: '-' :: word) = some word :=
        dropStart?_eq_some_iff.mpr rfl
      have body : body? ('-' :: '-' :: word) = some word := by
        rw [body?, two, Option.some_or]
      simpa only [isFlag, body] using isIdentifier_iff.mpr identifier

/-- A token is one pair at most. -/
theorem Named.IsPair.unique {token : List Char} {pair other : List Char × List Char}
    (isPair : IsPair token pair) (isPair' : IsPair token other) : pair = other :=
  Option.some.inj ((pair?_eq_some_iff.mpr isPair).symm.trans (pair?_eq_some_iff.mpr isPair'))

/-- No pair is a flag: there is a colon in it, and none in a flag. -/
theorem Named.IsPair.not_isFlag {token : List Char} {pair : List Char × List Char}
    (isPair : IsPair token pair) : ¬ Flags.IsFlag token := by
  rintro ⟨word, identifier, shape⟩
  have colon : ':' ∈ token := by simp [isPair.token_eq]
  have inside : ':' ∈ word := by
    rcases shape with rfl | rfl
    · simpa using colon
    · simpa using colon
  exact identifier.not_mem not_isIdentifierChar_colon inside

/-- The token that a pair is written as. -/
def Named.pairText (pair : List Char × List Char) : List Char :=
  '-' :: (pair.1 ++ ':' :: pair.2)

/-- Whatever blanks a text has between its tokens, the scanners read its pairs and its flags off the tokens
in order. Each of them is a token as a whole, and no token is both; so a text of pairs that are written out
gives back these pairs. -/
theorem tokens_read_as_wholes {tokens : List (List Char)} {text : List Char}
    (laidOut : LaidOut tokens text) :
    ReadsOff Named.IsPair tokens (Named.scan text) ∧
      ReadsOff (fun token flag => flag = token ∧ Flags.IsFlag token) tokens (Flags.scan text) ∧
      (∀ token ∈ tokens, ∀ pair, ¬ (Named.IsPair token pair ∧ Flags.IsFlag token)) ∧
      (∀ pair ∈ Named.scan text, Named.pairText pair ∈ tokens) ∧
      (∀ flag ∈ Flags.scan text, flag ∈ tokens) ∧
      ∀ pairs : List (List Char × List Char),
        (∀ pair ∈ pairs, IsIdentifier pair.1 ∧ IsToken pair.2) → tokens = pairs.map Named.pairText →
        Named.scan text = pairs := by
  have pairs_ : ReadsOff Named.IsPair tokens (Named.scan text) := by
    rw [Named.scan, laidOut.words_eq]
    exact readsOff_filterMap (fun _ _ => Named.pair?_eq_some_iff) tokens
  have flags : ReadsOff (fun token flag => flag = token ∧ Flags.IsFlag token) tokens
      (Flags.scan text) := by
    rw [Flags.scan, laidOut.words_eq, ← List.filterMap_eq_filter]
    refine readsOff_filterMap (fun token flag => ?_) tokens
    rw [Option.guard_eq_some_iff, Flags.isFlag_iff, eq_comm]
  refine ⟨pairs_, flags, fun _ _ _ both => both.1.not_isFlag both.2, ?_, ?_, ?_⟩
  · intro pair member
    obtain ⟨token, listed, isPair⟩ := pairs_.exists_token pair member
    rwa [isPair.token_eq] at listed
  · intro flag member
    obtain ⟨token, listed, rfl, _⟩ := flags.exists_token flag member
    exact listed
  · rintro pairs good rfl
    refine pairs_.eq_of_forall₂ (fun _ _ _ isPair => isPair.unique) ?_
    rw [List.forall₂_map_left_iff, List.forall₂_same]
    exact fun pair member => ⟨(good pair member).1, (good pair member).2.1, rfl⟩

/-- Tabs, an ideographic space and a line break part the tokens of a text as spaces do. A value keeps the
colons and dashes in it, and a comma spoils a flag. Two pairs that are written out are given back. -/
theorem tokens_read_as_wholes_mixed :
    let tokens := ["-amount:5", "--silent", "-f,", "-a:b:-c", "-x"].map String.toList
    let text := "\t-amount:5 \t --silent\u3000-f,\n-a:b:-c -x ".toList
    let pairs := [("radius".toList, "--1:2".toList), ("radius".toList, "3".toList)]
    let written := " -radius:--1:2\t-radius:3\n".toList
    LaidOut tokens text ∧ ReadsOff Named.IsPair tokens (Named.scan text) ∧
      ReadsOff (fun token flag => flag = token ∧ Flags.IsFlag token) tokens (Flags.scan text) ∧
      Named.scan text = [("amount".toList, "5".toList), ("a".toList, "b:-c".toList)] ∧
      Flags.scan text = ["--silent".toList, "-x".toList] ∧
      LaidOut (pairs.map Named.pairText) written ∧ Named.scan written = pairs := by
  intro tokens text pairs written
  have laidOut : LaidOut tokens text := words_eq_iff.mp (by decide)
  have laidOut' : LaidOut (pairs.map Named.pairText) written := words_eq_iff.mp (by decide)
  obtain ⟨pairs_, flags, _⟩ := tokens_read_as_wholes laidOut
  obtain ⟨_, _, _, _, _, givenBack⟩ := tokens_read_as_wholes laidOut'
  refine ⟨laidOut, pairs_, flags, by decide, by decide, laidOut', givenBack pairs ?_ rfl⟩
  intro pair member
  rw [← isIdentifier_iff]
  revert pair
  decide

end CommandGrammar
