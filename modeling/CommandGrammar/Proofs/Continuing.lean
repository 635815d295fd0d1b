import CommandGrammar.Completion.Matching
import Mathlib.Data.List.Basic
import Mathlib.Data.List.TakeWhile

/-!
# What typing more does to the candidates

A candidate continues a text when the lower case of the text begins that of the candidate. Longer texts
have fewer candidates as long as the lower case of a text begins that of every longer one, and that is up
to the capital sigma: the one at the end of a word has a form of its own, and what is typed behind it may
show that the word goes on. Every other character keeps its form.

So typing more brings a candidate back exactly where a text ends with the sigma of a word
(`Text.EndsInSigma`) and is continued by a letter (`Completion.typing_more_iff`). Between the two there may
be characters that are ignored where words are told apart, such as apostrophes and full stops.
-/

set_option autoImplicit false

namespace CommandGrammar

namespace Text

/-! ## A text between two others -/

/-- The form of a character between the text before it, in reverse, and the text after it. -/
def formBetween (before : List Char) (c : Char) (after : List Char) : List Char :=
  if c = 'Σ' then
    if nextIsCased before && !nextIsCased after then ['ς'] else ['σ']
  else lowerChar c

/-- The lower case of a text between the text before it, in reverse, and the text after it. -/
def lowerBetween (before : List Char) : List Char → List Char → List Char
  | [], _ => []
  | c :: rest, after =>
    formBetween before c (rest ++ after) ++ lowerBetween (c :: before) rest after

/-- Every character of the text is ignored where words are told apart. -/
def IsIgnorable (text : List Char) : Prop :=
  ∀ c ∈ text, inRanges caseIgnorableRanges c = true

section Between

variable (before before' text after after' : List Char) (c : Char)

theorem lowerAfter_cons : lowerAfter before (c :: text) =
    formBetween before c text ++ lowerAfter (c :: before) text := rfl

/-- Two texts are lowered one after the other, each next to the other one. -/
theorem lowerAfter_append : lowerAfter before (text ++ after) =
    lowerBetween before text after ++ lowerAfter (text.reverse ++ before) after := by
  induction text generalizing before with
  | nil => rfl
  | cons c rest ih =>
    rw [List.cons_append, lowerAfter_cons, ih, lowerBetween, List.reverse_cons]
    simp

/-- A text on its own has nothing after it. -/
theorem lowercase_eq_lowerBetween : lowercase text = lowerBetween [] text [] := by
  have alone := lowerAfter_append [] text []
  rwa [List.append_nil, lowerAfter, List.append_nil] at alone

/-- The two forms of a sigma are of one length. -/
theorem length_formBetween :
    (formBetween before c after).length = (formBetween before' c after').length := by
  unfold formBetween
  split
  · split <;> split <;> rfl
  · rfl

/-- So the length of a lowered text does not depend on its place. -/
theorem length_lowerBetween :
    (lowerBetween before text after).length = (lowerBetween before' text after').length := by
  induction text generalizing before before' with
  | nil => rfl
  | cons c rest ih =>
    rw [lowerBetween, lowerBetween, List.length_append, List.length_append,
      length_formBetween before before' (rest ++ after) (rest ++ after') c,
      ih (c :: before) (c :: before')]

end Between

/-! ## The sigma at the end of a word -/

/-- The text, standing behind `before` (in reverse), ends with the sigma of a word: there is a letter before
the sigma, and nothing but ignored characters behind it. -/
def EndsInSigmaBehind (before text : List Char) : Prop :=
  ∃ word ignored, text = word ++ 'Σ' :: ignored ∧ nextIsCased (word.reverse ++ before) = true ∧
    IsIgnorable ignored

/-- The text ends with the capital sigma of a word, ignored characters aside. -/
def EndsInSigma (text : List Char) : Prop :=
  EndsInSigmaBehind [] text

section Sigma

variable {before text after : List Char} {c : Char}

theorem not_endsInSigmaBehind_nil : ¬ EndsInSigmaBehind before [] := by
  rintro ⟨word, ignored, parts, _⟩
  simp at parts

/-- The sigma is the first character of the text or stands in the rest of it. -/
theorem endsInSigmaBehind_cons_iff : EndsInSigmaBehind before (c :: text) ↔
    (c = 'Σ' ∧ nextIsCased before = true ∧ IsIgnorable text) ∨ EndsInSigmaBehind (c :: before) text := by
  constructor
  · rintro ⟨word, ignored, parts, letter, ignorable⟩
    cases word with
    | nil =>
      obtain ⟨rfl, rfl⟩ := List.cons.inj parts
      exact .inl ⟨rfl, letter, ignorable⟩
    | cons first word =>
      obtain ⟨rfl, rfl⟩ := List.cons.inj parts
      refine .inr ⟨word, ignored, rfl, ?_, ignorable⟩
      simpa using letter
  · rintro (⟨rfl, letter, ignorable⟩ | ⟨word, ignored, rfl, letter, ignorable⟩)
    · exact ⟨[], text, rfl, letter, ignorable⟩
    · refine ⟨c :: word, ignored, rfl, ?_, ignorable⟩
      simpa using letter

/-- What comes next is found in a text or, where all of it is ignored, behind it. -/
theorem nextIsCased_append_of_isIgnorable (ignorable : IsIgnorable text) :
    nextIsCased text = false ∧ nextIsCased (text ++ after) = nextIsCased after := by
  constructor
  · rw [nextIsCased, List.dropWhile_eq_nil_iff.mpr ignorable]
  · rw [nextIsCased, List.dropWhile_append_of_pos ignorable, nextIsCased]

theorem nextIsCased_append_of_not_isIgnorable (seen : ¬ IsIgnorable text) :
    nextIsCased (text ++ after) = nextIsCased text := by
  have some_ : text.dropWhile (inRanges caseIgnorableRanges) ≠ [] :=
    fun none_ => seen (List.dropWhile_eq_nil_iff.mp none_)
  rw [nextIsCased, nextIsCased, List.dropWhile_append, if_neg (by simpa using some_)]
  cases left : text.dropWhile (inRanges caseIgnorableRanges) with
  | nil => exact absurd left some_
  | cons c rest => rfl

/-- A text behind a character changes its form exactly where the character is the sigma of a word that the
text continues. -/
theorem formBetween_append_ne_iff : formBetween before c text ≠ formBetween before c (text ++ after) ↔
    (c = 'Σ' ∧ nextIsCased before = true ∧ IsIgnorable text) ∧ nextIsCased after = true := by
  unfold formBetween
  by_cases sigma : c = 'Σ'
  · by_cases ignorable : IsIgnorable text
    · obtain ⟨none_, next⟩ : nextIsCased text = false ∧ nextIsCased (text ++ after) = nextIsCased after :=
        nextIsCased_append_of_isIgnorable ignorable
      rw [none_, next]
      cases nextIsCased before <;> cases nextIsCased after <;> simp [sigma, ignorable]
    · simp [nextIsCased_append_of_not_isIgnorable, ignorable]
  · simp [sigma]

/-- It changes the lower case of a text exactly where the text ends with the sigma of a word that it
continues. -/
theorem lowerBetween_ne_iff : lowerBetween before text [] ≠ lowerBetween before text after ↔
    EndsInSigmaBehind before text ∧ nextIsCased after = true := by
  induction text generalizing before with
  | nil => simp [lowerBetween, not_endsInSigmaBehind_nil]
  | cons c rest ih =>
    have length := length_formBetween before before rest (rest ++ after) c
    rw [lowerBetween, lowerBetween, List.append_nil, ne_eq,
      List.append_eq_append_iff_of_size_eq_left length, not_and_or]
    calc (¬ formBetween before c rest = formBetween before c (rest ++ after) ∨
          ¬ lowerBetween (c :: before) rest [] = lowerBetween (c :: before) rest after)
        ↔ ((c = 'Σ' ∧ nextIsCased before = true ∧ IsIgnorable rest) ∧ nextIsCased after = true) ∨
            (EndsInSigmaBehind (c :: before) rest ∧ nextIsCased after = true) :=
          or_congr formBetween_append_ne_iff ih
      _ ↔ EndsInSigmaBehind before (c :: rest) ∧ nextIsCased after = true := by
          rw [← or_and_right, ← endsInSigmaBehind_cons_iff]

/-- The lower case of a text begins that of a longer one, unless the text ends with the sigma of a word that is
continued. -/
theorem lowercase_prefix_append_iff : lowercase text <+: lowercase (text ++ after) ↔
    ¬ (EndsInSigma text ∧ nextIsCased after = true) := by
  have parts : lowercase (text ++ after) =
      lowerBetween [] text after ++ lowerAfter text.reverse after := by
    rw [lowercase, lowerAfter_append, List.append_nil]
  rw [EndsInSigma, ← lowerBetween_ne_iff, not_not, parts, lowercase_eq_lowerBetween]
  constructor
  · intro begins
    have own : lowerBetween [] text after <+: lowerBetween [] text after ++ lowerAfter text.reverse after :=
      List.prefix_append _ _
    have length := length_lowerBetween [] [] text [] after
    exact (List.prefix_of_prefix_length_le begins own (Nat.le_of_eq length)).eq_of_length length
  · intro same
    rw [same]
    exact List.prefix_append _ _

end Sigma

end Text

/-! ## Candidates -/

namespace Completion

open Text

variable {typed more : String}

theorem continues_iff {candidate : String} :
    continues typed candidate = true ↔ lowercase typed.toList <+: lowercase candidate.toList :=
  List.isPrefixOf_iff_prefix

/-- Whatever continues the longer text continues the shorter one, where the longer text itself does. -/
theorem continues_of_append (itself : continues typed (typed ++ more) = true) {candidate : String}
    (longer : continues (typed ++ more) candidate = true) : continues typed candidate = true :=
  continues_iff.mpr ((continues_iff.mp itself).trans (continues_iff.mp longer))

/-- A longer text continues a shorter one, unless it goes on with a word that the shorter one ends with a
sigma. -/
theorem continues_append_iff : continues typed (typed ++ more) = true ↔
    ¬ (EndsInSigma typed.toList ∧ nextIsCased more.toList = true) := by
  rw [continues_iff, String.toList_append, lowercase_prefix_append_iff]

/-- Typing more brings no candidate back, whatever the candidates are, unless the text ended with the sigma of
a word and what is typed more continues that word; and a candidate is offered for a text that it literally
starts with under the same condition. -/
theorem typing_more_iff (typed more : String) :
    ((∀ candidates, (matching candidates (typed ++ more)).Sublist (matching candidates typed)) ↔
      ¬ (EndsInSigma typed.toList ∧ nextIsCased more.toList = true)) ∧
    ((∀ candidates, typed ++ more ∈ candidates → typed ++ more ∈ matching candidates typed) ↔
      ¬ (EndsInSigma typed.toList ∧ nextIsCased more.toList = true)) := by
  simp only [← continues_append_iff]
  constructor
  · constructor
    · intro fewer
      have found : typed ++ more ∈ matching [typed ++ more] (typed ++ more) :=
        List.mem_filter.mpr ⟨List.mem_singleton_self _, continues_iff.mpr (List.prefix_refl _)⟩
      exact (List.mem_filter.mp ((fewer [typed ++ more]).subset found)).2
    · intro itself candidates
      apply List.monotone_filter_right
      intro candidate longer
      exact continues_of_append itself longer
  · constructor
    · intro offered
      exact (List.mem_filter.mp (offered [typed ++ more] (List.mem_singleton_self _))).2
    · intro itself candidates listed
      exact List.mem_filter.mpr ⟨listed, itself⟩

/-- The candidate `ΟΣΑ` literally starts with `ΟΣ`, where the sigma is taken for the end of a word. It is not
offered for that text, and is back when its last letter is typed. -/
theorem typing_more_sigma :
    ¬ (matching ["ΟΣΑ"] ("ΟΣ" ++ "Α")).Sublist (matching ["ΟΣΑ"] "ΟΣ") := by
  decide +kernel

end Completion

end CommandGrammar
