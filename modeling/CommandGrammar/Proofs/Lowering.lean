import CommandGrammar.Proofs.Scanning
import CommandGrammar.Text.LetterCase

/-!
# Lower case and the pieces of a text

Lower case is written character by character. A character has one form in lower case, apart from the
capital sigma, which has a second one for the end of a word; which of the two is taken depends on the
characters around it, and nothing else does (`LowersTo`, `Lowered`).

A blank is its own form, and there is no blank in the form of another character. So a text and its lower
case have their blanks in common and are cut into corresponding pieces, at spaces as well as at any blanks
(`Lowered.splitOn`, `Lowered.words`). And a text without a capital sigma is lowered in one way, wherever
it stands (`Lowered.eq_lowercase`); identifiers are such texts.
-/

set_option autoImplicit false

namespace CommandGrammar

namespace Text

/-- The text is a form of the character in lower case. -/
def LowersTo (c : Char) (form : List Char) : Prop :=
  form = lowerChar c ∨ c = 'Σ' ∧ form = ['ς']

/-- The second text is made of forms of the characters of the first, in their order. -/
inductive Lowered : List Char → List Char → Prop where
  | nil : Lowered [] []
  | cons {c : Char} {form rest lowered : List Char} :
      LowersTo c form → Lowered rest lowered → Lowered (c :: rest) (form ++ lowered)

/-! ## Forms -/

section Forms

variable {c d : Char} {form : List Char}

/-- The runs of the table and the ranges of blanks have no code point in common, and neither have the
forms that the runs give. -/
theorem lowerRuns_apart : ∀ run ∈ lowerRuns, ∀ range ∈ blankRanges,
    (run.last < range.1 ∨ range.2 < run.first) ∧
      (run.lower + (run.last - run.first) < range.1 ∨ range.2 < run.lower) := by
  decide +kernel

/-- What a run gives to a code point that it covers. -/
theorem CaseRun.covers_of_lower? {run : CaseRun} {code lowered : Nat}
    (found : run.lower? code = some lowered) :
    run.first ≤ code ∧ code ≤ run.last ∧ lowered = run.lower + (code - run.first) := by
  unfold lower? at found
  split at found
  next covers =>
    simp only [Bool.and_eq_true, decide_eq_true_eq] at covers
    exact ⟨covers.1.1, covers.1.2, (Option.some.inj found).symm⟩
  next => cases found

/-- What holds of the ASCII characters is seen from their code points. -/
theorem forall_ascii {holds : Char → Prop} (all : ∀ code < 0x80, holds (Char.ofNat code))
    (ascii : c.toNat < 0x80) : holds c := by
  have here := all c.toNat ascii
  rwa [Char.ofNat_toNat] at here

/-- An ASCII character is a blank if its form is one, and then it is that form. -/
theorem isBlank_toLower_of_ascii (ascii : c.toNat < 0x80) :
    isBlank c.toLower = isBlank c ∧ (isBlank c = true → c.toLower = c) := by
  revert ascii
  apply forall_ascii
  decide

theorem lowerChar_ne_nil (c : Char) : lowerChar c ≠ [] := by
  unfold lowerChar
  split
  · simp
  · split
    · simp
    · split <;> simp

/-- A blank is its own form. -/
theorem lowerChar_of_isBlank (blank : isBlank c = true) : lowerChar c = [c] := by
  unfold lowerChar
  split
  next ascii => rw [(isBlank_toLower_of_ascii ascii).2 blank]
  next beyond =>
    obtain ⟨range, listed, low, high⟩ := inRanges_iff.mp blank
    have dotted : ¬ c.toNat = 0x130 := by
      intro same
      rw [same] at low high
      revert range
      decide
    rw [if_neg dotted]
    have uncovered : (lowerRuns.findSome? fun run => run.lower? c.toNat) = none := by
      apply List.findSome?_eq_none_iff.mpr
      intro run member
      cases found : run.lower? c.toNat with
      | none => rfl
      | some lowered =>
        have covers := CaseRun.covers_of_lower? found
        have apart := (lowerRuns_apart run member range listed).1
        omega
    rw [uncovered]

/-- A code point whose character is a blank lies in a range of blanks. -/
theorem exists_range_of_isBlank {code : Nat} (blank : isBlank (Char.ofNat code) = true) :
    ∃ range ∈ blankRanges, range.1 ≤ code ∧ code ≤ range.2 := by
  have same_or_zero : (Char.ofNat code).toNat = code ∨ (Char.ofNat code).toNat = 0 := by
    by_cases valid : code.isValidChar
    · left
      rw [Char.ofNat, dif_pos valid]
      rfl
    · right
      rw [Char.ofNat, dif_neg valid]
      rfl
  obtain ⟨range, listed, low, high⟩ := inRanges_iff.mp blank
  rcases same_or_zero with same | zero
  · rw [same] at low high
    exact ⟨range, listed, low, high⟩
  · rw [zero] at low
    have positive : ∀ range ∈ blankRanges, 0 < range.1 := by decide
    exact absurd low (Nat.not_le.mpr (positive range listed))

/-- There is no blank in the form of another character. -/
theorem not_isBlank_of_mem_lowerChar (other : isBlank c = false) (member : d ∈ lowerChar c) :
    isBlank d = false := by
  unfold lowerChar at member
  split at member
  next ascii =>
    rw [List.mem_singleton.mp member, (isBlank_toLower_of_ascii ascii).1, other]
  next =>
    split at member
    · have parts : d = 'i' ∨ d = '\u0307' := by simpa using member
      rcases parts with rfl | rfl
      · decide
      · decide
    · split at member
      next lowered found =>
        rw [List.mem_singleton.mp member, Bool.eq_false_iff]
        intro blank
        obtain ⟨range, listed, low, high⟩ := exists_range_of_isBlank blank
        obtain ⟨run, covering, here⟩ := List.exists_of_findSome?_eq_some found
        have covers := CaseRun.covers_of_lower? here
        have apart := (lowerRuns_apart run covering range listed).2
        omega
      next => rw [List.mem_singleton.mp member, other]

theorem LowersTo.ne_nil (lowers : LowersTo c form) : form ≠ [] := by
  rcases lowers with rfl | ⟨_, rfl⟩
  · exact lowerChar_ne_nil c
  · simp

theorem LowersTo.of_isBlank (lowers : LowersTo c form) (blank : isBlank c = true) : form = [c] := by
  rcases lowers with rfl | ⟨rfl, _⟩
  · exact lowerChar_of_isBlank blank
  · exact absurd blank (by decide)

theorem LowersTo.not_isBlank (lowers : LowersTo c form) (other : isBlank c = false)
    (member : d ∈ form) : isBlank d = false := by
  rcases lowers with rfl | ⟨_, rfl⟩
  · exact not_isBlank_of_mem_lowerChar other member
  · rw [List.mem_singleton.mp member]
    decide

/-- Only a capital sigma has a choice. -/
theorem LowersTo.eq_of_ne (lowers : LowersTo c form) (other : c ≠ 'Σ') : form = lowerChar c := by
  rcases lowers with rfl | ⟨sigma, _⟩
  · rfl
  · exact absurd sigma other

/-- An ASCII character has one form, of one character. -/
theorem LowersTo.of_ascii (lowers : LowersTo c form) (ascii : c.toNat < 0x80) : form = [c.toLower] := by
  have other : c ≠ 'Σ' := by
    rintro rfl
    exact absurd ascii (by decide)
  rw [lowers.eq_of_ne other, lowerChar, if_pos ascii]

/-- Where only blanks separate, a character that does not separate has no separator in its form. -/
theorem LowersTo.not_separates {separates : Char → Bool}
    (blanks : ∀ c, separates c = true → isBlank c = true) (lowers : LowersTo c form)
    (other : separates c = false) (member : d ∈ form) : separates d = false := by
  by_cases blank : isBlank c = true
  · rw [lowers.of_isBlank blank, List.mem_singleton] at member
    rw [member, other]
  · have visible := lowers.not_isBlank (by simpa using blank) member
    rw [Bool.eq_false_iff]
    intro separator
    rw [blanks d separator] at visible
    cases visible

end Forms

/-! ## Lowered texts -/

theorem lowered_lowerAfter (before text : List Char) : Lowered text (lowerAfter before text) := by
  induction text generalizing before with
  | nil => exact .nil
  | cons c rest ih =>
    refine .cons ?_ (ih (c :: before))
    split
    next sigma =>
      subst sigma
      split
      · exact .inr ⟨rfl, rfl⟩
      · exact .inl (by decide +kernel)
    next => exact .inl rfl

/-- Lower-casing a text puts forms in the place of its characters. -/
theorem lowered_lowercase (text : List Char) : Lowered text (lowercase text) :=
  lowered_lowerAfter [] text

namespace Lowered

variable {first second text lowered lowered' : List Char}

theorem append (left : Lowered first lowered) (right : Lowered second lowered') :
    Lowered (first ++ second) (lowered ++ lowered') := by
  induction left with
  | nil => exact right
  | cons form _ ih =>
    rw [List.append_assoc]
    exact .cons form ih

/-- What two texts are lowered to one after the other falls into what each is lowered to. -/
theorem exists_append (both : Lowered (first ++ second) lowered) :
    ∃ left right, lowered = left ++ right ∧ Lowered first left ∧ Lowered second right := by
  induction first generalizing lowered with
  | nil => exact ⟨[], lowered, rfl, .nil, both⟩
  | cons c first ih =>
    cases both with
    | cons form rest =>
      obtain ⟨left, right, rfl, left_, right_⟩ := ih rest
      exact ⟨_, right, (List.append_assoc _ _ _).symm, .cons form left_, right_⟩

theorem eq_nil_iff (lowers : Lowered text lowered) : lowered = [] ↔ text = [] := by
  cases lowers with
  | nil => simp
  | cons form _ => simp [form.ne_nil]

/-- A text and its lower case are cut into corresponding pieces. -/
theorem splitOn {separates : Char → Bool} (blanks : ∀ c, separates c = true → isBlank c = true)
    (lowers : Lowered text lowered) :
    List.Forall₂ Lowered (Text.splitOn separates text) (Text.splitOn separates lowered) := by
  induction lowers with
  | nil => exact .cons .nil .nil
  | @cons c form rest lowered lowersTo _ ih =>
    rw [splitOn_eq, splitOn_eq] at ih ⊢
    obtain ⟨first, others⟩ := List.forall₂_cons.mp ih
    by_cases separator : separates c = true
    · rw [lowersTo.of_isBlank (blanks c separator), List.singleton_append]
      simpa [pieces, separator] using ⟨.nil, first, others⟩
    · have other : separates c = false := by simpa using separator
      rw [pieces_append_of_none fun d member => lowersTo.not_separates blanks other member]
      simpa [pieces, other] using ⟨.cons lowersTo first, others⟩

/-- So their last pieces correspond. -/
theorem lastPiece {separates : Char → Bool} (blanks : ∀ c, separates c = true → isBlank c = true)
    (lowers : Lowered text lowered) :
    Lowered (Text.lastPiece separates text) (Text.lastPiece separates lowered) := by
  have last : ∀ {others others' : List (List Char)}, List.Forall₂ Lowered others others' →
      ∀ {first first'}, Lowered first first' →
        Lowered (others.getLastD first) (others'.getLastD first') := by
    intro others others' all
    induction all with
    | nil => exact fun first => first
    | cons next _ ih =>
      intro first first' _
      rw [List.getLastD_cons, List.getLastD_cons]
      exact ih next
  obtain ⟨first, others⟩ := List.forall₂_cons.mp (lowers.splitOn blanks)
  exact last others first

/-- The words of a text are lowered one by one. -/
theorem words (lowers : Lowered text lowered) :
    List.Forall₂ Lowered (Text.words text) (Text.words lowered) := by
  refine List.rel_filter ?_ (lowers.splitOn fun _ blank => blank)
  intro piece lowered lowers
  simp [lowers.eq_nil_iff]

/-- A character that is its own form stands in front of what is behind it. -/
theorem exists_cons {c : Char} (own : lowerChar c = [c]) (other : c ≠ 'Σ')
    (lowers : Lowered (c :: text) lowered) :
    ∃ behind, lowered = c :: behind ∧ Lowered text behind := by
  cases lowers with
  | cons lowersTo rest => exact ⟨_, by rw [lowersTo.eq_of_ne other, own]; rfl, rest⟩

/-- A blank is still there. -/
theorem mem_of_isBlank {c : Char} (lowers : Lowered text lowered) (blank : isBlank c = true)
    (member : c ∈ text) : c ∈ lowered := by
  induction lowers with
  | nil => cases member
  | cons lowersTo _ ih =>
    rcases List.mem_cons.mp member with rfl | behind
    · rw [lowersTo.of_isBlank blank]
      exact List.mem_cons_self
    · exact List.mem_append_right _ (ih behind)

/-- A text without a capital sigma is lowered in one way. -/
theorem eq_lowercase (lowers : Lowered text lowered) (none_ : 'Σ' ∉ text) :
    lowered = lowercase text := by
  have unique : ∀ {other}, Lowered text other → lowered = other := by
    induction lowers with
    | nil =>
      rintro _ ⟨⟩
      rfl
    | @cons c form rest lowered lowersTo _ ih =>
      intro other lowers'
      obtain ⟨here, behind⟩ := not_or.mp (List.mem_cons.not.mp none_)
      cases lowers' with
      | cons lowersTo' rest' =>
        rw [lowersTo.eq_of_ne (Ne.symm here), lowersTo'.eq_of_ne (Ne.symm here), ih behind rest']
  exact unique (lowered_lowercase text)

/-- Each character of a lowered text belongs to the form of a character. -/
theorem exists_mem {d : Char} (lowers : Lowered text lowered) (member : d ∈ lowered) :
    ∃ c ∈ text, ∃ form, LowersTo c form ∧ d ∈ form := by
  induction lowers with
  | nil => cases member
  | @cons c form rest lowered lowersTo _ ih =>
    rcases List.mem_append.mp member with here | behind
    · exact ⟨c, List.mem_cons_self, form, lowersTo, here⟩
    · obtain ⟨other, listed, found⟩ := ih behind
      exact ⟨other, List.mem_cons_of_mem _ listed, found⟩

end Lowered

/-! ## ASCII texts -/

/-- Every character of the text is an ASCII character. -/
def IsAscii (text : List Char) : Prop :=
  ∀ c ∈ text, c.toNat < 0x80

section Ascii

variable {text lowered : List Char}

/-- There is no sigma in an ASCII text. -/
theorem IsAscii.not_mem_sigma (ascii : IsAscii text) : 'Σ' ∉ text :=
  fun member => absurd (ascii 'Σ' member) (by decide)

theorem toLower_lt_of_ascii {c : Char} (ascii : c.toNat < 0x80) : c.toLower.toNat < 0x80 := by
  revert ascii
  apply forall_ascii
  decide

/-- An ASCII text is one in lower case. -/
theorem IsAscii.of_lowered (ascii : IsAscii text) (lowers : Lowered text lowered) : IsAscii lowered := by
  intro d member
  obtain ⟨c, listed, form, lowersTo, inForm⟩ := lowers.exists_mem member
  rw [lowersTo.of_ascii (ascii c listed), List.mem_singleton] at inForm
  rw [inForm]
  exact toLower_lt_of_ascii (ascii c listed)

/-- A text that is lowered to an ASCII text has no capital sigma in it. -/
theorem Lowered.not_mem_sigma (lowers : Lowered text lowered) (ascii : IsAscii lowered) :
    'Σ' ∉ text := by
  induction lowers with
  | nil => exact List.not_mem_nil
  | @cons c form rest lowered lowersTo _ ih =>
    have behind := ih fun d member => ascii d (List.mem_append_right _ member)
    have here : c ≠ 'Σ' := by
      rintro rfl
      -- Neither form of a sigma is an ASCII character.
      rcases lowersTo with rfl | ⟨_, rfl⟩
      · have alone : lowerChar 'Σ' = ['σ'] := by decide +kernel
        rw [alone] at ascii
        exact absurd (ascii 'σ' List.mem_cons_self) (by decide)
      · exact absurd (ascii 'ς' List.mem_cons_self) (by decide)
    simp [here.symm, behind]

/-- What a text is lowered to at its place starts an ASCII text exactly when its lower case on its own
does. -/
theorem Lowered.prefix_iff {target : List Char} (lowers : Lowered text lowered)
    (ascii : IsAscii target) : lowered <+: target ↔ lowercase text <+: target := by
  have same : ∀ {other}, Lowered text other → other <+: target → 'Σ' ∉ text :=
    fun lowers starts => lowers.not_mem_sigma fun d member => ascii d (starts.subset member)
  constructor
  · intro starts
    rwa [← lowers.eq_lowercase (same lowers starts)]
  · intro starts
    rwa [lowers.eq_lowercase (same (lowered_lowercase text) starts)]

/-- And it is that ASCII text exactly when its lower case on its own is. -/
theorem Lowered.eq_iff {target : List Char} (lowers : Lowered text lowered)
    (ascii : IsAscii target) : lowered = target ↔ lowercase text = target := by
  constructor
  · rintro rfl
    rw [lowers.eq_lowercase (lowers.not_mem_sigma ascii)]
  · rintro rfl
    exact lowers.eq_lowercase ((lowered_lowercase text).not_mem_sigma ascii)

end Ascii

end Text

/-! ## Identifiers -/

section Identifiers

variable {c : Char} {word : List Char}

theorem IsIdentifierChar.toNat_lt (identifier : IsIdentifierChar c) : c.toNat < 0x80 := by
  have below : ∀ {bound : Char}, c ≤ bound → c.toNat ≤ bound.toNat := fun le => le
  rcases identifier with ⟨_, high⟩ | ⟨_, high⟩ | ⟨_, high⟩ | rfl
  · exact Nat.lt_of_le_of_lt (below high) (by decide)
  · exact Nat.lt_of_le_of_lt (below high) (by decide)
  · exact Nat.lt_of_le_of_lt (below high) (by decide)
  · decide

/-- A character of an identifier is no blank, and in lower case it is such a character again. -/
theorem IsIdentifierChar.lowered (identifier : IsIdentifierChar c) :
    Text.isBlank c = false ∧ IsIdentifierChar c.toLower := by
  have ascii := identifier.toNat_lt
  rw [← isIdentifierChar_iff] at identifier ⊢
  revert identifier
  revert ascii
  apply Text.forall_ascii
  decide

theorem IsIdentifier.isAscii (identifier : IsIdentifier word) : Text.IsAscii word :=
  fun c member => (identifier.2 c member).toNat_lt

/-- An identifier in lower case is one. -/
theorem IsIdentifier.lowercase (identifier : IsIdentifier word) : IsIdentifier (Text.lowercase word) := by
  have lowers := Text.lowered_lowercase word
  refine ⟨fun empty => identifier.1 (lowers.eq_nil_iff.mp empty), ?_⟩
  intro d member
  obtain ⟨c, listed, form, lowersTo, inForm⟩ := lowers.exists_mem member
  have known := identifier.2 c listed
  rw [lowersTo.of_ascii known.toNat_lt, List.mem_singleton] at inForm
  rw [inForm]
  exact known.lowered.2

end Identifiers

end CommandGrammar
