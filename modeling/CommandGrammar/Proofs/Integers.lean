import CommandGrammar.Proofs.Consuming

/-!
# Integers between bounds

An integer form takes the longest run of digits, minus signs and points, and this class is wider than
what stands for an integer: `1-2`, `--1` and `1.5` are runs that are no numerals, and a numeral may be
beyond the 32 bits. So the run and the bounds together decide between five outcomes, in a fixed order
(`Form.Judges`): a numeral that is below the lower bound is too low even where it is above the upper one
as well, which happens with bounds that are the wrong way round.

What a numeral is, and which number it stands for, is said by itself (`Decimal.IsNumeral`): an optional
minus sign and one or more digits, leading zeros included, with the value that the core library gives to
the digits. The reader of the model agrees with it (`Decimal.readInteger?_eq_some_iff`), and so do the
numerals that are printed (`Decimal.isNumeral_showInteger`), so that printing and reading are inverse
within the bounds.
-/

set_option autoImplicit false

namespace CommandGrammar

open Text

/-! ## Numerals -/

namespace Decimal

/-- One or more digits. -/
def IsDigits (text : List Char) : Prop :=
  text ≠ [] ∧ ∀ c ∈ text, c.isDigit = true

/-- The text is a decimal numeral for the number: an optional minus sign and one or more digits. -/
inductive IsNumeral : List Char → Int → Prop where
  | plain {digits : List Char} (only : IsDigits digits) :
    IsNumeral digits (Nat.ofDigitChars 10 digits 0)
  | minus {digits : List Char} (only : IsDigits digits) :
    IsNumeral ('-' :: digits) (-(Nat.ofDigitChars 10 digits 0 : Int))

/-- Digits are no minus sign. -/
theorem IsDigits.ne_minus {text : List Char} (only : IsDigits text) (digits : List Char) :
    text ≠ '-' :: digits := by
  rintro rfl
  exact absurd (only.2 '-' List.mem_cons_self) (by decide)

/-- A run of digits is read as the number that it stands for. -/
theorem readNat?_eq_some_iff {text : List Char} {value : Nat} :
    readNat? text = some value ↔ IsDigits text ∧ value = Nat.ofDigitChars 10 text 0 := by
  have test : (!text.isEmpty && text.all Char.isDigit) = true ↔ IsDigits text := by
    simp [IsDigits]
  unfold readNat?
  constructor
  · intro reads
    split at reads
    next digits =>
      cases reads
      exact ⟨test.mp digits, rfl⟩
    next => cases reads
  · rintro ⟨only, rfl⟩
    exact if_pos (test.mpr only)

/-- What is read as an integer are the numerals. -/
theorem readInteger?_eq_some_iff {text : List Char} {value : Int} :
    readInteger? text = some value ↔ IsNumeral text value := by
  constructor
  · intro reads
    unfold readInteger? at reads
    split at reads
    next _ digits =>
      cases found : readNat? digits with
      | none =>
        rw [found] at reads
        cases reads
      | some number =>
        obtain ⟨only, rfl⟩ := readNat?_eq_some_iff.mp found
        rw [found] at reads
        cases reads
        exact .minus only
    next =>
      obtain ⟨number, found, rfl⟩ := Option.map_eq_some_iff.mp reads
      obtain ⟨only, rfl⟩ := readNat?_eq_some_iff.mp found
      exact .plain only
  · intro numeral
    cases numeral with
    | plain only =>
      rw [readInteger?, readNat?_eq_some_iff.mpr ⟨only, rfl⟩]
      · rfl
      · exact only.ne_minus
    | minus only =>
      rw [readInteger?, readNat?_eq_some_iff.mpr ⟨only, rfl⟩]
      rfl

/-- The digits of a number are digits. -/
theorem isDigits_toDigits (value : Nat) : IsDigits (Nat.toDigits 10 value) :=
  ⟨Nat.toDigits_ne_nil, fun _ member => Nat.isDigit_of_mem_toDigits (by decide) (by decide) member⟩

/-- What is printed of an integer is a numeral for it. -/
theorem isNumeral_showInteger (value : Int) : IsNumeral (showInteger value).toList value := by
  cases value with
  | ofNat number =>
    have printed : (showInteger (Int.ofNat number)).toList = Nat.toDigits 10 number :=
      Nat.toList_repr
    have numeral := IsNumeral.plain (isDigits_toDigits number)
    rw [Nat.ofDigitChars_ten_toDigits] at numeral
    rwa [printed]
  | negSucc number =>
    have printed : (showInteger (Int.negSucc number)).toList =
        '-' :: Nat.toDigits 10 (number + 1) := by
      show ("-" ++ (number + 1).repr).toList = _
      rw [String.toList_append, Nat.toList_repr]
      rfl
    have numeral := IsNumeral.minus (isDigits_toDigits (number + 1))
    rw [Nat.ofDigitChars_ten_toDigits] at numeral
    rwa [printed]

/-- A numeral is a run of number characters. -/
theorem IsNumeral.isNumberChar {text : List Char} {value : Int} (numeral : IsNumeral text value) :
    ∀ c ∈ text, Reader.isNumberChar c = true := by
  have ofDigit : ∀ {c : Char}, c.isDigit = true → Reader.isNumberChar c = true := by
    intro c digit
    rw [Reader.isNumberChar, digit]
    rfl
  cases numeral with
  | plain only => exact fun c member => ofDigit (only.2 c member)
  | minus only =>
    intro c member
    rcases List.mem_cons.mp member with rfl | member
    · rfl
    · exact ofDigit (only.2 c member)

/-- A numeral is no empty text. -/
theorem IsNumeral.ne_nil {text : List Char} {value : Int} (numeral : IsNumeral text value) :
    text ≠ [] := by
  cases numeral with
  | plain only => exact only.1
  | minus only => exact List.cons_ne_nil _ _

end Decimal

/-! ## Runs of number characters -/

namespace Reader

open Decimal

variable {run : List Char}

/-- A run is read as a 32-bit integer when it is a numeral for it. -/
theorem intOfRun_eq_ok_iff {number : Int32} :
    intOfRun run = .ok number ↔ IsNumeral run number.toInt := by
  constructor
  · intro reads
    unfold intOfRun at reads
    split at reads
    · cases reads
    · split at reads
      next value found =>
        split at reads
        next fits =>
          cases reads
          rw [Bool.and_eq_true, decide_eq_true_eq, decide_eq_true_eq] at fits
          have same : (Int32.ofInt value).toInt = value :=
            Int32.toInt_ofInt_of_le fits.1 (Int.lt_add_one_of_le fits.2)
          rw [same]
          exact readInteger?_eq_some_iff.mp found
        next => cases reads
      next => cases reads
  · intro numeral
    have some_ : ¬ run.isEmpty = true := fun empty => numeral.ne_nil (List.isEmpty_iff.mp empty)
    have fits : (Int32.minValue.toInt ≤ number.toInt && number.toInt ≤ Int32.maxValue.toInt) = true := by
      rw [Bool.and_eq_true, decide_eq_true_eq, decide_eq_true_eq]
      exact ⟨number.minValue_le_toInt, number.toInt_le⟩
    unfold intOfRun
    rw [if_neg some_, readInteger?_eq_some_iff.mpr numeral]
    dsimp only
    rw [if_pos fits, Int32.ofInt_toInt]

/-- A run that is no numeral for a 32-bit integer is refused as it stands. -/
theorem intOfRun_of_no_numeral (some_ : run ≠ [])
    (none_ : ∀ number : Int32, ¬ IsNumeral run number.toInt) :
    intOfRun run = .error (.invalidInteger (String.ofList run)) := by
  cases judged : intOfRun run with
  | ok number => exact absurd (intOfRun_eq_ok_iff.mp judged) (none_ number)
  | error reason =>
    unfold intOfRun at judged
    rw [if_neg (fun empty => some_ (List.isEmpty_iff.mp empty))] at judged
    split at judged
    · split at judged
      · cases judged
      · cases judged
        rfl
    · cases judged
      rfl

end Reader

/-! ## Runs between bounds -/

namespace Form

open Decimal

variable {low high : Int32} {run : List Char} {result : Except ParseError Raw}

/-- What a run of number characters comes to between two bounds. -/
inductive BoundedOutcome (low high : Int32) : List Char → Except ParseError Raw → Prop where
  /-- There is no run. -/
  | missing : BoundedOutcome low high [] (.error .expectedInteger)
  /-- The run is no numeral, or none for a 32-bit integer. -/
  | invalid {run : List Char} (some_ : run ≠ [])
    (none_ : ∀ number : Int32, ¬ IsNumeral run number.toInt) :
    BoundedOutcome low high run (.error (.invalidInteger (String.ofList run)))
  /-- The number is below the lower bound. -/
  | tooLow {run : List Char} {number : Int32} (numeral : IsNumeral run number.toInt)
    (below : number < low) : BoundedOutcome low high run (.error (.integerTooLow number low))
  /-- The number is not below the lower bound, but above the upper one. -/
  | tooHigh {run : List Char} {number : Int32} (numeral : IsNumeral run number.toInt)
    (notBelow : low ≤ number) (above : high < number) :
    BoundedOutcome low high run (.error (.integerTooHigh number high))
  /-- The number lies between the bounds. -/
  | within {run : List Char} {number : Int32} (numeral : IsNumeral run number.toInt)
    (notBelow : low ≤ number) (notAbove : number ≤ high) :
    BoundedOutcome low high run (.ok (.int number))

/-- Every run comes to something. -/
theorem exists_boundedOutcome (low high : Int32) (run : List Char) :
    ∃ result, BoundedOutcome low high run result := by
  by_cases empty : run = []
  · subst empty
    exact ⟨_, .missing⟩
  by_cases stands : ∃ number : Int32, IsNumeral run number.toInt
  · obtain ⟨number, numeral⟩ := stands
    by_cases below : number < low
    · exact ⟨_, .tooLow numeral below⟩
    by_cases above : high < number
    · exact ⟨_, .tooHigh numeral (Int32.not_lt.mp below) above⟩
    · exact ⟨_, .within numeral (Int32.not_lt.mp below) (Int32.not_lt.mp above)⟩
  · exact ⟨_, .invalid empty (not_exists.mp stands)⟩

/-- What a run comes to is what the form makes of it. -/
theorem BoundedOutcome.eq (outcome : BoundedOutcome low high run result) :
    boundedInt low high run = result := by
  cases outcome with
  | missing => rfl
  | invalid some_ none_ => rw [boundedInt, Reader.intOfRun_of_no_numeral some_ none_]
  | tooLow numeral below =>
    rw [boundedInt, Reader.intOfRun_eq_ok_iff.mpr numeral]
    exact if_pos below
  | tooHigh numeral notBelow above =>
    rw [boundedInt, Reader.intOfRun_eq_ok_iff.mpr numeral]
    dsimp only
    rw [if_neg (Int32.not_lt.mpr notBelow), if_pos above]
  | within numeral notBelow notAbove =>
    rw [boundedInt, Reader.intOfRun_eq_ok_iff.mpr numeral]
    dsimp only
    rw [if_neg (Int32.not_lt.mpr notBelow), if_neg (Int32.not_lt.mpr notAbove)]

/-- The form makes of a run what it comes to. -/
theorem boundedInt_eq_iff : boundedInt low high run = result ↔ BoundedOutcome low high run result := by
  constructor
  · rintro rfl
    obtain ⟨found, outcome⟩ := exists_boundedOutcome low high run
    rwa [outcome.eq]
  · exact BoundedOutcome.eq

/-- What an integer form does at an offset of a line. It looks at the longest run of number characters
there, passes over the run if that comes to an integer, and stays if it comes to a failure. -/
def TakesRun (low high : Int32) (line : List Char) (start : Nat) : Prop :=
  ∃ before run rest, line = before ++ (run ++ rest) ∧ byteLength before = start ∧
    LongestRun Reader.isNumberChar run rest ∧
    (∀ value after,
      (Form.integer low high).read (Reader.atOffset line start) = (.ok value, after) ↔
        BoundedOutcome low high run (.ok value) ∧ after = ⟨before ++ run, rest⟩) ∧
    ∀ reason after,
      (Form.integer low high).read (Reader.atOffset line start) = (.error reason, after) ↔
        BoundedOutcome low high run (.error reason) ∧ after = ⟨before, run ++ rest⟩

/-- Where a token may be read, an integer form takes the longest run and nothing else. -/
theorem takesRun_of_onBoundary {line : List Char} {start : Nat} (low high : Int32)
    (starts : OnBoundary line start) : TakesRun low high line start := by
  obtain ⟨before, text, rfl, rfl⟩ := starts
  have parts : text.takeWhile Reader.isNumberChar ++ text.dropWhile Reader.isNumberChar = text :=
    List.takeWhile_append_dropWhile
  refine ⟨before, text.takeWhile Reader.isNumberChar, text.dropWhile Reader.isNumberChar, ?_, rfl,
    longestRun_takeWhile _ text, ?_, ?_⟩
  · rw [parts]
  · intro value after
    rw [← boundedInt_eq_iff, Reader.atOffset_append]
    exact Reader.judge_eq_ok_iff
  · intro reason after
    rw [← boundedInt_eq_iff, Reader.atOffset_append, parts]
    exact Reader.judge_eq_error_iff

/-- What is printed of a number between the bounds is read as this number, up to where it ends. -/
theorem read_showInt {low high number : Int32} (notBelow : low ≤ number) (notAbove : number ≤ high)
    (before : List Char) {rest : List Char} (other : ∀ c ∈ rest.head?, Reader.isNumberChar c = false) :
    (Form.integer low high).read
        (Reader.atOffset (before ++ ((showInt number).toList ++ rest)) (byteLength before)) =
      (.ok (.int number), ⟨before ++ (showInt number).toList, rest⟩) := by
  have numeral : IsNumeral (showInt number).toList number.toInt := isNumeral_showInteger _
  have longest : LongestRun Reader.isNumberChar (showInt number).toList rest :=
    ⟨numeral.isNumberChar, other⟩
  rw [Reader.atOffset_append]
  refine Reader.judge_eq_ok_iff.mpr ⟨?_, ?_⟩
  · rw [longest.takeWhile_append]
    exact (BoundedOutcome.within numeral notBelow notAbove).eq
  · rw [longest.takeWhile_append, longest.dropWhile_append]

/-- With whatever bounds, an integer form takes the longest run of number characters at any place of any
line, and the run decides what comes of it. So the numerals that are printed of the numbers between the
bounds are read again, whatever stands behind them. -/
theorem integers_read_by_runs (low high : Int32) :
    (∀ line start, OnBoundary line start → TakesRun low high line start) ∧
      ∀ number, low ≤ number → number ≤ high →
        ∀ before rest, (∀ c ∈ rest.head?, Reader.isNumberChar c = false) →
          (Form.integer low high).read
              (Reader.atOffset (before ++ ((showInt number).toList ++ rest)) (byteLength before)) =
            (.ok (.int number), ⟨before ++ (showInt number).toList, rest⟩) := by
  refine ⟨fun line start starts => takesRun_of_onBoundary low high starts, ?_⟩
  intro number notBelow notAbove before rest other
  exact read_showInt notBelow notAbove before other

/-- The least of the numbers is read up to the comma behind it, and the next smaller one is none. -/
theorem integers_read_by_runs_least :
    TakesRun Int32.minValue Int32.maxValue "by -2147483649".toList 3 ∧
      (Form.integer Int32.minValue Int32.maxValue).read
          (Reader.atOffset ("by ".toList ++ ((showInt Int32.minValue).toList ++ [','])) 3) =
        (.ok (.int Int32.minValue), ⟨"by ".toList ++ (showInt Int32.minValue).toList, [',']⟩) ∧
      "by -2147483648,".toList = "by ".toList ++ ((showInt Int32.minValue).toList ++ [',']) ∧
      boundedInt Int32.minValue Int32.maxValue "-2147483649".toList =
        .error (.invalidInteger "-2147483649") := by
  have reads := integers_read_by_runs Int32.minValue Int32.maxValue
  refine ⟨reads.1 _ _ ⟨"by ".toList, "-2147483649".toList, by decide, by decide⟩,
    reads.2 Int32.minValue (by decide) (by decide) "by ".toList [','] ?_, by decide, by rfl⟩
  intro c head
  cases head
  rfl

end Form

end CommandGrammar
