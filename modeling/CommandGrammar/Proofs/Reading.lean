import CommandGrammar.Program.Input
import Mathlib.Data.List.Forall2

/-!
# Lines that are fed to the program

Lines are written to the input one after the other, each with a line feed behind it that may have a carriage
return in front; only the last line may do without, unless it is empty. What is read back are the same lines.
There is one exception, which the two ends of a line make unavoidable: a carriage return that a line ends
with may be taken for a part of its end.

The bytes of a line are told apart from those of its end by one fact about UTF-8: a byte below 128 encodes a
character of its own, and is part of no other.
-/

set_option autoImplicit false

namespace CommandGrammar.Program

/-- The bytes of a line: its encoding in UTF-8. -/
def encode (line : String) : List UInt8 :=
  line.toUTF8.data.toList

/-- The bytes are those of the lines, each of them followed by a line feed that may have a carriage return
in front. -/
inductive Ended : List String → List UInt8 → Prop where
  | nil : Ended [] []
  | cons (line : String) {lines : List String} {front bytes : List UInt8} :
      front = [] ∨ front = [carriageReturn] → Ended lines bytes →
      Ended (line :: lines) (encode line ++ front ++ lineFeed :: bytes)

/-- The bytes are those of the lines, one after the other. The last line may stand without an end, unless it
is empty. -/
inductive Feeds : List String → List UInt8 → Prop where
  | ended {lines : List String} {bytes : List UInt8} : Ended lines bytes → Feeds lines bytes
  | unended {lines : List String} {last : String} {bytes : List UInt8} :
      Ended lines bytes → last ≠ "" → Feeds (lines ++ [last]) (bytes ++ encode last)

/-- What may be read where a line was written. -/
inductive ReadAs (line : String) : Option String → Prop where
  | same : ReadAs line (some line)
  /-- A carriage return at the end of the line is taken for a part of its end. -/
  | shorter {text : String} : line = text ++ "\r" → ReadAs line (some text)

/-! ## Bytes of a text -/

/-- The bytes of a text are those of its characters. -/
theorem encode_eq (line : String) : encode line = line.toList.flatMap String.utf8EncodeChar := by
  unfold encode
  conv => lhs; rw [← String.ofList_toList (s := line)]
  rw [String.toUTF8_eq_toByteArray, String.toByteArray_ofList, List.utf8Encode,
    List.toList_data_toByteArray]

theorem encode_append (first second : String) : encode (first ++ second) = encode first ++ encode second := by
  rw [encode_eq, encode_eq, encode_eq, String.toList_append, List.flatMap_append]

/-- The bytes of a text are read as this text. -/
theorem fromUTF8?_encode (line : String) : String.fromUTF8? ⟨(encode line).toArray⟩ = some line := by
  have bytes : (⟨(encode line).toArray⟩ : ByteArray) = line.toByteArray := rfl
  rw [bytes, String.fromUTF8?, dif_pos line.isValidUTF8]
  rfl

/-- A text that is not empty has bytes. -/
theorem encode_ne_nil {line : String} (some_ : line ≠ "") : encode line ≠ [] := by
  intro none_
  have read := fromUTF8?_encode line
  rw [none_] at read
  exact some_ (Option.some.inj (read.symm.trans (fromUTF8?_encode "")))

/-- A byte below 128 is part of the encoding of one character only, which is encoded by it alone. -/
theorem utf8EncodeChar_of_mem {c : Char} {byte : UInt8} (ascii : byte.toNat < 128)
    (member : byte ∈ String.utf8EncodeChar c) :
    c.toNat = byte.toNat ∧ String.utf8EncodeChar c = [byte] := by
  simp only [String.utf8EncodeChar] at member ⊢
  split at member
  next small =>
    obtain rfl := List.mem_singleton.mp member
    refine ⟨?_, if_pos small⟩
    rw [UInt8.toNat_ofNat']
    exact (Nat.mod_eq_of_lt (Nat.lt_of_le_of_lt small (by decide))).symm
  · -- Each byte of a longer encoding has its highest bit set.
    exfalso
    split at member
    · simp only [List.mem_cons, List.not_mem_nil, or_false] at member
      rcases member with rfl | rfl <;> (rw [UInt8.toNat_ofNat'] at ascii; omega)
    · split at member
      · simp only [List.mem_cons, List.not_mem_nil, or_false] at member
        rcases member with rfl | rfl | rfl <;> (rw [UInt8.toNat_ofNat'] at ascii; omega)
      · simp only [List.mem_cons, List.not_mem_nil, or_false] at member
        rcases member with rfl | rfl | rfl | rfl <;> (rw [UInt8.toNat_ofNat'] at ascii; omega)

/-- There is no line feed among the bytes of a text that has none. -/
theorem lineFeed_not_mem_encode {line : String} (unbroken : '\n' ∉ line.toList) :
    lineFeed ∉ encode line := by
  rw [encode_eq]
  intro member
  obtain ⟨c, listed, member⟩ := List.mem_flatMap.mp member
  have same : c.toNat = '\n'.toNat := (utf8EncodeChar_of_mem (by decide) member).1
  exact unbroken (Char.toNat_inj.mp same ▸ listed)

/-- A text whose bytes end with a carriage return ends with one. -/
theorem exists_of_getLast?_encode {line : String}
    (last : (encode line).getLast? = some carriageReturn) :
    ∃ text, line = text ++ "\r" ∧ (encode line).dropLast = encode text := by
  obtain ⟨before, c, rfl⟩ : ∃ before c, line = before ++ String.singleton c := by
    rcases List.eq_nil_or_concat' line.toList with none_ | ⟨before, c, split⟩
    · rw [encode_eq, none_] at last
      cases last
    · exact ⟨String.ofList before, c, by simp [← String.toList_inj, split]⟩
  have single : encode (String.singleton c) = String.utf8EncodeChar c := by
    rw [encode_eq, String.toList_singleton, List.flatMap_singleton]
  rw [encode_append, single, List.getLast?_append_of_ne_nil _ String.utf8EncodeChar_ne_nil] at last
  obtain ⟨number, alone⟩ := utf8EncodeChar_of_mem (by decide) (List.mem_of_getLast? last)
  have same : c = '\r' := Char.toNat_inj.mp (number : c.toNat = '\r'.toNat)
  refine ⟨before, by rw [same]; rfl, ?_⟩
  rw [encode_append, single, alone, List.dropLast_concat]

/-! ## Lines of an input -/

/-- A line of the input goes up to the first line feed. -/
theorem rawLines_append_cons {body : List UInt8} (unbroken : lineFeed ∉ body) (rest : List UInt8) :
    rawLines (body ++ lineFeed :: rest) = (body ++ [lineFeed]) :: rawLines rest := by
  induction body with
  | nil => simp [rawLines]
  | cons byte body ih =>
    obtain ⟨other, behind⟩ : lineFeed ≠ byte ∧ lineFeed ∉ body := by simpa using unbroken
    simp only [List.cons_append, rawLines, if_neg (Ne.symm other), ih behind]

/-- Without a line feed all of the input is one line, if there is anything. -/
theorem rawLines_of_not_mem {body : List UInt8} (some_ : body ≠ []) (unbroken : lineFeed ∉ body) :
    rawLines body = [body] := by
  induction body with
  | nil => exact absurd rfl some_
  | cons byte body ih =>
    obtain ⟨other, behind⟩ : lineFeed ≠ byte ∧ lineFeed ∉ body := by simpa using unbroken
    rw [rawLines, if_neg (Ne.symm other)]
    by_cases last : body = []
    · rw [last, rawLines]
    · rw [ih last behind]

/-- The end of a line is taken off, together with a carriage return in front of it. -/
theorem withoutEnd_concat (body : List UInt8) : withoutEnd (body ++ [lineFeed]) =
    if body.getLast? = some carriageReturn then body.dropLast else body := by
  simp [withoutEnd]

/-- A line without an end is left as it is. -/
theorem withoutEnd_of_not_mem {body : List UInt8} (unbroken : lineFeed ∉ body) :
    withoutEnd body = body :=
  if_neg fun last => unbroken (List.mem_of_getLast? last)

/-- A line that was written with its end is read back. -/
theorem readAs_lineText? {line : String} {front : List UInt8}
    (ends : front = [] ∨ front = [carriageReturn]) :
    ReadAs line (lineText? (encode line ++ front ++ [lineFeed])) := by
  rw [lineText?, withoutEnd_concat]
  rcases ends with rfl | rfl
  · rw [List.append_nil]
    split
    next last =>
      obtain ⟨text, shorter, bytes⟩ := exists_of_getLast?_encode last
      rw [bytes, fromUTF8?_encode]
      exact .shorter shorter
    · rw [fromUTF8?_encode]
      exact .same
  · rw [if_pos List.getLast?_concat, List.dropLast_concat, fromUTF8?_encode]
    exact .same

/-- Lines that were written with their ends are read back one by one, whatever follows them. -/
theorem Ended.inputLines_append {lines : List String} {bytes : List UInt8} (ended : Ended lines bytes)
    (unbroken : ∀ line ∈ lines, '\n' ∉ line.toList) :
    ∃ texts, List.Forall₂ ReadAs lines texts ∧
      ∀ rest, inputLines (bytes ++ rest) = texts ++ inputLines rest := by
  induction ended with
  | nil => exact ⟨[], .nil, fun _ => rfl⟩
  | @cons line lines front bytes ends _ ih =>
    obtain ⟨here, behind⟩ := List.forall_mem_cons.mp unbroken
    obtain ⟨texts, readAs, reads⟩ := ih behind
    have clear : lineFeed ∉ encode line ++ front := by
      rw [List.mem_append, not_or]
      refine ⟨lineFeed_not_mem_encode here, ?_⟩
      rcases ends with rfl | rfl <;> decide
    refine ⟨_, .cons (readAs_lineText? ends) readAs, fun rest => ?_⟩
    rw [List.append_assoc _ _ rest, List.cons_append, inputLines, rawLines_append_cons clear,
      List.map_cons, ← inputLines, reads]
    rfl

/-- Lines that were written are read back one by one. -/
theorem Feeds.inputLines_eq {lines : List String} {bytes : List UInt8} (feeds : Feeds lines bytes)
    (unbroken : ∀ line ∈ lines, '\n' ∉ line.toList) :
    List.Forall₂ ReadAs lines (inputLines bytes) := by
  cases feeds with
  | ended ended =>
    obtain ⟨texts, readAs, reads⟩ := ended.inputLines_append unbroken
    have all := reads []
    rw [List.append_nil] at all
    rwa [all, inputLines, rawLines, List.map_nil, List.append_nil]
  | @unended lines last bytes ended some_ =>
    obtain ⟨before, at_last⟩ := List.forall_mem_append.mp unbroken
    obtain ⟨texts, readAs, reads⟩ := ended.inputLines_append before
    have clear : lineFeed ∉ encode last :=
      lineFeed_not_mem_encode (at_last last (List.mem_singleton_self last))
    rw [reads, inputLines, rawLines_of_not_mem (encode_ne_nil some_) clear, List.map_singleton,
      lineText?, withoutEnd_of_not_mem clear, fromUTF8?_encode]
    exact List.rel_append readAs (.cons .same .nil)

end CommandGrammar.Program
