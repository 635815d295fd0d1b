/-!
# Tables of code points

A character class is a list of inclusive ranges of code points, and membership is a scan of the
list.
-/

set_option autoImplicit false

namespace CommandGrammar.Text

/-- Whether the character lies in one of the inclusive ranges. -/
def inRanges (ranges : List (Nat × Nat)) (c : Char) : Bool :=
  ranges.any fun range => range.1 ≤ c.toNat && c.toNat ≤ range.2

theorem inRanges_iff {ranges : List (Nat × Nat)} {c : Char} :
    inRanges ranges c = true ↔ ∃ range ∈ ranges, range.1 ≤ c.toNat ∧ c.toNat ≤ range.2 := by
  simp [inRanges]

end CommandGrammar.Text
