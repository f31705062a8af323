/-!
# Character ranges

Classes of characters are lists of inclusive code point ranges. The tables of this library are
those of Unicode 14.
-/
namespace SourceAttest.Text

/-- Whether a code point falls into one of the inclusive ranges. -/
def inRanges (ranges : List (Nat × Nat)) (point : Nat) : Bool :=
  ranges.any fun range => range.1 ≤ point && point ≤ range.2

theorem inRanges_iff (ranges : List (Nat × Nat)) (point : Nat) :
    inRanges ranges point = true ↔ ∃ range ∈ ranges, range.1 ≤ point ∧ point ≤ range.2 := by
  simp [inRanges]

/-- What holds of the first 128 code points holds of all ASCII characters. -/
theorem of_ascii {holds : Char → Prop} (each : ∀ n < 128, holds (Char.ofNat n)) :
    ∀ c : Char, c.toNat < 128 → holds c := by
  intro c low
  have here := each c.toNat low
  rwa [Char.ofNat_toNat] at here

end SourceAttest.Text
