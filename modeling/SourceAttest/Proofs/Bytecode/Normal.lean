import SourceAttest.Bytecode.Basic
import SourceAttest.Proofs.Text.Lowercase

/-!
# Normal codes with digits behind them

A code in the form in which codes are compared has no blanks around it and nothing left to lower. The
main result is `normalize_append`: digits that are put behind such a code are only lowered.
-/
namespace SourceAttest

namespace Text

theorem trimBoth_of_ends {p : Char → Bool} {cs : List Char}
    (first : ∀ c, cs.head? = some c → p c = false) (last : ∀ c, cs.getLast? = some c → p c = false) :
    trimBoth p cs = cs := by
  have stays : ∀ ds : List Char, (∀ d, ds.head? = some d → p d = false) → ds.dropWhile p = ds := by
    intro ds shown
    cases ds with
    | nil => rfl
    | cons d rest => rw [List.dropWhile_cons, if_neg (by simp [shown d rfl])]
  rw [trimBoth, stays cs first, stays cs.reverse (by simpa using last), List.reverse_reverse]

theorem isBlank_getLast?_trimBoth {cs : List Char} {c : Char}
    (last : (trimBoth isBlank cs).getLast? = some c) : isBlank c = false := by
  rw [trimBoth, List.getLast?_reverse] at last
  have shown := List.head?_dropWhile_not isBlank (cs.dropWhile isBlank).reverse
  rw [last] at shown
  exact shown

end Text

namespace Bytecode

/-- A hexadecimal digit, small or capital. -/
def IsHexDigit (c : Char) : Prop := (Base16.digitValue? c).isSome = true

theorem plain_of_isHexDigit {c : Char} (hex : IsHexDigit c) :
    c.toNat < 128 ∧ Text.isBlank c = false := by
  have range : (48 ≤ c.toNat ∧ c.toNat ≤ 57) ∨ (97 ≤ c.toNat ∧ c.toNat ≤ 102) ∨
      (65 ≤ c.toNat ∧ c.toNat ≤ 70) := by
    grind [IsHexDigit, Base16.digitValue?]
  simp only [Text.isBlank, Text.isNarrowBlank, Text.isWideBlank, Bool.or_eq_false_iff,
    Bool.and_eq_false_iff, decide_eq_false_iff_not]
  omega

theorem withMarker_cases (cs : List Char) :
    (∃ rest, cs = '0' :: 'x' :: rest ∧ withMarker cs = cs) ∨ withMarker cs = '0' :: 'x' :: cs := by
  unfold withMarker
  split
  · exact .inl ⟨_, rfl, rfl⟩
  · exact .inr rfl

theorem toList_normalize (text : String) :
    ∃ rest, (normalize text).toList = '0' :: 'x' :: rest ∧
      ∀ c, rest.getLast? = some c → Text.isBlank c = false := by
  have shown (c : Char) (last : (Text.lower (Text.strip text)).toList.getLast? = some c) :
      Text.isBlank c = false := by
    rw [Text.lower, Text.strip, String.toList_ofList, String.toList_ofList] at last
    exact Text.isBlank_getLast?_lowerFrom (fun d => Text.isBlank_getLast?_trimBoth) last
  rw [normalize, String.toList_ofList]
  rcases withMarker_cases (Text.lower (Text.strip text)).toList with ⟨rest, starts, same⟩ | added
  · refine ⟨rest, same.trans starts, fun c last => shown c ?_⟩
    rw [starts, List.getLast?_cons, List.getLast?_cons, last]
    rfl
  · exact ⟨_, added, shown⟩

theorem isLowered_of_mem_normalize {text : String} {c : Char} (member : c ∈ (normalize text).toList) :
    Text.IsLowered c := by
  rw [normalize, String.toList_ofList] at member
  rcases withMarker_cases (Text.lower (Text.strip text)).toList with ⟨-, -, same⟩ | added
  · rw [same] at member
    exact Text.isLowered_of_mem_lower member
  · rw [added] at member
    rcases List.mem_cons.mp member with rfl | member
    · exact Text.isLowered_of_ascii (by decide) (by decide)
    rcases List.mem_cons.mp member with rfl | member
    · exact Text.isLowered_of_ascii (by decide) (by decide)
    · exact Text.isLowered_of_mem_lower member

theorem strip_normalize_append (text : String) {digits : String}
    (hex : ∀ c ∈ digits.toList, IsHexDigit c) :
    Text.strip (normalize text ++ digits) = normalize text ++ digits := by
  obtain ⟨rest, starts, shown⟩ := toList_normalize text
  rw [Text.strip, String.toList_append, starts, Text.trimBoth_of_ends, ← starts, ← String.toList_append,
    String.ofList_toList]
  · rintro c ⟨⟩
    decide
  · -- The last character is a digit, or that of the code, which the marker ends if nothing is behind it.
    intro c last
    rw [List.getLast?_append] at last
    cases final : digits.toList.getLast? with
    | some d =>
      rw [final] at last
      cases last
      exact (plain_of_isHexDigit (hex _ (List.mem_of_getLast? final))).2
    | none =>
      rw [final, Option.none_or] at last
      cases restLast : rest.getLast? with
      | none =>
        rw [List.getLast?_eq_none_iff.mp restLast] at last
        cases last
        decide
      | some d =>
        rw [List.getLast?_cons, List.getLast?_cons, restLast] at last
        cases last
        exact shown _ restLast

/-- Digits behind a normal code are lowered, and nothing else changes. -/
theorem normalize_append (text : String) {digits : String} (hex : ∀ c ∈ digits.toList, IsHexDigit c) :
    normalize (normalize text ++ digits) = normalize text ++ Text.lower digits := by
  obtain ⟨rest, starts, -⟩ := toList_normalize text
  have lowered : Text.lower (normalize text ++ digits) = normalize text ++ Text.lower digits :=
    Text.lower_append_of_lowered (fun c => isLowered_of_mem_normalize)
      fun c member => (plain_of_isHexDigit (hex c member)).1
  have marked : withMarker (normalize text ++ Text.lower digits).toList
      = (normalize text ++ Text.lower digits).toList := by
    rw [String.toList_append, starts]
    rfl
  rw [normalize, strip_normalize_append text hex, lowered, marked, String.ofList_toList]

end Bytecode

end SourceAttest
