import SourceAttest.Text.Lowercase

/-!
# Letters that differ in case only

Two characters are the same letter when letter case is ignored if their folded forms are equal or
akin. Kinship joins letters that are written differently but share an upper-case form, such as the
two small sigmas.
-/
namespace SourceAttest.Pattern

/-- The folded form of a character: its lower-case partner, and for `İ` a plain `i`. -/
def foldCase (c : Char) : Char := if c = 'İ' then 'i' else Text.lowerSimple c

/-- Groups of folded letters that count as one. -/
def kinships : List (List Nat) := [
  [0x69, 0x131], [0x73, 0x17F], [0xB5, 0x3BC], [0x345, 0x3B9, 0x1FBE], [0x390, 0x1FD3],
  [0x3B0, 0x1FE3], [0x3B2, 0x3D0], [0x3B5, 0x3F5], [0x3B8, 0x3D1], [0x3BA, 0x3F0],
  [0x3C0, 0x3D6], [0x3C1, 0x3F1], [0x3C2, 0x3C3], [0x3C6, 0x3D5], [0x432, 0x1C80],
  [0x434, 0x1C81], [0x43E, 0x1C82], [0x441, 0x1C83], [0x442, 0x1C84, 0x1C85], [0x44A, 0x1C86],
  [0x463, 0x1C87], [0x1C88, 0xA64B], [0x1E61, 0x1E9B], [0xFB05, 0xFB06]]

/-- The folded letters that count as the given one. -/
def kin (folded : Char) : List Char :=
  match kinships.find? (·.contains folded.toNat) with
  | some group => group.map Char.ofNat
  | none => [folded]

/-- The letters above ASCII that a run takes to the given one. -/
def raisedBy (folded : Char) (run : Text.CaseRun) : Option Char :=
  let point := Int.toNat (folded.toNat - run.offset)
  if run.covers point then some (Char.ofNat point) else none

/-- All characters with the given folded form. -/
def unfolded (folded : Char) : List Char :=
  folded :: (if folded.isLower then [folded.toUpper] else []) ++
    (if folded = 'i' then ['İ'] else []) ++ Text.caseRuns.filterMap (raisedBy folded)

/-- All characters that count as the given one when letter case is ignored. -/
def caseForms (c : Char) : List Char := (kin (foldCase c)).flatMap unfolded

end SourceAttest.Pattern
