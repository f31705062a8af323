import SourceAttest.Text.UpperTable

/-!
# Upper case

The full upper-case mapping of a text. Each character is raised by itself; some characters become
several.
-/
namespace SourceAttest.Text

/-- The upper-case form of a character, itself if it has none. -/
def upperChar (c : Char) : List Char :=
  if c.toNat < 128 then [c.toUpper]
  else
    match longUppers.lookup c.toNat with
    | some points => points.map Char.ofNat
    | none =>
      match raisingRuns.find? (·.covers c.toNat) with
      | some run => [Char.ofNat (Int.toNat (c.toNat + run.offset))]
      | none => [c]

def upper (text : String) : String := String.ofList (text.toList.flatMap upperChar)

theorem upperChar_ascii (c : Char) (h : c.toNat < 128) : upperChar c = [c.toUpper] := by
  simp [upperChar, h]

end SourceAttest.Text
