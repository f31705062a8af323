import SourceAttest.Fault.Shape
import SourceAttest.Text.Blank
import SourceAttest.Text.Lowercase

/-!
# Bytecode as text

Bytecode is hexadecimal text, with or without the marker `0x`. Before codes are compared they are
brought into one form: trimmed, in lower case, with the marker.
-/
namespace SourceAttest.Bytecode

/-- The digits behind the marker, if there is one. -/
def digits : List Char → List Char
  | '0' :: 'x' :: rest => rest
  | code => code

/-- The marker of a code, if it has one. -/
def marker : List Char → List Char
  | '0' :: 'x' :: _ => ['0', 'x']
  | _ => []

/-- Put the marker in front unless it is there. -/
def withMarker : List Char → List Char
  | '0' :: 'x' :: rest => '0' :: 'x' :: rest
  | code => '0' :: 'x' :: code

def normalize (text : String) : String :=
  String.ofList (withMarker (Text.lower (Text.strip text)).toList)

/-- The code that a value is, if it is one; only null says that there is none. -/
def ofJson : Json → Except ShapeFault (Option String)
  | .null => .ok none
  | .string text => .ok (some text)
  | .unpaired text => .ok (some text.shown)
  | other => .error (.noOperation other.kindName "strip")

theorem marker_append_digits (code : List Char) : marker code ++ digits code = code := by
  unfold marker digits
  split <;> simp_all

end SourceAttest.Bytecode
