import SourceAttest.Base16
import SourceAttest.Bytecode.Basic
import SourceAttest.Cbor.Reader

/-!
# The trailer of a code

A compiler appends to the code a CBOR map that describes the compilation, and then the number of
bytes of that map as four hexadecimal digits. The map is the auxiliary data of the code; the code
without map and length is the trimmed code.
-/
namespace SourceAttest.Bytecode

/-- Where the map lies among the digits of a code: from the first offset up to the second. -/
def mapBounds? (code : List Char) : Option (Nat × Nat) :=
  if code.length < 4 then none
  else
    let stop := code.length - 4
    match Base16.readInt? (String.ofList (code.drop stop)) with
    | none => none
    | some length =>
      if 0 < length ∧ 2 * length.toNat ≤ stop then some (stop - 2 * length.toNat, stop) else none

def mapBetween? (code : List Char) (start stop : Nat) : Option (List (Cbor.Item × Cbor.Item)) :=
  (Base16.decode? ((code.take stop).drop start)).bind Cbor.decodeMap?

/-- The code before its trailer, and the map in the trailer. -/
structure Trailer where
  start : Nat
  entries : List (Cbor.Item × Cbor.Item)
deriving Repr

/-- The trailer of the digits of a code, if there is a well-formed one. -/
def trailer? (code : List Char) : Option Trailer :=
  (mapBounds? code).bind fun (start, stop) =>
    (mapBetween? code start stop).map fun entries => ⟨start, entries⟩

def auxdata? (code : String) : Option (List (Cbor.Item × Cbor.Item)) :=
  (trailer? (digits code.toList)).map Trailer.entries

/-- The code without its trailer. A code without a well-formed trailer stays as it is. -/
def trim (code : String) : String :=
  match trailer? (digits code.toList) with
  | none => code
  | some trailer =>
    String.ofList (marker code.toList ++ (digits code.toList).take trailer.start)

/-- The auxiliary data of a value that should be a code. A value that counts as absent has none. -/
def auxdataOf : Json → Except ShapeFault (Option (List (Cbor.Item × Cbor.Item)))
  | .string code => .ok (auxdata? code)
  | .unpaired code => .ok (auxdata? code.shown)
  | other => if other.isTruthy then .error (.noOperation other.kindName "startswith") else .ok none

/-- A value that should be a code, without its trailer. -/
def trimValue : Json → Except ShapeFault Json
  | .string code => .ok (.string (trim code))
  | .unpaired code => .ok (.string (trim code.shown))
  | other => (auxdataOf other).map fun _ => other

end SourceAttest.Bytecode
