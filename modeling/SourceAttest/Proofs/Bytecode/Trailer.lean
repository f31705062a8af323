import SourceAttest.Bytecode.Trailer
import SourceAttest.Proofs.Base16
import SourceAttest.Proofs.Cbor.Encoding

/-!
# Codes with a trailer

A code in low digits, followed by a well-formed trailer, is taken apart exactly where it was put
together. The main results are `trailer?_append`, from which everything about such codes follows,
and `auxdata_and_trim_of_encodeMap`, the round trip of a written map through the end of a code.
-/
namespace SourceAttest.Bytecode

open Base16 (IsLow isLowDigit)

/-- A well-formed trailer: a byte string that starts with a map, of at most as many bytes as four
digits can count. -/
structure TrailerText where
  blob : List UInt8
  entries : List (Cbor.Item × Cbor.Item)
  reads : Cbor.decodeMap? blob = some entries
  fits : blob.length ≤ 65535

namespace TrailerText

/-- The digits of a trailer: those of the byte string, then the number of its bytes. -/
def digits (trailer : TrailerText) : List Char :=
  Base16.encode trailer.blob ++ Base16.fixed 4 trailer.blob.length

def text (trailer : TrailerText) : String := String.ofList trailer.digits

theorem isLow (trailer : TrailerText) : IsLow trailer.digits :=
  (Base16.isLow_encode _).append (Base16.isLow_fixed _ _)

theorem length_digits (trailer : TrailerText) :
    trailer.digits.length = 2 * trailer.blob.length + 4 := by
  rw [digits, List.length_append, Base16.length_encode, Base16.length_fixed]

theorem blob_pos (trailer : TrailerText) : 0 < trailer.blob.length := by
  have reads := trailer.reads
  cases bytes : trailer.blob with
  | nil => rw [bytes] at reads; exact absurd reads (by simp [Cbor.decodeMap?])
  | cons first rest => simp

end TrailerText

/-! ### Markers -/

/-- A code without an `x` has no marker. -/
theorem digits_of_unmarked {cs : List Char} (unmarked : 'x' ∉ cs) : digits cs = cs ∧ marker cs = [] := by
  unfold digits marker
  split
  · exact absurd (by simp) unmarked
  · exact ⟨rfl, rfl⟩

theorem digits_of_low {cs : List Char} (low : IsLow cs) : digits cs = cs ∧ marker cs = [] := by
  apply digits_of_unmarked
  intro member
  exact absurd (low 'x' member) (by decide)

theorem plain_of_low {c : Char} (low : isLowDigit c = true) :
    Text.isBlank c = false ∧ c.toNat < 128 ∧ c.toLower = c := by
  have range := Base16.isLowDigit_cases low
  have value : c.val.toNat = c.toNat := rfl
  refine ⟨?_, by omega, ?_⟩
  · rw [Text.isBlank, Base16.isNarrowBlank_of_low low]
    simp only [Text.isWideBlank, Bool.false_or, Bool.or_eq_false_iff, Bool.and_eq_false_iff,
      decide_eq_false_iff_not]
    omega
  · refine dif_neg fun capital => ?_
    have bottom : 65 ≤ c.toNat := UInt32.le_iff_toNat_le.mp capital.1
    have top : c.toNat ≤ 90 := UInt32.le_iff_toNat_le.mp capital.2
    omega

/-- Codes in low digits behind a marker are in the form in which codes are compared. -/
theorem normalize_marked {cs : List Char} (low : IsLow cs) :
    normalize (String.ofList ('0' :: 'x' :: cs)) = String.ofList ('0' :: 'x' :: cs) := by
  -- Neither trimming nor lowering finds anything to change.
  have plain : ∀ c ∈ '0' :: 'x' :: cs, Text.isBlank c = false ∧ c.toNat < 128 ∧ c.toLower = c := by
    intro c member
    rcases List.mem_cons.mp member with rfl | member
    · decide
    rcases List.mem_cons.mp member with rfl | member
    · decide
    exact plain_of_low (low c member)
  have stripped : Text.strip (String.ofList ('0' :: 'x' :: cs)) = String.ofList ('0' :: 'x' :: cs) := by
    rw [Text.strip, String.toList_ofList, Text.trimBoth_of_forall fun c member => (plain c member).1]
  have lowered : Text.lower (String.ofList ('0' :: 'x' :: cs)) = String.ofList ('0' :: 'x' :: cs) := by
    rw [Text.lower, String.toList_ofList,
      Text.lowerFrom_ascii _ _ fun c member => (plain c member).2.1,
      List.map_congr_left fun c member => (plain c member).2.2, List.map_id']
  rw [normalize, stripped, lowered, String.toList_ofList]
  rfl

/-! ### Taking a code apart -/

theorem mapBounds?_append (code : List Char) (blob : List UInt8) (filled : 0 < blob.length)
    (fits : blob.length ≤ 65535) :
    mapBounds? (code ++ (Base16.encode blob ++ Base16.fixed 4 blob.length))
      = some (code.length, code.length + 2 * blob.length) := by
  -- The last four digits count the bytes of the map, and so tell where it starts.
  have counted : Base16.readInt? (String.ofList (Base16.fixed 4 blob.length))
      = some (blob.length : Int) := by
    rw [Base16.readInt?_fixed, Nat.mod_eq_of_lt (by omega)]
  have size : (code ++ (Base16.encode blob ++ Base16.fixed 4 blob.length)).length
      = code.length + 2 * blob.length + 4 := by
    rw [List.length_append, List.length_append, Base16.length_encode, Base16.length_fixed]
    omega
  have stop : code.length + 2 * blob.length + 4 - 4
      = (code ++ Base16.encode blob).length := by
    rw [List.length_append, Base16.length_encode]
    omega
  rw [mapBounds?, if_neg (by omega)]
  simp only [size]
  rw [stop, ← List.append_assoc, List.drop_left, counted]
  -- The count fits into what stands before it.
  have room : 0 < (blob.length : Int) ∧ 2 * (blob.length : Int).toNat
      ≤ (code ++ Base16.encode blob).length := by
    rw [List.length_append, Base16.length_encode]
    omega
  refine (if_pos room).trans (congrArg some (Prod.ext ?_ ?_))
  · rw [Int.toNat_natCast, List.length_append, Base16.length_encode]
    exact Nat.add_sub_cancel ..
  · rw [List.length_append, Base16.length_encode]

theorem mapBetween?_append (code : List Char) (trailer : TrailerText) :
    mapBetween? (code ++ trailer.digits) code.length (code.length + 2 * trailer.blob.length)
      = some trailer.entries := by
  have stop : code.length + 2 * trailer.blob.length
      = (code ++ Base16.encode trailer.blob).length := by
    rw [List.length_append, Base16.length_encode]
  -- Cutting at both bounds leaves the digits of the map.
  rw [mapBetween?, TrailerText.digits, ← List.append_assoc, stop, List.take_left, List.drop_left,
    Base16.decode?_encode, Option.bind_some, trailer.reads]

/-- A code with a well-formed trailer is taken apart where it was put together. -/
theorem trailer?_append (code : List Char) (trailer : TrailerText) :
    trailer? (code ++ trailer.digits) = some ⟨code.length, trailer.entries⟩ := by
  have bounds := mapBounds?_append code trailer.blob trailer.blob_pos trailer.fits
  have between := mapBetween?_append code trailer
  rw [TrailerText.digits] at between ⊢
  rw [trailer?, bounds, Option.bind_some]
  simp only [between, Option.map_some]

theorem append_digits_inj {code other : List Char} {first second : TrailerText}
    (same : code ++ first.digits = other ++ second.digits) :
    code = other ∧ first.digits = second.digits := by
  -- Both ways are taken apart at the same place.
  have parts := trailer?_append code first
  rw [same, trailer?_append, Option.some.injEq, Trailer.mk.injEq] at parts
  exact List.append_inj same parts.1.symm

/-- The auxiliary data and the trimmed form of a code with a marker. -/
theorem auxdata_and_trim_marked (code : List Char) (trailer : TrailerText) :
    auxdata? (String.ofList ('0' :: 'x' :: (code ++ trailer.digits))) = some trailer.entries ∧
    trim (String.ofList ('0' :: 'x' :: (code ++ trailer.digits)))
      = String.ofList ('0' :: 'x' :: code) := by
  have apart : trailer? (digits ('0' :: 'x' :: (code ++ trailer.digits)))
      = some ⟨code.length, trailer.entries⟩ := trailer?_append code trailer
  constructor
  · rw [auxdata?, String.toList_ofList, apart, Option.map_some]
  · rw [trim, String.toList_ofList, apart]
    simp only [marker, digits, List.take_left, List.cons_append, List.nil_append]

/-- The auxiliary data and the trimmed form of a code without a marker. -/
theorem auxdata_and_trim_plain {code : List Char} (low : IsLow code) (trailer : TrailerText) :
    auxdata? (String.ofList (code ++ trailer.digits)) = some trailer.entries ∧
    trim (String.ofList (code ++ trailer.digits)) = String.ofList code := by
  obtain ⟨plain, unmarked⟩ := digits_of_low (low.append trailer.isLow)
  constructor
  · rw [auxdata?, String.toList_ofList, plain, trailer?_append, Option.map_some]
  · rw [trim, String.toList_ofList, plain, trailer?_append]
    simp only [unmarked, List.take_left, List.nil_append]

/-! ### Written maps -/

def TrailerText.ofMap (entries : List (String × Cbor.Value)) (distinct : (entries.map Prod.fst).Nodup)
    (fits : (Cbor.encodeMap entries).length ≤ 65535) : TrailerText where
  blob := Cbor.encodeMap entries
  entries := entries.map Cbor.entryItems
  reads := by
    have read := Cbor.decodeMap?_encodeMap entries [] distinct (by omega)
    rwa [List.append_nil] at read
  fits := fits

/-- A map that is written at the end of a code, with or without a marker, is its auxiliary data, and
what stands before it is the trimmed code. -/
theorem auxdata_and_trim_of_encodeMap (code : String) (low : IsLow code.toList)
    (entries : List (String × Cbor.Value)) (distinct : (entries.map Prod.fst).Nodup)
    (fits : (Cbor.encodeMap entries).length ≤ 65535) :
    let blob := Cbor.encodeMap entries
    let tail := String.ofList (Base16.encode blob ++ Base16.fixed 4 blob.length)
    auxdata? ("0x" ++ code ++ tail) = some (entries.map Cbor.entryItems) ∧
    trim ("0x" ++ code ++ tail) = "0x" ++ code ∧
    auxdata? (code ++ tail) = some (entries.map Cbor.entryItems) ∧
    trim (code ++ tail) = code := by
  intro blob tail
  let trailer := TrailerText.ofMap entries distinct fits
  -- Both texts are a code with a trailer, as lists of characters.
  have marked : "0x" ++ code ++ tail
      = String.ofList ('0' :: 'x' :: (code.toList ++ trailer.digits)) :=
    String.toList_inj.mp (by simp [tail, trailer, TrailerText.digits, TrailerText.ofMap, blob])
  have plain : code ++ tail = String.ofList (code.toList ++ trailer.digits) :=
    String.toList_inj.mp (by simp [tail, trailer, TrailerText.digits, TrailerText.ofMap, blob])
  have bare : String.ofList ('0' :: 'x' :: code.toList) = "0x" ++ code :=
    String.toList_inj.mp (by simp)
  obtain ⟨markedMap, markedTrim⟩ := auxdata_and_trim_marked code.toList trailer
  obtain ⟨plainMap, plainTrim⟩ := auxdata_and_trim_plain low trailer
  rw [marked, plain]
  exact ⟨markedMap, markedTrim.trans bare, plainMap, plainTrim.trans String.ofList_toList⟩

/-- A map with a value of each kind, one of them as long as a one-byte length begins to matter and
one number beyond eight bytes, behind a code of an odd number of digits. -/
theorem auxdata_and_trim_of_four_kinds :
    let entries : List (String × Cbor.Value) := [("ipfs", .bytes (List.replicate 24 7)),
      ("solc", .text "0.8"), ("n", .nat (2 ^ 64)), ("experimental", .bool true)]
    let code := "60806"
    let blob := Cbor.encodeMap entries
    let tail := String.ofList (Base16.encode blob ++ Base16.fixed 4 blob.length)
    IsLow code.toList ∧ (entries.map Prod.fst).Nodup ∧ blob.length ≤ 65535 ∧
    auxdata? ("0x" ++ code ++ tail) = some (entries.map Cbor.entryItems) ∧
    trim ("0x" ++ code ++ tail) = "0x60806" := by
  intro entries code blob tail
  have low : IsLow code.toList := by decide
  have distinct : (entries.map Prod.fst).Nodup := by decide
  have fits : blob.length ≤ 65535 := by decide +kernel
  obtain ⟨map, trimmed, _⟩ := auxdata_and_trim_of_encodeMap code low entries distinct fits
  exact ⟨low, distinct, fits, map, trimmed⟩

end SourceAttest.Bytecode
