import SourceAttest.Bytecode.ContentHash
import SourceAttest.Proofs.Bytecode.Normal
import SourceAttest.Proofs.Bytecode.Trailer

/-!
# What counts as a trailer

Codes are taken apart only where they were put together: low digits that are read as a code with a
trailer are the digits of a code, of a byte string that starts with a map, and of the number of its
bytes (`trailer?_eq_some_iff`). The main result is `trailers_accepted_exactly`, for codes with a marker
and without.
-/
namespace SourceAttest.Bytecode

open Base16 (IsLow)

namespace TrailerText

theorem toList_text (trailer : TrailerText) : trailer.text.toList = trailer.digits := by
  rw [text, String.toList_ofList]

theorem isLow_text (trailer : TrailerText) : IsLow trailer.text.toList := by
  rw [toList_text]
  exact trailer.isLow

theorem length_text (trailer : TrailerText) :
    trailer.text.length = 2 * trailer.blob.length + 4 := by
  rw [← String.length_toList, toList_text, length_digits]

theorem eq_of_blob {first second : TrailerText} (same : first.blob = second.blob) :
    first = second := by
  obtain ⟨blob, entries, reads, fits⟩ := first
  obtain ⟨blob', entries', reads', fits'⟩ := second
  obtain rfl : blob = blob' := same
  obtain rfl : entries = entries' := Option.some.inj (reads.symm.trans reads')
  rfl

theorem eq_of_digits {first second : TrailerText} (same : first.digits = second.digits) :
    first = second := by
  -- Trailers of the same length have byte strings of the same length.
  have sizes := congrArg List.length same
  rw [length_digits, length_digits] at sizes
  apply eq_of_blob
  apply Base16.encode_inj
  refine (List.append_inj same ?_).1
  rw [Base16.length_encode, Base16.length_encode]
  omega

end TrailerText

/-! ### What is taken apart was put together -/

theorem mapBounds?_of_low {cs : List Char} {start stop : Nat} (low : IsLow cs)
    (found : mapBounds? cs = some (start, stop)) :
    ∃ n ≤ 65535, stop = start + 2 * n ∧ cs.length = stop + 4 ∧ cs.drop stop = Base16.fixed 4 n := by
  rw [mapBounds?] at found
  split at found
  · cases found
  next long =>
    have size : (cs.drop (cs.length - 4)).length = 4 := by
      rw [List.length_drop]
      omega
    -- The last four digits are those of a number, and are read as that number.
    have lowEnd : IsLow (cs.drop (cs.length - 4)) := fun c member => low c (List.mem_of_mem_drop member)
    obtain ⟨n, bound, written⟩ := Base16.exists_fixed_of_low lowEnd
    rw [size] at bound written
    have counted := Base16.readInt?_fixed 3 n
    rw [Nat.mod_eq_of_lt bound, ← written] at counted
    dsimp only at found
    rw [counted] at found
    dsimp only at found
    split at found
    next fits =>
      rw [Int.toNat_natCast] at found fits
      cases found
      exact ⟨n, Nat.le_of_lt_succ bound, by omega, by omega, written⟩
    · cases found

/-- Low digits that are taken apart are a code with a well-formed trailer behind it. -/
theorem eq_append_of_trailer? {cs : List Char} {found : Trailer} (low : IsLow cs)
    (apart : trailer? cs = some found) :
    ∃ (code : List Char) (trailer : TrailerText), cs = code ++ trailer.digits := by
  obtain ⟨⟨start, stop⟩, bounds, between⟩ := Option.bind_eq_some_iff.mp apart
  obtain ⟨entries, mapped, -⟩ := Option.map_eq_some_iff.mp between
  obtain ⟨blob, read, map⟩ := Option.bind_eq_some_iff.mp mapped
  obtain ⟨n, fits, rfl, size, count⟩ := mapBounds?_of_low low bounds
  -- The digits between the bounds are those of the byte string, and so count its bytes.
  have written : Base16.encode blob = (cs.take (start + 2 * n)).drop start :=
    Base16.encode_of_decode?
      (fun c member => low c (List.mem_of_mem_take (List.mem_of_mem_drop member))) read
  have length : blob.length = n := by
    have digits := congrArg List.length written
    rw [Base16.length_encode, List.length_drop, List.length_take] at digits
    omega
  refine ⟨cs.take start, ⟨blob, entries, map, by omega⟩, ?_⟩
  have before : cs.take start = (cs.take (start + 2 * n)).take start := by
    rw [List.take_take, Nat.min_eq_left (by omega)]
  rw [TrailerText.digits, written, length, ← count, ← List.append_assoc, before,
    List.take_append_drop, List.take_append_drop]

theorem trailer?_eq_some_iff {cs : List Char} {found : Trailer} (low : IsLow cs) :
    trailer? cs = some found ↔
      ∃ (code : List Char) (trailer : TrailerText),
        cs = code ++ trailer.digits ∧ found = ⟨code.length, trailer.entries⟩ := by
  constructor
  · intro apart
    obtain ⟨code, trailer, rfl⟩ := eq_append_of_trailer? low apart
    rw [trailer?_append, Option.some.injEq] at apart
    exact ⟨code, trailer, rfl, apart.symm⟩
  · rintro ⟨code, trailer, rfl, rfl⟩
    exact trailer?_append code trailer

/-! ### With a marker and without -/

theorem hex_of_low {code : String} (low : IsLow code.toList) : ∀ c ∈ code.toList, IsHexDigit c := by
  intro c member
  obtain ⟨n, -, -, value⟩ := Base16.exists_digit_of_low (low c member)
  rw [IsHexDigit, value]
  rfl

theorem low_of_append {code rest : String} (low : IsLow (code ++ rest).toList) :
    IsLow code.toList := by
  intro c member
  apply low
  rw [String.toList_append]
  exact List.mem_append_left _ member

section Marked

variable {pre code : String} (mark : pre = "" ∨ pre = "0x") (hex : ∀ c ∈ code.toList, IsHexDigit c)

include mark hex

theorem digits_and_marker_of_hex :
    digits (pre ++ code).toList = code.toList ∧ marker (pre ++ code).toList = pre.toList := by
  rcases mark with rfl | rfl
  · -- An `x` is no hexadecimal digit.
    have unmarked : 'x' ∉ code.toList := by
      intro member
      have digit : (Base16.digitValue? 'x').isSome = true := hex 'x' member
      exact absurd digit (by decide)
    rw [String.empty_append]
    exact digits_of_unmarked unmarked
  · rw [String.toList_append]
    exact ⟨rfl, rfl⟩

theorem auxdata?_of_hex : auxdata? (pre ++ code) = (trailer? code.toList).map Trailer.entries := by
  rw [auxdata?, (digits_and_marker_of_hex mark hex).1]

theorem trim_of_hex :
    trim (pre ++ code) = match trailer? code.toList with
      | none => pre ++ code
      | some trailer => pre ++ String.ofList (code.toList.take trailer.start) := by
  obtain ⟨plain, marked⟩ := digits_and_marker_of_hex mark hex
  rw [trim, plain, marked]
  cases trailer? code.toList with
  | none => rfl
  | some trailer =>
    dsimp only
    rw [String.ofList_append, String.ofList_toList]

end Marked

/-- The end of a text of low digits is put together in at most one way. -/
theorem append_text_inj {code other : String} {first second : TrailerText}
    (same : code ++ first.text = other ++ second.text) : code = other ∧ first = second := by
  have characters := congrArg String.toList same
  simp only [String.toList_append, TrailerText.toList_text] at characters
  obtain ⟨codes, trailers⟩ := append_digits_inj characters
  exact ⟨String.toList_inj.mp codes, TrailerText.eq_of_digits trailers⟩

section Trailed

variable {pre code : String} (mark : pre = "" ∨ pre = "0x") (hex : ∀ c ∈ code.toList, IsHexDigit c)
  (trailer : TrailerText)

include mark hex

/-- What stands before a trailer is left when it is trimmed, and has no influence on the rest. -/
theorem auxdata_and_trim_of_hex :
    auxdata? (pre ++ (code ++ trailer.text)) = some trailer.entries ∧
    trim (pre ++ (code ++ trailer.text)) = pre ++ code := by
  have characters : (code ++ trailer.text).toList = code.toList ++ trailer.digits := by
    rw [String.toList_append, trailer.toList_text]
  have whole : ∀ c ∈ (code ++ trailer.text).toList, IsHexDigit c := by
    intro c member
    rw [String.toList_append] at member
    rcases List.mem_append.mp member with before | behind
    · exact hex c before
    · exact hex_of_low trailer.isLow_text c behind
  constructor
  · rw [auxdata?_of_hex mark whole, characters, trailer?_append]
    rfl
  · rw [trim_of_hex mark whole, characters, trailer?_append]
    dsimp only
    rw [List.take_left, String.ofList_toList]

end Trailed

/-- A code in low digits has auxiliary data exactly if it ends in a well-formed trailer. It ends in only
one; the map of that trailer is the auxiliary data, what stands before it is the trimmed code, and other
digits in that place change neither the map nor the place of the document that it publishes. A code
without auxiliary data is not changed by trimming. -/
theorem trailers_accepted_exactly {pre code : String} (mark : pre = "" ∨ pre = "0x")
    (low : IsLow code.toList) :
    ((auxdata? (pre ++ code)).isSome = true ↔
      ∃ (body : String) (trailer : TrailerText), code = body ++ trailer.text) ∧
    (∀ (body : String) (trailer : TrailerText), code = body ++ trailer.text →
      (∀ (body' : String) (trailer' : TrailerText), code = body' ++ trailer'.text →
        body' = body ∧ trailer' = trailer) ∧
      auxdata? (pre ++ code) = some trailer.entries ∧
      trim (pre ++ code) = pre ++ body ∧
      ∀ other : String, (∀ c ∈ other.toList, IsHexDigit c) →
        auxdata? (pre ++ (other ++ trailer.text)) = auxdata? (pre ++ code) ∧
        (ContentHash.ofCode? (pre ++ (other ++ trailer.text))).map ContentHash.path
          = (ContentHash.ofCode? (pre ++ code)).map ContentHash.path) ∧
    (auxdata? (pre ++ code) = none → trim (pre ++ code) = pre ++ code) := by
  have hex := hex_of_low low
  refine ⟨?_, ?_, ?_⟩
  · rw [auxdata?_of_hex mark hex, Option.isSome_map]
    constructor
    · intro accepted
      obtain ⟨found, apart⟩ := Option.isSome_iff_exists.mp accepted
      obtain ⟨body, trailer, written⟩ := eq_append_of_trailer? low apart
      refine ⟨String.ofList body, trailer, String.toList_inj.mp ?_⟩
      rw [written, String.toList_append, trailer.toList_text, String.toList_ofList]
    · rintro ⟨body, trailer, rfl⟩
      rw [String.toList_append, trailer.toList_text, trailer?_append]
      rfl
  · rintro body trailer rfl
    obtain ⟨map, trimmed⟩ := auxdata_and_trim_of_hex mark (hex_of_low (low_of_append low)) trailer
    refine ⟨fun body' trailer' same => ?_, map, trimmed, ?_⟩
    · exact append_text_inj same.symm
    · intro other hexOther
      -- With other digits in front the same map is read, and the place depends on the map alone.
      have same : auxdata? (pre ++ (other ++ trailer.text)) = auxdata? (pre ++ (body ++ trailer.text)) :=
        (auxdata_and_trim_of_hex mark hexOther trailer).1.trans map.symm
      refine ⟨same, ?_⟩
      rw [ContentHash.ofCode?, ContentHash.ofCode?, same]
  · intro absent
    rw [auxdata?_of_hex mark hex, Option.map_eq_none_iff] at absent
    rw [trim_of_hex mark hex, absent]

/-- A hash of one byte behind a code of two bytes, which is then replaced by one of three digits. -/
theorem trailers_accepted_exactly_of_hash :
    IsLow "6080a165627a7a723041010009".toList ∧
    auxdata? "0x6080a165627a7a723041010009" = some [(.text "bzzr0", .bytes [1])] ∧
    trim "0x6080a165627a7a723041010009" = "0x6080" ∧
    auxdata? "0xFF1a165627a7a723041010009" = some [(.text "bzzr0", .bytes [1])] ∧
    (ContentHash.ofCode? "0xFF1a165627a7a723041010009").map ContentHash.path
      = some "/swarm/bzzr0/01" := by
  let trailer : TrailerText := ⟨[0xa1, 0x65, 0x62, 0x7a, 0x7a, 0x72, 0x30, 0x41, 1],
    [(.text "bzzr0", .bytes [1])], by with_unfolding_all rfl, by decide⟩
  have low : IsLow "6080a165627a7a723041010009".toList := by decide
  have written : "6080a165627a7a723041010009" = "6080" ++ trailer.text := by decide
  have digits : "FF1".toList.all (fun c => (Base16.digitValue? c).isSome) = true := by decide
  have hex : ∀ c ∈ "FF1".toList, IsHexDigit c := List.all_eq_true.mp digits
  obtain ⟨-, ends, -⟩ := trailers_accepted_exactly (.inr rfl) low
  obtain ⟨-, map, trimmed, anyBefore⟩ := ends "6080" trailer written
  obtain ⟨sameMap, samePlace⟩ := anyBefore "FF1" hex
  have other : "0x" ++ ("FF1" ++ trailer.text) = "0xFF1a165627a7a723041010009" := by decide
  rw [other] at sameMap samePlace
  have place : (ContentHash.ofCode? ("0x" ++ "6080a165627a7a723041010009")).map ContentHash.path
      = some "/swarm/bzzr0/01" := by
    rw [ContentHash.ofCode?, map]
    with_unfolding_all rfl
  exact ⟨low, map, trimmed, sameMap.trans map, samePlace.trans place⟩

end SourceAttest.Bytecode
