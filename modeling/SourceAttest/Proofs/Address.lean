import SourceAttest.Address
import SourceAttest.Proofs.Base16
import SourceAttest.Proofs.Repository.Records

/-!
# Checksummed addresses

A checksummed address is the marker and forty hexadecimal digits. It is an ordinary name of a path,
and it is the address itself if that has no letters.
-/
namespace SourceAttest

theorem Keccak.length_digest (message : List UInt8) : (digest message).length = 32 := by
  simp [digest, bytesOfWord, List.length_flatMap]

namespace Address

private theorem toLower_eq_slash {c : Char} (slash : c.toLower = '/') : c = '/' := by
  unfold Char.toLower at slash
  split_ifs at slash with upper
  · have code := congrArg (fun d : Char => d.val.toNat) slash
    have low := UInt32.le_iff_toNat_le.mp upper.1
    have high := UInt32.le_iff_toNat_le.mp upper.2
    simp at code low high
    omega
  · exact slash

private theorem toUpper_eq_slash {c : Char} (slash : c.toUpper = '/') : c = '/' := by
  unfold Char.toUpper at slash
  split_ifs at slash with lower
  · have code := congrArg (fun d : Char => d.val.toNat) slash
    have low := UInt32.le_iff_toNat_le.mp lower.1
    have high := UInt32.le_iff_toNat_le.mp lower.2
    simp at code low high
    omega
  · exact slash

private theorem slash_not_mem_checksumDigits {digits : List Char} (noSlash : '/' ∉ digits) :
    '/' ∉ checksumDigits digits := by
  -- Writing a digit as a capital does not make it a slash.
  have apart (c hashDigit : Char) (digit : c ≠ '/') : checksumDigit c hashDigit ≠ '/' := by
    unfold checksumDigit
    split_ifs
    · exact fun slash => digit (toUpper_eq_slash slash)
    · exact digit
  intro slash
  obtain ⟨index, bound, written⟩ := List.mem_iff_getElem.mp slash
  simp only [checksumDigits, List.getElem_zipWith] at written
  refine apart _ _ ?_ written
  intro same
  exact noSlash (same ▸ List.getElem_mem _)

/-- A checksummed address is an ordinary name of a path. -/
theorem isSegment_of_checksum {text address : String} (returned : checksum text = .ok address) :
    IsSegment address := by
  simp only [checksum] at returned
  split_ifs at returned with digits size
  cases returned
  have noSlash : '/' ∉ (unmarked text.toList).map Char.toLower := by
    intro slash
    obtain ⟨c, member, lowered⟩ := List.mem_map.mp slash
    rw [toLower_eq_slash lowered] at member
    simp only [allDigits, Bool.not_eq_true', Bool.not_eq_false, List.all_eq_true] at digits
    exact absurd (digits '/' member) (by decide)
  have rest := slash_not_mem_checksumDigits noSlash
  -- The marker alone is longer than a dot.
  have different (other : String) (short : other.toList.length < 2) :
      String.ofList ('0' :: 'x' :: checksumDigits ((unmarked text.toList).map Char.toLower)) ≠ other := by
    rintro rfl
    rw [String.toList_ofList, List.length_cons, List.length_cons] at short
    omega
  refine ⟨different "" (by decide), different "." (by decide), ?_, by simpa using rest⟩
  intro up
  simpa using congrArg (fun other : String => other.toList.head?) up

/-- The checksummed form of an address. -/
def checksummed (text : String) : String := (checksum text).toOption.getD text

theorem checksum_of_isAddress {text : String} (valid : isAddress text = true) :
    checksum text = .ok (checksummed text) := by
  simp only [isAddress, Bool.and_eq_true, decide_eq_true_eq] at valid
  have size : ((unmarked text.toList).map Char.toLower).length = 40 := by
    rw [List.length_map]
    exact valid.1
  rw [checksummed, checksum]
  simp only [valid.2, Bool.not_true, Bool.false_eq_true, if_false, size, if_true]
  rfl

/-- Digits that are no letters stay as they are. -/
theorem checksumDigits_of_decimal {digits : List Char} (decimal : ∀ c ∈ digits, c.toUpper = c)
    (short : digits.length ≤ 64) : checksumDigits digits = digits := by
  have enough : digits.length ≤ (Base16.encode (Keccak.digestText (String.ofList digits))).length := by
    rw [Base16.length_encode, Keccak.digestText, Keccak.length_digest]
    exact short
  rw [checksumDigits]
  -- Which hash it is does not matter, as long as it has a digit for each one of the address.
  generalize Base16.encode (Keccak.digestText (String.ofList digits)) = hash at enough
  clear short
  induction digits generalizing hash with
  | nil => rw [List.zipWith_nil_left]
  | cons c rest ih =>
    cases hash with
    | nil => simp at enough
    | cons h more =>
      have same : checksumDigit c h = c := by
        unfold checksumDigit
        split_ifs
        · exact decimal c List.mem_cons_self
        · rfl
      have others := ih (fun d member => decimal d (List.mem_cons_of_mem _ member)) more
        (Nat.le_of_succ_le_succ enough)
      rw [List.zipWith_cons_cons, same, others]

/-! ### The bytes of an address -/

theorem toLower_of_digitValue? {c : Char} {value : Nat} (isDigit : Base16.digitValue? c = some value) :
    c.toLower = Base16.digit value ∧ value < 16 ∧ Text.isNarrowBlank c = false := by
  have each : ∀ c : Char, c.toNat < 128 → ((Base16.digitValue? c).all fun value =>
      c.toLower = Base16.digit value && value < 16 && !Text.isNarrowBlank c) = true :=
    Text.of_ascii (by decide +kernel)
  have small : c.toNat < 128 := by grind [Base16.digitValue?]
  simpa [isDigit, and_assoc] using each c small

/-- An even number of digits is read as bytes, and the digits in lower case are those of the bytes. -/
theorem decode?_of_allDigits : {digits : List Char} → allDigits digits = true →
    digits.length % 2 = 0 → ∃ bytes, Base16.decode? digits = some bytes ∧
      digits.map Char.toLower = Base16.encode bytes ∧ digits.length = 2 * bytes.length
  | [], _, _ => ⟨[], rfl, rfl, rfl⟩
  | [_], _, odd => by simp at odd
  | c :: d :: rest, all, even => by
    simp only [allDigits, List.all_cons, Bool.and_eq_true] at all
    obtain ⟨first, second, others⟩ := all
    obtain ⟨high, isHigh⟩ := Option.isSome_iff_exists.mp first
    obtain ⟨low, isLow⟩ := Option.isSome_iff_exists.mp second
    obtain ⟨lowerHigh, smallHigh, shown⟩ := toLower_of_digitValue? isHigh
    obtain ⟨lowerLow, smallLow, -⟩ := toLower_of_digitValue? isLow
    have evenRest : rest.length % 2 = 0 := by
      simp only [List.length_cons] at even
      omega
    obtain ⟨bytes, reads, written, size⟩ := decode?_of_allDigits others evenRest
    refine ⟨UInt8.ofNat (high * 16 + low) :: bytes, ?_, ?_, ?_⟩
    · simp [Base16.decode?, shown, isHigh, isLow, reads]
    · have value : (UInt8.ofNat (high * 16 + low)).toNat = high * 16 + low := by
        rw [UInt8.toNat_ofNat', Nat.mod_eq_of_lt (by omega)]
      have halves : (high * 16 + low) / 16 = high ∧ (high * 16 + low) % 16 = low := by omega
      simp only [List.map_cons, lowerHigh, lowerLow, written, Base16.encode, List.flatMap_cons,
        Base16.encodeByte, value, halves, List.cons_append, List.nil_append]
    · simp only [List.length_cons, size]
      omega

/-- A text is an address of these bytes. -/
structure Spells (text : String) (bytes : List UInt8) : Prop where
  valid : isAddress text = true
  denotes : Base16.decode? (unmarked text.toList) = some bytes

/-- Two texts are addresses of the same bytes, in whatever letters and with or without a marker. -/
def SameAddress (text other : String) : Prop := ∃ bytes, Spells text bytes ∧ Spells other bytes

/-- Every address that passes for one spells twenty bytes, and these are all that its checksummed form
depends on. -/
theorem spells_of_isAddress {text : String} (valid : isAddress text = true) :
    ∃ bytes, bytes.length = 20 ∧ Spells text bytes ∧
      checksum text = .ok (String.ofList ('0' :: 'x' :: checksumDigits (Base16.encode bytes))) := by
  have both := valid
  simp only [isAddress, Bool.and_eq_true, decide_eq_true_eq] at both
  obtain ⟨forty, digits⟩ := both
  obtain ⟨bytes, reads, written, size⟩ := decode?_of_allDigits digits (by omega)
  refine ⟨bytes, by omega, ⟨valid, reads⟩, ?_⟩
  have sizeLow : (Base16.encode bytes).length = 40 := by
    rw [← written, List.length_map, forty]
  rw [checksum, digits, if_neg (by decide), written]
  exact if_pos sizeLow

theorem checksum_congr {text other : String} (same : SameAddress text other) :
    checksum text = checksum other := by
  obtain ⟨bytes, first, second⟩ := same
  obtain ⟨_, -, spells, isFirst⟩ := spells_of_isAddress first.valid
  obtain ⟨_, -, spells', isSecond⟩ := spells_of_isAddress second.valid
  cases first.denotes.symm.trans spells.denotes
  cases second.denotes.symm.trans spells'.denotes
  rw [isFirst, isSecond]

end Address

end SourceAttest
