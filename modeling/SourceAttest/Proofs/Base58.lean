import Mathlib.Data.List.TakeWhile
import Mathlib.Data.Nat.Digits.Lemmas
import SourceAttest.Base58

/-!
# Reading what was written in base 58

Bytes that are written in base 58 read back, with all their leading zeros. The main results are
`decode?_encode`, and `encode_inj`, by which different bytes are written differently.
-/
namespace SourceAttest.Base58

/-- The value of a digit, if the character is one. -/
def digitValue? (c : Char) : Option Nat := alphabet.findIdx? (· == c)

/-- A number as big-endian bytes without leading zeros. -/
def fromNumber (n : Nat) : List UInt8 := (Nat.digits 256 n).reverse.map UInt8.ofNat

/-- Read digits as bytes: leading ones are zeros, and all digits together are the number. -/
def decode? (text : String) : Option (List UInt8) :=
  (text.toList.mapM digitValue?).map fun values =>
    List.replicate (text.toList.takeWhile (· == '1')).length 0
      ++ fromNumber (Nat.ofDigits 58 values.reverse)

theorem digitValue?_digit : ∀ n < 58, digitValue? (digit n) = some n := by decide +kernel

theorem digit_ne_one : ∀ n < 58, n ≠ 0 → digit n ≠ '1' := by decide +kernel

theorem mapM_digitValue? {values : List Nat} (small : ∀ n ∈ values, n < 58) :
    (values.map digit).mapM digitValue? = some values := by
  induction values with
  | nil => rfl
  | cons n rest ih =>
    obtain ⟨first, others⟩ := List.forall_mem_cons.mp small
    simp [List.mapM_cons, digitValue?_digit n first, ih others]

/-! ### Digits and numbers -/

theorem toNumber_eq_ofDigits (bytes : List UInt8) :
    toNumber bytes = Nat.ofDigits 256 (bytes.reverse.map UInt8.toNat) := by
  induction bytes using List.reverseRecOn with
  | nil => rfl
  | append_singleton bytes byte ih =>
    rw [toNumber] at ih ⊢
    rw [List.foldl_append, ih]
    simp [Nat.ofDigits_cons, Nat.mul_comm, Nat.add_comm]

theorem reversedDigits_eq_digits (n : Nat) : reversedDigits n = (Nat.digits 58 n).map digit := by
  induction n using Nat.strongRecOn with
  | ind n ih =>
    rw [reversedDigits]
    split_ifs with zero
    · simp [zero]
    · have positive : 0 < n := Nat.pos_of_ne_zero zero
      rw [Nat.digits_def' (by decide) positive, List.map_cons, ih (n / 58) (by omega)]

/-- A number does not begin with a digit that is written as a one. -/
theorem head?_digits_ne_one (n : Nat) : ((Nat.digits 58 n).reverse.map digit).head? ≠ some '1' := by
  rw [List.head?_map, List.head?_reverse]
  cases last : (Nat.digits 58 n).getLast? with
  | none => simp
  | some d =>
    have filled : n ≠ 0 := by
      rintro rfl
      simp at last
    have some : Nat.digits 58 n ≠ [] := Nat.digits_ne_nil_iff_ne_zero.mpr filled
    have isLast := List.getLast?_eq_some_getLast some
    rw [last, Option.some.injEq] at isLast
    have small : d < 58 := Nat.digits_lt_base (by decide) (isLast ▸ List.getLast_mem some)
    have nonzero : d ≠ 0 := isLast ▸ Nat.getLast_digit_ne_zero 58 filled
    simpa using digit_ne_one d small nonzero

/-! ### Leading zeros -/

theorem takeWhile_replicate_append {α : Type} [BEq α] [LawfulBEq α] {a : α} (count : Nat) {rest : List α}
    (apart : rest.head? ≠ some a) :
    ((List.replicate count a ++ rest).takeWhile (· == a)).length = count := by
  have none : rest.takeWhile (· == a) = [] := by
    cases rest with
    | nil => rfl
    | cons b rest =>
      rw [List.takeWhile_cons, if_neg]
      intro same
      exact apart (by simp [eq_of_beq same])
  have zeros : (List.replicate count a).takeWhile (· == a) = List.replicate count a := by
    simp
  rw [List.takeWhile_append, zeros]
  simp [none]

/-- Bytes are their leading zeros and a rest that does not begin with one. -/
theorem exists_zeros (bytes : List UInt8) :
    ∃ rest, bytes = List.replicate (bytes.takeWhile (· == 0)).length 0 ++ rest ∧ rest.head? ≠ some 0 := by
  refine ⟨bytes.dropWhile (· == 0), ?_, fun zero => ?_⟩
  · have zeros : bytes.takeWhile (· == 0) = List.replicate (bytes.takeWhile (· == 0)).length 0 := by
      refine List.eq_replicate_of_mem fun byte member => ?_
      have zero := List.mem_takeWhile_imp member
      simpa using zero
    rw [← zeros, List.takeWhile_append_dropWhile]
  · have first := List.head?_dropWhile_not (· == 0) bytes
    rw [zero] at first
    cases first

theorem toNumber_zeros (count : Nat) (rest : List UInt8) :
    toNumber (List.replicate count 0 ++ rest) = toNumber rest := by
  rw [toNumber_eq_ofDigits, toNumber_eq_ofDigits, List.reverse_append, List.reverse_replicate,
    List.map_append, List.map_replicate]
  exact Nat.ofDigits_append_replicate_zero _

/-- Bytes without leading zeros are those of their number. -/
theorem fromNumber_toNumber {bytes : List UInt8} (plain : bytes.head? ≠ some 0) :
    fromNumber (toNumber bytes) = bytes := by
  have digits : Nat.digits 256 (Nat.ofDigits 256 (bytes.reverse.map UInt8.toNat))
      = bytes.reverse.map UInt8.toNat := by
    apply Nat.digits_ofDigits
    · decide
    · intro n member
      obtain ⟨byte, -, rfl⟩ := List.mem_map.mp member
      exact byte.toNat_lt
    -- The last digit is the first byte.
    · intro some zero
      have last := List.getLast?_eq_some_getLast some
      rw [zero, List.getLast?_map, List.getLast?_reverse] at last
      obtain ⟨byte, first, isZero⟩ := Option.map_eq_some_iff.mp last
      exact plain (first.trans (congrArg _ (UInt8.toNat_inj.mp isZero)))
  have back (byte : UInt8) : UInt8.ofNat byte.toNat = byte := UInt8.ofNat_toNat
  rw [fromNumber, toNumber_eq_ofDigits, digits, ← List.map_reverse, List.reverse_reverse, List.map_map]
  simp [Function.comp_def, back]

/-! ### Reading back -/

/-- Bytes that are written read back. -/
theorem decode?_encode (bytes : List UInt8) : decode? (encode bytes) = some bytes := by
  obtain ⟨rest, parts, plain⟩ := exists_zeros bytes
  generalize zeros : (bytes.takeWhile (· == 0)).length = count at parts
  have number : toNumber bytes = toNumber rest := by rw [parts, toNumber_zeros]
  -- The digits of the number, high digits first.
  let values := (Nat.digits 58 (toNumber rest)).reverse
  have small : ∀ n ∈ values, n < 58 := fun n member =>
    Nat.digits_lt_base (by decide) (List.mem_reverse.mp member)
  have written : (encode bytes).toList = List.replicate count '1' ++ values.map digit := by
    rw [encode, zeros, number, String.toList_ofList, reversedDigits_eq_digits, List.map_reverse]
  have read : (encode bytes).toList.mapM digitValue? = some (List.replicate count 0 ++ values) := by
    have digits : List.replicate count '1' ++ values.map digit
        = (List.replicate count 0 ++ values).map digit := by
      rw [List.map_append, List.map_replicate]
      rfl
    rw [written, digits]
    apply mapM_digitValue?
    intro n member
    rcases List.mem_append.mp member with zero | later
    · rw [List.eq_of_mem_replicate zero]
      decide
    · exact small n later
  have value : Nat.ofDigits 58 (List.replicate count 0 ++ values).reverse = toNumber rest := by
    rw [List.reverse_append, List.reverse_replicate, List.reverse_reverse,
      Nat.ofDigits_append_replicate_zero, Nat.ofDigits_digits]
  have ones : ((encode bytes).toList.takeWhile (· == '1')).length = count := by
    rw [written]
    exact takeWhile_replicate_append count (head?_digits_ne_one _)
  rw [decode?, read, Option.map_some, ones, value, fromNumber_toNumber plain, ← parts]

theorem encode_inj {bytes others : List UInt8} (same : encode bytes = encode others) :
    bytes = others := by
  have read := decode?_encode bytes
  rw [same, decode?_encode] at read
  exact (Option.some.inj read).symm

end SourceAttest.Base58
