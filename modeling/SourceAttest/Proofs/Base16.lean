import Mathlib.Data.List.Induction
import Mathlib.Tactic.Ring
import SourceAttest.Base16

/-!
# Reading what was written in base 16

Lower-case digits read back as the bytes and numbers that they were written for. The main results
are `decode?_encode` for byte strings, `readInt?_fixed` for numbers of a fixed width and
`readInt?_ofInt` for those behind a marker. Conversely, lower-case digits are what is written for the
bytes they read as (`encode_of_decode?`) and for a number of their width (`exists_fixed_of_low`).
-/
namespace SourceAttest.Base16

/-- Whether a character is a decimal digit or one of the small letters `a` to `f`. -/
def isLowDigit (c : Char) : Bool :=
  (48 ≤ c.toNat && c.toNat ≤ 57) || (97 ≤ c.toNat && c.toNat ≤ 102)

theorem isLowDigit_digit : ∀ n < 16, isLowDigit (digit n) = true := by decide

/-- A text of lower-case digits only. -/
def IsLow (cs : List Char) : Prop := ∀ c ∈ cs, isLowDigit c = true

instance (cs : List Char) : Decidable (IsLow cs) :=
  decidable_of_iff (cs.all isLowDigit = true) List.all_eq_true

theorem IsLow.append {cs ds : List Char} (left : IsLow cs) (right : IsLow ds) :
    IsLow (cs ++ ds) := by
  intro c member
  rcases List.mem_append.mp member with inLeft | inRight
  · exact left c inLeft
  · exact right c inRight

theorem isLow_encode (bytes : List UInt8) : IsLow (encode bytes) := by
  intro c member
  obtain ⟨byte, _, written⟩ := List.mem_flatMap.mp member
  have small : byte.toNat < 256 := byte.toNat_lt
  simp only [encodeByte, List.mem_cons, List.not_mem_nil, or_false] at written
  rcases written with rfl | rfl
  · exact isLowDigit_digit _ (by omega)
  · exact isLowDigit_digit _ (by omega)

theorem isLow_fixed (width n : Nat) : IsLow (fixed width n) := by
  induction width generalizing n with
  | zero => intro c member; simp [fixed] at member
  | succ width ih =>
    refine (ih (n / 16)).append ?_
    intro c member
    rw [List.mem_singleton] at member
    exact member ▸ isLowDigit_digit _ (Nat.mod_lt _ (by decide))

theorem length_encode (bytes : List UInt8) : (encode bytes).length = 2 * bytes.length := by
  induction bytes with
  | nil => rfl
  | cons byte rest ih =>
    simp only [encode, encodeByte, List.flatMap_cons, List.length_append, List.length_cons,
      List.length_nil] at ih ⊢
    omega

theorem length_fixed (width n : Nat) : (fixed width n).length = width := by
  induction width generalizing n with
  | zero => rfl
  | succ width ih => simp [fixed, ih]

/-! ### Low digits among the other characters -/

theorem isLowDigit_cases {c : Char} (low : isLowDigit c = true) :
    (48 ≤ c.toNat ∧ c.toNat ≤ 57) ∨ (97 ≤ c.toNat ∧ c.toNat ≤ 102) := by
  simpa [isLowDigit] using low

theorem isNarrowBlank_of_low {c : Char} (low : isLowDigit c = true) :
    Text.isNarrowBlank c = false := by
  have range := isLowDigit_cases low
  simp only [Text.isNarrowBlank, Bool.or_eq_false_iff, Bool.and_eq_false_iff, decide_eq_false_iff_not]
  omega

theorem plainForm_of_low {c : Char} (low : isLowDigit c = true) : plainForm c = c := by
  have range := isLowDigit_cases low
  rw [plainForm, if_pos (by omega)]

theorem ne_of_low {c d : Char} (low : isLowDigit c = true) (other : isLowDigit d = false) : c ≠ d := by
  rintro rfl
  exact absurd low (by simp [other])

/-! ### Byte strings -/

/-- A written byte string reads back. -/
theorem decode?_encode (bytes : List UInt8) : decode? (encode bytes) = some bytes := by
  induction bytes with
  | nil => rfl
  | cons byte rest ih =>
    have small : byte.toNat < 256 := byte.toNat_lt
    -- A byte is its two digits.
    have high := digitValue?_digit (byte.toNat / 16) (by omega)
    have low := digitValue?_digit (byte.toNat % 16) (by omega)
    have plain := isNarrowBlank_of_low (isLowDigit_digit (byte.toNat / 16) (by omega))
    have whole : byte.toNat / 16 * 16 + byte.toNat % 16 = byte.toNat := by omega
    change decode? (digit (byte.toNat / 16) :: digit (byte.toNat % 16) :: encode rest) = _
    simp [decode?, plain, high, low, ih, whole]

/-! ### Numbers -/

/-- The digits of a fixed width continue a number by their value. -/
theorem moreDigits?_fixed (value width n : Nat) (rest : List Char) :
    moreDigits? value (fixed width n ++ rest)
      = moreDigits? (value * 16 ^ width + n % 16 ^ width) rest := by
  induction width generalizing n rest with
  | zero => simp [fixed, Nat.mod_one]
  | succ width ih =>
    -- The last digit is split off, since the reader carries the value of those before it.
    have small : n % 16 < 16 := Nat.mod_lt _ (by decide)
    have apart : digit (n % 16) ≠ '_' := ne_of_low (isLowDigit_digit _ small) (by decide)
    have step : moreDigits? (value * 16 ^ width + n / 16 % 16 ^ width) (digit (n % 16) :: rest)
        = moreDigits? ((value * 16 ^ width + n / 16 % 16 ^ width) * 16 + n % 16) rest := by
      rw [moreDigits?, digitValue?_digit _ small, Option.bind_some]
      exact fun _ _ equal _ => apart equal
    have total : (value * 16 ^ width + n / 16 % 16 ^ width) * 16 + n % 16
        = value * 16 ^ (width + 1) + n % 16 ^ (width + 1) := by
      rw [Nat.pow_succ', Nat.mod_mul]
      ring
    rw [fixed, List.append_assoc, List.singleton_append, ih, step, total]

theorem digits?_of_low {c : Char} {rest : List Char} (low : isLowDigit c = true) :
    digits? (c :: rest) = moreDigits? 0 (c :: rest) := by
  have apart : c ≠ '_' := ne_of_low low (by decide)
  -- The two readers differ only in an underscore, and that is no low digit.
  rw [digits?, moreDigits?, Nat.zero_mul]
  · simp only [Nat.zero_add]
  · exact fun _ _ equal _ => apart equal

theorem markedDigits?_of_low {cs : List Char} (low : IsLow cs) : markedDigits? cs = digits? cs := by
  have small : isLowDigit 'x' = false := by decide
  have capital : isLowDigit 'X' = false := by decide
  -- Every marker holds an `x`, which is no low digit.
  unfold markedDigits?
  split
  · simpa [small] using low 'x' (by simp)
  · simpa [capital] using low 'X' (by simp)
  · simpa [small] using low 'x' (by simp)
  · simpa [capital] using low 'X' (by simp)
  · rfl

/-- Low digits are read as they stand: nothing is trimmed, and there is neither sign nor marker. -/
theorem readInt?_of_low {c : Char} {rest : List Char} (low : IsLow (c :: rest)) :
    readInt? (String.ofList (c :: rest)) = (moreDigits? 0 (c :: rest)).map fun n => (n : Int) := by
  have first : isLowDigit c = true := low c (by simp)
  have plain : (c :: rest).map plainForm = c :: rest :=
    (List.map_congr_left fun d member => plainForm_of_low (low d member)).trans (List.map_id' _)
  have whole : Text.trimBoth Text.isNarrowBlank (c :: rest) = c :: rest :=
    Text.trimBoth_of_forall fun d member => isNarrowBlank_of_low (low d member)
  -- Nothing is left to be trimmed or folded, and neither sign comes first.
  rw [readInt?, String.toList_ofList, plain, whole, ← digits?_of_low first, ← markedDigits?_of_low low]
  split
  · next equal => exact absurd (List.cons.inj equal).1 (ne_of_low first (by decide))
  · next equal => exact absurd (List.cons.inj equal).1 (ne_of_low first (by decide))
  · rfl

/-- A number written in a fixed width reads back, less what the width has no room for. -/
theorem readInt?_fixed (width n : Nat) :
    readInt? (String.ofList (fixed (width + 1) n)) = some ((n % 16 ^ (width + 1) : Nat) : Int) := by
  have digits := moreDigits?_fixed 0 (width + 1) n []
  rw [List.append_nil] at digits
  cases written : fixed (width + 1) n with
  | nil => simpa [written] using length_fixed (width + 1) n
  | cons c rest =>
    have low : IsLow (c :: rest) := written ▸ isLow_fixed (width + 1) n
    rw [readInt?_of_low low, ← written, digits]
    simp [moreDigits?]

/-! ### Numbers behind a marker -/

theorem digits_eq_fixed (n : Nat) : digits n = fixed (digits n).length n := by
  have digitChar : ∀ n < 16, Nat.digitChar n = digit n := by decide
  induction n using Nat.strongRecOn with
  | ind n ih =>
    by_cases small : n < 16
    · rw [digits, Nat.toDigits_of_lt_base small, digitChar n small]
      simp [fixed, Nat.mod_eq_of_lt small]
    · have split : digits n = digits (n / 16) ++ [digit (n % 16)] := by
        rw [digits, Nat.toDigits_of_base_le (by decide) (by omega),
          digitChar _ (Nat.mod_lt _ (by decide))]
        rfl
      have high := ih (n / 16) (by omega)
      rw [split, List.length_append, List.length_singleton, fixed, ← high]

theorem isLow_digits (n : Nat) : IsLow (digits n) := by
  rw [digits_eq_fixed]
  exact isLow_fixed _ _

theorem toList_ofInt (n : Nat) : (ofInt n).toList = '0' :: 'x' :: digits n := by
  rw [ofInt, if_neg (by omega), String.toList_append, Int.natAbs_natCast]
  exact congrArg (['0', 'x'] ++ ·) String.toList_ofList

/-- A natural number that is written with the marker reads back. -/
theorem readInt?_ofInt (n : Nat) : readInt? (ofInt n) = some (n : Int) := by
  have low := isLow_digits n
  have plain : ('0' :: 'x' :: digits n).map plainForm = '0' :: 'x' :: digits n := by
    rw [List.map_cons, List.map_cons,
      List.map_congr_left fun d member => plainForm_of_low (low d member), List.map_id']
    rfl
  have whole : Text.trimBoth Text.isNarrowBlank ('0' :: 'x' :: digits n) = '0' :: 'x' :: digits n := by
    refine Text.trimBoth_of_forall (List.forall_mem_cons.mpr ⟨by decide, ?_⟩)
    refine List.forall_mem_cons.mpr ⟨by decide, ?_⟩
    exact fun d member => isNarrowBlank_of_low (low d member)
  have marked : markedDigits? ('0' :: 'x' :: digits n) = some n := by
    have room : n < 16 ^ (digits n).length :=
      (Nat.length_toDigits_le_iff (by decide) Nat.length_toDigits_pos).mp (Nat.le_refl _)
    have value := moreDigits?_fixed 0 (digits n).length n []
    rw [List.append_nil, ← digits_eq_fixed, Nat.mod_eq_of_lt room, Nat.zero_mul, Nat.zero_add] at value
    cases form : digits n with
    | nil => exact absurd form Nat.toDigits_ne_nil
    | cons c rest =>
      rw [form] at low value
      have first : isLowDigit c = true := low c (by simp)
      -- No underscore stands behind the marker.
      rw [markedDigits?, digits?_of_low first, value]
      · rfl
      · exact fun _ same => ne_of_low first (by decide) (List.cons.inj same).1
  rw [readInt?, toList_ofInt, plain, whole]
  -- The marker starts with neither sign.
  split
  · next equal => exact absurd (List.cons.inj equal).1 (by decide)
  · next equal => exact absurd (List.cons.inj equal).1 (by decide)
  · rw [marked]
    rfl

/-! ### Nothing else is read -/

theorem encode_inj {bytes others : List UInt8} (same : encode bytes = encode others) :
    bytes = others := by
  have read := decode?_encode bytes
  rw [same, decode?_encode] at read
  exact (Option.some.inj read).symm

/-- A low digit is the digit of its value. -/
theorem exists_digit_of_low {c : Char} (low : isLowDigit c = true) :
    ∃ n < 16, c = digit n ∧ digitValue? c = some n := by
  have whole (n : Nat) (same : n = c.toNat) : Char.ofNat n = c := by
    rw [same, Char.ofNat_toNat]
  rcases isLowDigit_cases low with ⟨bottom, top⟩ | ⟨bottom, top⟩
  · refine ⟨c.toNat - 48, by omega, ?_, ?_⟩
    · rw [digit, if_pos (by omega), whole _ (by omega)]
    · simp [digitValue?, bottom, top]
  · refine ⟨c.toNat - 87, by omega, ?_, ?_⟩
    · rw [digit, if_neg (by omega), whole _ (by omega)]
    · have letter : ¬ c.toNat ≤ 57 := by omega
      simp [digitValue?, bottom, top, letter]

theorem encodeByte_ofNat {high low : Nat} (smallHigh : high < 16) (smallLow : low < 16) :
    encodeByte (UInt8.ofNat (high * 16 + low)) = [digit high, digit low] := by
  have value : (UInt8.ofNat (high * 16 + low)).toNat = high * 16 + low := by
    rw [UInt8.toNat_ofNat', Nat.mod_eq_of_lt (by omega)]
  rw [encodeByte, value]
  congr 2
  · omega
  · congr 1
    omega

/-- Low digits that read as a byte string are those it is written with. -/
theorem encode_of_decode? {cs : List Char} {bytes : List UInt8} (low : IsLow cs)
    (read : decode? cs = some bytes) : encode bytes = cs := by
  fun_induction decode? cs generalizing bytes with
  | case1 =>
    cases read
    rfl
  | case2 c blank =>
    exact absurd blank (by simp [isNarrowBlank_of_low (low c (by simp))])
  | case3 c plain => cases read
  | case4 c d rest blank ih =>
    exact absurd blank (by simp [isNarrowBlank_of_low (low c (by simp))])
  | case5 c d rest plain high last more readRest readLow readHigh ih =>
    obtain ⟨m, boundHigh, isHigh, valueHigh⟩ := exists_digit_of_low (low c (by simp))
    obtain ⟨n, boundLow, isLow, valueLow⟩ := exists_digit_of_low (low d (by simp))
    cases valueHigh.symm.trans readHigh
    cases valueLow.symm.trans readLow
    cases read
    have written := ih (fun e member => low e (by simp [member])) readRest
    rw [encode, List.flatMap_cons, encodeByte_ofNat boundHigh boundLow, ← isHigh, ← isLow]
    exact congrArg (fun rest => c :: d :: rest) written
  | case6 => cases read

/-- Low digits are those of a number of their width. -/
theorem exists_fixed_of_low {cs : List Char} (low : IsLow cs) :
    ∃ n < 16 ^ cs.length, cs = fixed cs.length n := by
  induction cs using List.reverseRecOn with
  | nil => exact ⟨0, by decide, rfl⟩
  | append_singleton cs c ih =>
    -- The last digit is the value of what is left over by sixteen.
    obtain ⟨n, bound, written⟩ := ih fun d member => low d (by simp [member])
    obtain ⟨value, small, isDigit, -⟩ := exists_digit_of_low (low c (by simp))
    refine ⟨n * 16 + value, ?_, ?_⟩
    · rw [List.length_append, List.length_singleton, Nat.pow_succ]
      omega
    · have high : (n * 16 + value) / 16 = n := by omega
      have last : (n * 16 + value) % 16 = value := by omega
      rw [List.length_append, List.length_singleton, fixed, high, last, ← written, ← isDigit]

end SourceAttest.Base16
