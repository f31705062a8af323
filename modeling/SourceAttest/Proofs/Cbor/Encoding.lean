import Mathlib.Algebra.Group.Nat.Defs
import Mathlib.Data.List.Nodup
import SourceAttest.Cbor.Reader

/-!
# Writing CBOR maps

The standard encoding with definite lengths of the maps that compilers append to code: text keys,
and byte strings, texts, truth values and natural numbers as values. Every length and every small
number stands in the shortest head that holds it, and larger numbers are written as byte strings
under a tag. The main result is `decodeMap?_encodeMap`: a written map reads back with the same keys
and values in the same order, whatever bytes follow it.
-/
namespace SourceAttest.Cbor

/-- A value of an auxiliary map. It stands for one data item, and is encoded as one. -/
inductive Value where
  | bytes (b : List UInt8)
  | text (s : String)
  | bool (b : Bool)
  | nat (n : Nat)
deriving Repr, DecidableEq

def Value.item : Value → Item
  | .bytes b => .bytes b
  | .text s => .text s
  | .bool b => .bool b
  | .nat n => .int n

def entryItems (entry : String × Value) : Item × Item := (.text entry.1, entry.2.item)

/-- A number as exactly `width` bytes, high bytes first; higher bytes are dropped. -/
def fixedBytes : Nat → Nat → List UInt8
  | 0, _ => []
  | width + 1, n => fixedBytes width (n / 256) ++ [UInt8.ofNat n]

/-- The bytes of a number without leading zeros. -/
def shortestBytes (n : Nat) : List UInt8 :=
  if n = 0 then [] else shortestBytes (n / 256) ++ [UInt8.ofNat n]
termination_by n

/-- The first byte of an item: its major type and its information. -/
def firstByte (major info : Nat) : UInt8 := UInt8.ofNat (major * 32 + info)

/-- The head of an item: its major type and its argument in as few bytes as hold it. -/
def head (major n : Nat) : List UInt8 :=
  if n < 24 then [firstByte major n]
  else if n < 256 ^ 1 then firstByte major 24 :: fixedBytes 1 n
  else if n < 256 ^ 2 then firstByte major 25 :: fixedBytes 2 n
  else if n < 256 ^ 4 then firstByte major 26 :: fixedBytes 4 n
  else firstByte major 27 :: fixedBytes 8 n

def encodeBytes (b : List UInt8) : List UInt8 := head 2 b.length ++ b

def encodeText (s : String) : List UInt8 := head 3 s.toUTF8.toList.length ++ s.toUTF8.toList

def Value.encode : Value → List UInt8
  | .bytes b => encodeBytes b
  | .text s => encodeText s
  | .bool b => [firstByte 7 (if b then 21 else 20)]
  | .nat n => if n < 256 ^ 8 then head 0 n else head 6 2 ++ encodeBytes (shortestBytes n)

/-- The encoding of the entries of a map in turn. -/
def encodeEntries (entries : List (String × Value)) : List UInt8 :=
  entries.flatMap fun entry => encodeText entry.1 ++ entry.2.encode

def encodeMap (entries : List (String × Value)) : List UInt8 :=
  head 5 entries.length ++ encodeEntries entries

/-! ### Numbers in bytes -/

theorem length_fixedBytes (width n : Nat) : (fixedBytes width n).length = width := by
  induction width generalizing n with
  | zero => rfl
  | succ width ih => simp [fixedBytes, ih]

theorem bigEndian_append_single (bytes : List UInt8) (byte : UInt8) :
    bigEndian (bytes ++ [byte]) = bigEndian bytes * 256 + byte.toNat := by
  simp [bigEndian]

theorem bigEndian_fixedBytes (width n : Nat) : bigEndian (fixedBytes width n) = n % 256 ^ width := by
  induction width generalizing n with
  | zero => simp [fixedBytes, bigEndian, Nat.mod_one]
  | succ width ih =>
    rw [fixedBytes, bigEndian_append_single, ih, Nat.pow_succ', Nat.mod_mul, UInt8.toNat_ofNat']
    omega

theorem bigEndian_shortestBytes (n : Nat) : bigEndian (shortestBytes n) = n := by
  induction n using shortestBytes.induct with
  | case1 => rw [shortestBytes]; rfl
  | case2 n positive ih =>
    rw [shortestBytes, if_neg positive, bigEndian_append_single, ih, UInt8.toNat_ofNat']
    omega

/-! ### Heads -/

theorem take_append (taken rest : List UInt8) :
    take taken.length (taken ++ rest) = some (taken, rest) := by
  simp [take]

theorem firstByte_toNat {major info : Nat} (known : major < 8) (small : info < 32) :
    (firstByte major info).toNat / 32 = major ∧ (firstByte major info).toNat % 32 = info := by
  rw [firstByte, UInt8.toNat_ofNat']
  omega

theorem argument_fixedBytes {info n : Nat} (wide : 24 ≤ info) (known : info < 28)
    (fits : n < 256 ^ 2 ^ (info - 24)) (rest : List UInt8) :
    argument info (fixedBytes (2 ^ (info - 24)) n ++ rest) = some (n, rest) := by
  -- The information says how many bytes the argument has.
  have taken := take_append (fixedBytes (2 ^ (info - 24)) n) rest
  rw [length_fixedBytes] at taken
  have value := bigEndian_fixedBytes (2 ^ (info - 24)) n
  rw [Nat.mod_eq_of_lt fits] at value
  rw [argument, if_neg (by omega), if_pos known, taken]
  simp only [Option.map_some, value]

/-- A head is a first byte, which names the major type, and what the argument is read from. -/
theorem head_cases {n : Nat} (major : Nat) (fits : n < 256 ^ 8) :
    ∃ info more, head major n = firstByte major info :: more ∧ info < 28 ∧
      ∀ rest, argument info (more ++ rest) = some (n, rest) := by
  unfold head
  split_ifs with tiny one two four
  · exact ⟨n, [], rfl, by omega, fun rest => by rw [argument, if_pos tiny]; rfl⟩
  · exact ⟨24, _, rfl, by decide, argument_fixedBytes (by decide) (by decide) one⟩
  · exact ⟨25, _, rfl, by decide, argument_fixedBytes (by decide) (by decide) two⟩
  · exact ⟨26, _, rfl, by decide, argument_fixedBytes (by decide) (by decide) four⟩
  · exact ⟨27, _, rfl, by decide, argument_fixedBytes (by decide) (by decide) fits⟩

/-- A head with what follows it, as a reader takes it apart. -/
theorem head_append {major n : Nat} (known : major < 8) (fits : n < 256 ^ 8) (rest : List UInt8) :
    ∃ first bytes, head major n ++ rest = first :: bytes ∧ first.toNat / 32 = major ∧
      first.toNat % 32 < 28 ∧ argument (first.toNat % 32) bytes = some (n, rest) := by
  -- The first byte gives back the major type and the information.
  obtain ⟨info, more, written, small, reads⟩ := head_cases major fits
  obtain ⟨majorOf, infoOf⟩ := firstByte_toNat known (show info < 32 by omega)
  refine ⟨firstByte major info, more ++ rest, by rw [written]; rfl, majorOf, ?_, ?_⟩
  · rw [infoOf]; exact small
  · rw [infoOf]; exact reads rest

theorem head_length_pos (major n : Nat) : 0 < (head major n).length := by
  unfold head
  split_ifs <;> simp

/-! ### Items -/

theorem readItem_nat {n : Nat} (fits : n < 256 ^ 8) (fuel depth : Nat) (rest : List UInt8) :
    readItem (fuel + 1) depth (head 0 n ++ rest) = some (.int n, rest) := by
  obtain ⟨first, bytes, written, major, _, reads⟩ := head_append (show 0 < 8 by decide) fits rest
  rw [written, readItem.eq_def]
  simp only [major, reads, Option.map_some]

theorem readItem_bytes {b : List UInt8} (fits : b.length < 256 ^ 8) (fuel depth : Nat)
    (rest : List UInt8) :
    readItem (fuel + 1) depth (encodeBytes b ++ rest) = some (.bytes b, rest) := by
  obtain ⟨first, bytes, written, major, small, reads⟩ :=
    head_append (show 2 < 8 by decide) fits (b ++ rest)
  have fixedLength : first.toNat % 32 ≠ 31 := by omega
  rw [encodeBytes, List.append_assoc, written, readItem.eq_def]
  simp only [major, byteString, if_neg fixedLength, reads, Option.bind_some, take_append,
    Option.map_some]

private theorem toList_loop (bytes : ByteArray) (start : Nat) (before : List UInt8) :
    ByteArray.toList.loop bytes start before = before.reverse ++ bytes.data.toList.drop start := by
  fun_induction ByteArray.toList.loop bytes start before with
  | case1 start before inside ih =>
    have here : start < bytes.data.toList.length := by simpa using inside
    have next : bytes.get! start = bytes.data.toList[start] := by
      simp [ByteArray.get!, inside]
    rw [ih, List.drop_eq_getElem_cons here, next]
    simp
  | case2 start before outside =>
    have past : bytes.data.toList.length ≤ start := by simpa using outside
    rw [List.drop_eq_nil_of_le past, List.append_nil]

theorem utf8?_toUTF8 (s : String) : utf8? s.toUTF8.toList = some s := by
  -- The list of the bytes is made by a loop, which is undone before the text is put together.
  have listed : s.toUTF8.toList = s.toUTF8.data.toList := by
    rw [ByteArray.toList, toList_loop]; rfl
  have same : (⟨s.toUTF8.toList.toArray⟩ : ByteArray) = s.toUTF8 := by rw [listed]
  rw [utf8?, same, String.fromUTF8?, String.toUTF8_eq_toByteArray, dif_pos s.isValidUTF8]
  rfl

theorem readItem_text {s : String} (fits : s.toUTF8.toList.length < 256 ^ 8) (fuel depth : Nat)
    (rest : List UInt8) :
    readItem (fuel + 1) depth (encodeText s ++ rest) = some (.text s, rest) := by
  obtain ⟨first, bytes, written, major, small, reads⟩ :=
    head_append (show 3 < 8 by decide) fits (s.toUTF8.toList ++ rest)
  have fixedLength : first.toNat % 32 ≠ 31 := by omega
  rw [encodeText, List.append_assoc, written, readItem.eq_def]
  simp only [major, textString, if_neg fixedLength, reads, Option.bind_some, take_append,
    utf8?_toUTF8, Option.map_some]

theorem readItem_bool (b : Bool) (fuel depth : Nat) (rest : List UInt8) :
    readItem (fuel + 1) depth ((Value.bool b).encode ++ rest) = some (.bool b, rest) := by
  cases b <;> (rw [readItem.eq_def]; rfl)

/-- A number that is too large for a head is a byte string under the tag of big numbers. -/
theorem readItem_bignum {n : Nat} (fits : (shortestBytes n).length < 256 ^ 8) (fuel depth : Nat)
    (rest : List UInt8) :
    readItem (fuel + 2) (depth + 1) (head 6 2 ++ encodeBytes (shortestBytes n) ++ rest)
      = some (.int n, rest) := by
  obtain ⟨first, bytes, written, major, _, reads⟩ :=
    head_append (show 6 < 8 by decide) (show 2 < 256 ^ 8 by decide)
      (encodeBytes (shortestBytes n) ++ rest)
  rw [List.append_assoc, written, readItem.eq_def]
  simp only [major, reads, readItem_bytes fits, ofTag?, if_true, bigEndian_shortestBytes,
    Option.map_some]

theorem readItem_value {value : Value} (fits : value.encode.length < 256 ^ 8) (fuel depth : Nat)
    (rest : List UInt8) :
    readItem (fuel + 2) (depth + 1) (value.encode ++ rest) = some (value.item, rest) := by
  cases value with
  | bytes b =>
    refine readItem_bytes ?_ _ _ rest
    rw [Value.encode, encodeBytes, List.length_append] at fits
    omega
  | text s =>
    refine readItem_text ?_ _ _ rest
    rw [Value.encode, encodeText, List.length_append] at fits
    omega
  | bool b => exact readItem_bool b _ _ rest
  | nat n =>
    rw [Value.encode] at fits ⊢
    split_ifs at fits ⊢ with small
    · exact readItem_nat small _ _ rest
    · refine readItem_bignum ?_ _ _ rest
      rw [encodeBytes, List.length_append, List.length_append] at fits
      omega

/-! ### Maps -/

theorem putEntry_of_new (key value : Item) (before : List (Item × Item))
    (fresh : ∀ entry ∈ before, entry.1.sameKey key = false) :
    putEntry key value before = before ++ [(key, value)] := by
  induction before with
  | nil => rfl
  | cons entry rest ih =>
    rw [putEntry, fresh entry (by simp), if_neg Bool.false_ne_true,
      ih fun other member => fresh other (by simp [member]), List.cons_append]

theorem sameKey_text (a b : String) : (Item.text a).sameKey (.text b) = decide (a = b) := by
  rw [Item.sameKey]

/-- Written entries whose keys are new are read behind those read before. The fuel drops by one for
each entry, and the last key and value still need two. -/
theorem readEntries_encodeEntries (depth : Nat) (before entries : List (String × Value))
    (rest : List UInt8) (distinct : ((before ++ entries).map Prod.fst).Nodup)
    (fits : (encodeEntries entries).length < 256 ^ 8) (fuel : Nat)
    (enough : entries.length + 2 ≤ fuel) :
    readEntries fuel (depth + 1) entries.length (before.map entryItems)
      (encodeEntries entries ++ rest) = some ((before ++ entries).map entryItems, rest) := by
  induction entries generalizing before fuel with
  | nil =>
    obtain ⟨fuel, rfl⟩ : ∃ less, fuel = less + 1 := ⟨fuel - 1, by omega⟩
    rw [List.length_nil, readEntries.eq_def, List.append_nil]
    rfl
  | cons entry entries ih =>
    obtain ⟨key, value⟩ := entry
    rw [List.length_cons] at enough
    obtain ⟨fuel, rfl⟩ : ∃ less, fuel = less + 3 := ⟨fuel - 3, by omega⟩
    have split : encodeEntries ((key, value) :: entries)
        = encodeText key ++ (value.encode ++ encodeEntries entries) := by
      simp [encodeEntries]
    rw [split, List.length_append, List.length_append, encodeText, List.length_append] at fits
    -- The key and the value are read, and the key is bound behind the others.
    have readKey := readItem_text (s := key) (by omega) (fuel + 1) (depth + 1)
      (value.encode ++ (encodeEntries entries ++ rest))
    have readValue := @readItem_value value (by omega) fuel depth
      (encodeEntries entries ++ rest)
    -- No key that was read before is the same.
    have fresh : ∀ other ∈ before.map entryItems, other.1.sameKey (.text key) = false := by
      intro other member
      obtain ⟨bound, inBefore, rfl⟩ := List.mem_map.mp member
      have different : bound.1 ≠ key := by
        rw [List.map_append, List.map_cons, List.nodup_append] at distinct
        exact distinct.2.2 _ (List.mem_map_of_mem inBefore) _ (by simp)
      simp [entryItems, sameKey_text, different]
    have moved : before.map entryItems ++ [(Item.text key, value.item)]
        = (before ++ [(key, value)]).map entryItems := by
      simp [entryItems]
    have regroup : before ++ (key, value) :: entries = before ++ [(key, value)] ++ entries := by simp
    rw [split, List.append_assoc, List.append_assoc, List.length_cons, readEntries.eq_def]
    simp only [readKey, readValue, putEntry_of_new _ _ _ fresh, moved]
    rw [ih (before ++ [(key, value)]) (regroup ▸ distinct) (by omega) (fuel + 2) (by omega), regroup]

theorem length_le_encodeEntries (entries : List (String × Value)) :
    entries.length ≤ (encodeEntries entries).length := by
  induction entries with
  | nil => exact Nat.le_refl _
  | cons entry entries ih =>
    have key := head_length_pos 3 entry.1.toUTF8.toList.length
    simp only [encodeEntries, encodeText, List.flatMap_cons, List.length_append,
      List.length_cons] at ih ⊢
    omega

/-- A written map reads back with the same keys and values in the same order, whatever bytes
follow it. -/
theorem decodeMap?_encodeMap (entries : List (String × Value)) (rest : List UInt8)
    (distinct : (entries.map Prod.fst).Nodup) (fits : (encodeMap entries).length < 256 ^ 8) :
    decodeMap? (encodeMap entries ++ rest) = some (entries.map entryItems) := by
  have count := length_le_encodeEntries entries
  rw [encodeMap, List.length_append] at fits
  obtain ⟨first, bytes, written, major, small, reads⟩ :=
    head_append (show 5 < 8 by decide) (show entries.length < 256 ^ 8 by omega)
      (encodeEntries entries ++ rest)
  have fixedLength : first.toNat % 32 ≠ 31 := by omega
  -- There is fuel for two items a byte, and every entry has at least one byte.
  have enough : entries.length + 2 ≤ 2 * (first :: bytes).length + 1 := by
    have lengths := congrArg List.length written
    have headed := head_length_pos 5 entries.length
    simp only [List.length_append, List.length_cons] at lengths ⊢
    omega
  have entriesRead := readEntries_encodeEntries 398 [] entries rest distinct (by omega) _ enough
  rw [List.map_nil, List.nil_append] at entriesRead
  rw [encodeMap, List.append_assoc, written, decodeMap?, decode?, enoughFuel, maxDepth,
    readItem.eq_def]
  simp only [List.head?_cons, Option.any_some, major, decide_true, if_true, if_neg fixedLength,
    reads, entriesRead, Option.map_some]

end SourceAttest.Cbor
