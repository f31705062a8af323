import SourceAttest.Proofs.Repository.Refinement

/-!
# The places of documents

A document is kept under the names of its content hash. The main results are
`namesFrom_documentPath_of_filled`, which gives these names, and `ContentHash.not_prefix_names`, by
which no document is in the way of another one.
-/
namespace SourceAttest

namespace Base58

theorem reversedDigits_eq_nil {n : Nat} : reversedDigits n = [] ↔ n = 0 := by
  rw [reversedDigits]
  split_ifs with zero
  · simp [zero]
  · simp [zero]

theorem foldl_pos (bytes : List UInt8) {value : Nat} (positive : 0 < value) :
    0 < bytes.foldl (fun value byte => value * 256 + byte.toNat) value := by
  induction bytes generalizing value with
  | nil => exact positive
  | cons byte rest ih =>
    have next : 0 < value * 256 + byte.toNat := by omega
    exact ih next

/-- Bytes are written with at least one digit: a leading zero is one, and another byte makes the number
positive. -/
theorem encode_ne_empty {bytes : List UInt8} (some : bytes ≠ []) : encode bytes ≠ "" := by
  intro empty
  obtain ⟨zeros, digits⟩ : List.replicate (bytes.takeWhile (· == 0)).length '1' = [] ∧
      (reversedDigits (toNumber bytes)).reverse = [] := by
    rw [← List.append_eq_nil_iff, ← String.toList_ofList (l := _ ++ _)]
    exact String.toList_eq_nil_iff.mpr empty
  rw [List.reverse_eq_nil_iff, reversedDigits_eq_nil] at digits
  cases bytes with
  | nil => exact some rfl
  | cons byte rest =>
    rw [List.replicate_eq_nil_iff, List.length_eq_zero_iff, List.takeWhile_cons] at zeros
    split_ifs at zeros with zero
    have positive : 0 < 0 * 256 + byte.toNat := by
      rw [Nat.zero_mul, Nat.zero_add, Nat.pos_iff_ne_zero]
      intro none
      exact zero (by simpa using UInt8.toNat_inj.mp none)
    exact absurd digits (foldl_pos rest positive).ne'

end Base58

namespace ContentHash

def bytes : ContentHash → List UInt8
  | .bzzr0 hash => hash
  | .bzzr1 hash => hash
  | .ipfs multihash => multihash

/-- The names of the document, from the root of the repository. -/
def names : ContentHash → List String
  | .bzzr0 hash => ["swarm", "bzzr0", String.ofList (Base16.encode hash)]
  | .bzzr1 hash => ["swarm", "bzzr1", String.ofList (Base16.encode hash)]
  | .ipfs multihash => ["ipfs", Base58.encode multihash]

variable {hash : ContentHash}

theorem path_eq_documentText (hash : ContentHash) :
    hash.path = Operation.documentText 1 hash.names := by
  cases hash <;>
    simp [path, names, Operation.documentText, ← String.toList_inj, String.intercalate_cons_of_ne_nil]

/-- Digits of either base are ordinary names. -/
theorem isSegment_of_digits {text : String} (some : text ≠ "")
    (digits : ∀ c ∈ text.toList, Base16.isLowDigit c = true ∨ c ∈ Base58.alphabet) :
    IsSegment text := by
  have without {c : Char} (other : ¬(Base16.isLowDigit c = true ∨ c ∈ Base58.alphabet)) :
      c ∉ text.toList := fun member => other (digits c member)
  refine ⟨some, ?_, ?_, without (by decide)⟩
  · rintro rfl
    exact without (c := '.') (by decide) (by decide)
  · rintro rfl
    exact without (c := '.') (by decide) (by decide)

theorem isSegment_names (filled : hash.bytes ≠ []) : ∀ name ∈ hash.names, IsSegment name := by
  have hex (bytes : List UInt8) (some : bytes ≠ []) :
      IsSegment (String.ofList (Base16.encode bytes)) := by
    refine isSegment_of_digits (fun empty => ?_) fun c member => .inl ?_
    · have long := Base16.length_encode bytes
      rw [String.ofList_eq_empty_iff.mp empty, List.length_nil] at long
      exact some (List.length_eq_zero_iff.mp (by omega))
    · rw [String.toList_ofList] at member
      exact Base16.isLow_encode bytes c member
  have base58 (bytes : List UInt8) (some : bytes ≠ []) : IsSegment (Base58.encode bytes) :=
    isSegment_of_digits (Base58.encode_ne_empty some) fun c member =>
      .inr (Store.mem_alphabet_of_mem_encode bytes member)
  cases hash with
  | bzzr0 bytes => simpa [names, hex bytes filled] using ⟨by decide, by decide⟩
  | bzzr1 bytes => simpa [names, hex bytes filled] using ⟨by decide, by decide⟩
  | ipfs bytes => simpa [names, base58 bytes filled] using by decide

/-- A hash that is published has some bytes. -/
theorem filled_of_ofValue? {value : Json} (published : ofValue? value = .ok (some hash)) :
    hash.bytes ≠ [] := by
  have entry {key : String} {entries : List (Cbor.Item × Cbor.Item)} {bytes : List UInt8}
      (found : bytesEntry? key entries = some bytes) : bytes ≠ [] := by
    unfold bytesEntry? at found
    split at found
    · split_ifs at found with empty
      rw [← Option.some.inj found]
      simpa using empty
    · cases found
  rw [ofValue?] at published
  cases read : Bytecode.auxdataOf value with
  | error fault =>
    rw [read] at published
    cases published
  | ok entries =>
    rw [read] at published
    obtain ⟨entries, -, hashed⟩ := Option.bind_eq_some_iff.mp (Except.ok.inj published)
    rw [ofEntries?] at hashed
    split at hashed
    next found => rw [← Option.some.inj hashed]; exact entry found
    next found => rw [← Option.some.inj hashed]; exact entry found
    next found =>
      split_ifs at hashed
      rw [← Option.some.inj hashed]
      exact entry found
    · cases hashed

/-- No document lies on the way to another one. -/
theorem not_prefix_names (hash other : ContentHash) : ¬ hash.names <+: other.names.dropLast := by
  cases hash <;> cases other <;> simp [names]

theorem names_apart (hash : ContentHash) :
    ∃ first rest, hash.names = first :: rest ∧ first ≠ "contracts" := by
  cases hash <;> exact ⟨_, _, rfl, by decide⟩

theorem names_ne_nil (hash : ContentHash) : hash.names ≠ [] := by
  obtain ⟨first, rest, parts, -⟩ := hash.names_apart
  exact parts ▸ List.cons_ne_nil _ _

/-- A document does not lie inside `contracts`, ... -/
theorem not_contracts_prefix_names (hash : ContentHash) (below : List String) :
    ¬ "contracts" :: below <+: hash.names := by
  obtain ⟨first, rest, parts, apart⟩ := hash.names_apart
  rw [parts]
  exact fun inside => apart (List.cons_prefix_cons.mp inside).1.symm

/-- ... and nothing inside `contracts` lies below a document. -/
theorem names_not_prefix_contracts (hash : ContentHash) (below : List String) :
    ¬ hash.names <+: "contracts" :: below := by
  obtain ⟨first, rest, parts, apart⟩ := hash.names_apart
  rw [parts]
  exact fun above => apart (List.cons_prefix_cons.mp above).1

end ContentHash

namespace Store

variable (store : Store) {hash : ContentHash} (filled : hash.bytes ≠ [])

include filled

theorem namesFrom_documentPath_of_filled :
    Tree.namesFrom store.here (store.documentPath hash.path) = store.rootNames ++ hash.names := by
  rw [hash.path_eq_documentText,
    Operation.namesFrom_documentText store 1 hash.names_ne_nil (ContentHash.isSegment_names filled)]

theorem anchor_documentPath : (store.documentPath hash.path).anchor = store.root.anchor := by
  have segments := ContentHash.isSegment_names filled
  have read := Path.ofString_intercalate segments hash.names_ne_nil
  rw [hash.path_eq_documentText, Operation.documentPath_documentText store 1 segments,
    Path.anchor_join _ (by rw [read])]

end Store

end SourceAttest
