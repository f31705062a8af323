import SourceAttest.Proofs.Base58
import SourceAttest.Proofs.Repository.Documents

/-!
# Content addresses

The path of a document is the content hash that its code publishes, written as names. The hash can be
read off the path, so different hashes never meet in one path, and no such path leads into `contracts`.
The main result is `storagePath_of_codes`.
-/
namespace SourceAttest

namespace ContentHash

/-! ### The hash that a code publishes -/

/-- The value of a key is a byte string that is not empty. -/
def HoldsBytes (entries : List (Cbor.Item × Cbor.Item)) (key : String) (bytes : List UInt8) : Prop :=
  Cbor.textEntry? key entries = some (.bytes bytes) ∧ bytes ≠ []

/-- There is a digest, and the second byte is its length. -/
def IsWellFormed (multihash : List UInt8) : Prop :=
  3 ≤ multihash.length ∧ multihash[1]?.map UInt8.toNat = some (multihash.length - 2)

/-- The hash that a map publishes. An older kind wins over a newer one, and a value that is no byte
string of the right form counts as none. -/
inductive Chosen (entries : List (Cbor.Item × Cbor.Item)) : ContentHash → Prop
  | bzzr0 {bytes : List UInt8} (first : HoldsBytes entries "bzzr0" bytes) :
      Chosen entries (.bzzr0 bytes)
  | bzzr1 {bytes : List UInt8} (noFirst : ∀ other, ¬ HoldsBytes entries "bzzr0" other)
      (second : HoldsBytes entries "bzzr1" bytes) : Chosen entries (.bzzr1 bytes)
  | ipfs {bytes : List UInt8} (noFirst : ∀ other, ¬ HoldsBytes entries "bzzr0" other)
      (noSecond : ∀ other, ¬ HoldsBytes entries "bzzr1" other)
      (third : Cbor.textEntry? "ipfs" entries = some (.bytes bytes)) (wellFormed : IsWellFormed bytes) :
      Chosen entries (.ipfs bytes)

def Publishes (code : String) (hash : ContentHash) : Prop :=
  ∃ entries, Bytecode.auxdata? code = some entries ∧ Chosen entries hash

variable {entries : List (Cbor.Item × Cbor.Item)} {key : String} {bytes : List UInt8}
  {code : String} {hash other : ContentHash}

theorem bytesEntry?_eq_some_iff : bytesEntry? key entries = some bytes ↔ HoldsBytes entries key bytes := by
  unfold bytesEntry? HoldsBytes
  split
  next found held =>
    split_ifs with empty
    · have none : found = [] := by simpa using empty
      simp only [held, Option.some.injEq, Cbor.Item.bytes.injEq]
      simp [none]
    · have some : found ≠ [] := by simpa using empty
      simp only [held, Option.some.injEq, Cbor.Item.bytes.injEq]
      constructor
      · rintro rfl
        exact ⟨rfl, some⟩
      · exact fun holds => holds.1
  next unheld =>
    constructor
    · intro found
      cases found
    · exact fun holds => absurd holds.1 (unheld bytes)

theorem bytesEntry?_eq_none_iff :
    bytesEntry? key entries = none ↔ ∀ other, ¬ HoldsBytes entries key other := by
  simp only [Option.eq_none_iff_forall_ne_some, ne_eq, bytesEntry?_eq_some_iff]

theorem isMultihash_iff : isMultihash bytes = true ↔ IsWellFormed bytes := by
  unfold isMultihash IsWellFormed
  split
  next first size digest =>
    cases digest with
    | nil => simp
    | cons byte rest => simp
  next short =>
    constructor
    · exact fun isFalse => absurd isFalse Bool.false_ne_true
    · rintro ⟨long, -⟩
      match bytes, long with
      | first :: size :: digest, _ => exact absurd rfl (short first size digest)

theorem ofEntries?_eq_some_iff : ofEntries? entries = some hash ↔ Chosen entries hash := by
  unfold ofEntries?
  constructor
  · intro found
    split at found
    next first =>
      cases found
      exact .bzzr0 (bytesEntry?_eq_some_iff.mp first)
    next noFirst second =>
      cases found
      exact .bzzr1 (bytesEntry?_eq_none_iff.mp noFirst) (bytesEntry?_eq_some_iff.mp second)
    next noFirst noSecond third =>
      split_ifs at found with multihash
      cases found
      exact .ipfs (bytesEntry?_eq_none_iff.mp noFirst) (bytesEntry?_eq_none_iff.mp noSecond)
        (bytesEntry?_eq_some_iff.mp third).1 (isMultihash_iff.mp multihash)
    · cases found
  · intro chosen
    cases chosen with
    | bzzr0 first => rw [bytesEntry?_eq_some_iff.mpr first]
    | bzzr1 noFirst second =>
      rw [bytesEntry?_eq_none_iff.mpr noFirst, bytesEntry?_eq_some_iff.mpr second]
    | @ipfs bytes noFirst noSecond third wellFormed =>
      -- A well-formed value is not empty, so it is found in the same way as the older ones.
      have filled : bytes ≠ [] := by
        rintro rfl
        exact absurd wellFormed.1 (by decide)
      rw [bytesEntry?_eq_none_iff.mpr noFirst, bytesEntry?_eq_none_iff.mpr noSecond,
        bytesEntry?_eq_some_iff.mpr ⟨third, filled⟩]
      exact if_pos (isMultihash_iff.mpr wellFormed)

theorem ofCode?_eq_some_iff : ofCode? code = some hash ↔ Publishes code hash := by
  simp only [ofCode?, Option.bind_eq_some_iff, ofEntries?_eq_some_iff, Publishes]

theorem Publishes.unique (publishes : Publishes code hash) (publishes' : Publishes code other) :
    other = hash := by
  rw [← ofCode?_eq_some_iff] at publishes publishes'
  exact Option.some.inj (publishes'.symm.trans publishes)

theorem Publishes.filled (publishes : Publishes code hash) : hash.bytes ≠ [] := by
  have found : ofValue? (.string code) = .ok (some hash) :=
    congrArg Except.ok (ofCode?_eq_some_iff.mpr publishes)
  exact filled_of_ofValue? found

/-! ### The path of a hash -/

/-- A name of ASCII letters and digits. -/
def IsPlainName (name : String) : Prop := name ≠ "" ∧ ∀ c ∈ name.toList, c.isAlphanum = true

/-- The last name of a path reads as the bytes of a hash: in base 16 under the older keys, in base 58
under the newer one. -/
inductive Locates : String → ContentHash → Prop
  | bzzr0 {name : String} {bytes : List UInt8} (plain : IsPlainName name)
      (reads : Base16.decode? name.toList = some bytes) : Locates ("/swarm/bzzr0/" ++ name) (.bzzr0 bytes)
  | bzzr1 {name : String} {bytes : List UInt8} (plain : IsPlainName name)
      (reads : Base16.decode? name.toList = some bytes) : Locates ("/swarm/bzzr1/" ++ name) (.bzzr1 bytes)
  | ipfs {name : String} {bytes : List UInt8} (plain : IsPlainName name)
      (reads : Base58.decode? name = some bytes) : Locates ("/ipfs/" ++ name) (.ipfs bytes)

theorem isAlphanum_of_low {c : Char} (low : Base16.isLowDigit c = true) : c.isAlphanum = true := by
  obtain ⟨n, small, rfl, -⟩ := Base16.exists_digit_of_low low
  have all : ∀ n < 16, (Base16.digit n).isAlphanum = true := by decide
  exact all n small

theorem isAlphanum_of_mem_alphabet : ∀ c ∈ Base58.alphabet, c.isAlphanum = true := by
  have all : Base58.alphabet.all Char.isAlphanum = true := by decide
  exact List.all_eq_true.mp all

theorem isPlainName_base16 (filled : bytes ≠ []) :
    IsPlainName (String.ofList (Base16.encode bytes)) := by
  constructor
  · intro empty
    have long := Base16.length_encode bytes
    rw [String.ofList_eq_empty_iff.mp empty, List.length_nil] at long
    exact filled (List.length_eq_zero_iff.mp (by omega))
  · intro c member
    rw [String.toList_ofList] at member
    exact isAlphanum_of_low (Base16.isLow_encode bytes c member)

theorem isPlainName_base58 (filled : bytes ≠ []) : IsPlainName (Base58.encode bytes) :=
  ⟨Base58.encode_ne_empty filled, fun c member =>
    isAlphanum_of_mem_alphabet c (Store.mem_alphabet_of_mem_encode bytes member)⟩

theorem locates_path (filled : hash.bytes ≠ []) : Locates hash.path hash := by
  have reads (bytes : List UInt8) :
      Base16.decode? (String.ofList (Base16.encode bytes)).toList = some bytes := by
    rw [String.toList_ofList, Base16.decode?_encode]
  cases hash with
  | bzzr0 bytes => exact .bzzr0 (isPlainName_base16 filled) (reads bytes)
  | bzzr1 bytes => exact .bzzr1 (isPlainName_base16 filled) (reads bytes)
  | ipfs bytes => exact .ipfs (isPlainName_base58 filled) (Base58.decode?_encode bytes)

/-- Different hashes are kept in different places. -/
theorem path_eq_iff (hash other : ContentHash) : hash.path = other.path ↔ hash = other := by
  have base16 (bytes bytes' : List UInt8) :
      Base16.encode bytes = Base16.encode bytes' ↔ bytes = bytes' :=
    ⟨Base16.encode_inj, congrArg Base16.encode⟩
  have base58 (bytes bytes' : List UInt8) :
      (Base58.encode bytes).toList = (Base58.encode bytes').toList ↔ bytes = bytes' := by
    rw [String.toList_inj]
    exact ⟨Base58.encode_inj, congrArg Base58.encode⟩
  -- Paths of different kinds differ before their last names.
  cases hash with
  | bzzr0 bytes => cases other <;> simp [path, ← String.toList_inj, base16]
  | bzzr1 bytes => cases other <;> simp [path, ← String.toList_inj, base16]
  | ipfs bytes => cases other <;> simp [path, ← String.toList_inj, base58]

end ContentHash

/-! ### Saving a document -/

namespace Store

variable {store : Store} {before after : Tree}

/-- What lies inside `contracts` stays, and no file is new there. Nothing at all is new there unless the
root is given by double dots, which may lead through there. -/
structure KeepsContracts (store : Store) (before after : Tree) : Prop where
  held : ∀ place node, store.rootPlace ++ ["contracts"] <+: place → before.node? place = some node →
    after.node? place = some node
  files : ∀ place, store.rootPlace ++ ["contracts"] <+: place → after.file? place = before.file? place
  plain : ".." ∉ store.rootNames → ∀ place, store.rootPlace ++ ["contracts"] <+: place →
    after.node? place = before.node? place

/-- Inside `contracts`, only the way to the root can have been made. -/
theorem keepsContracts_of_cases
    (cases : ∀ place, store.rootPlace ++ ["contracts"] <+: place →
      after.node? place = before.node? place ∨
      (before.node? place = none ∧ after.node? place = some .directory ∧
        ∃ passed, passed <+: store.rootNames ∧ place = Place.follow [] passed)) :
    store.KeepsContracts before after := by
  refine ⟨fun place node inside held => ?_, fun place inside => ?_, fun plain place inside => ?_⟩
  · rcases cases place inside with same | ⟨absent, -⟩
    · exact same.trans held
    · rw [absent] at held
      cases held
  · rcases cases place inside with same | ⟨absent, made, -⟩
    · exact Tree.file?_of_node? same
    · rw [Tree.file?, Tree.file?, absent, made]
  · rcases cases place inside with same | ⟨-, -, passed, early, rfl⟩
    · exact same
    -- Without double dots the way to the root is above the root.
    · have shallow : ".." ∉ passed := fun up => plain (early.subset up)
      have long := inside.length_le
      have short := early.length_le
      rw [rootPlace, Place.follow_of_plain _ _ plain, Place.follow_of_plain _ _ shallow] at long
      simp at long
      omega

/-- Whether it succeeds or not, saving a document keeps out of `contracts`. -/
theorem keepsContracts_of_saveAt (store : Store) {hash : ContentHash} (filled : hash.bytes ≠ [])
    (artifact : Artifact) (tree : Tree) :
    store.KeepsContracts tree (store.saveAt hash.path artifact tree).2 := by
  have names := store.namesFrom_documentPath_of_filled filled
  have down : ".." ∉ hash.names := fun up => (ContentHash.isSegment_names filled _ up).2.2.1 rfl
  have beside (further : List String) (part : further <+: hash.names) :
      ¬ store.rootPlace ++ ["contracts"] <+: store.rootPlace ++ further := by
    intro inside
    have first := (List.prefix_append_right_inj _).mp inside
    exact hash.not_contracts_prefix_names [] (first.trans part)
  -- On the way to the document, only the way to the root can lead into `contracts`.
  have early (place : Place) (inside : store.rootPlace ++ ["contracts"] <+: place) {passed : List String}
      (onTheWay : passed <+: store.rootNames ++ hash.names) (leads : place = Place.follow [] passed) :
      ∃ passed, passed <+: store.rootNames ∧ place = Place.follow [] passed := by
    rcases store.onTheWay_cases down onTheWay with early | ⟨further, part, ends⟩
    · exact ⟨passed, early, leads⟩
    · rw [leads, ends] at inside
      exact absurd inside (beside further part)
  apply keepsContracts_of_cases
  intro place inside
  rcases store.cases_of_write (store.documentPath hash.path) artifact tree with grows | ⟨content, writes⟩
  · rcases grows.each place with same | ⟨absent, made, passed, onTheWay, leads⟩
    · exact .inl same
    · have whole := onTheWay.trans (namesFrom_parent_shorter store.here _)
      rw [names] at whole
      exact .inr ⟨absent, made, early place inside whole leads⟩
  · rw [names] at writes
    have different : place ≠ Place.follow [] (store.rootNames ++ hash.names) := by
      rintro rfl
      rw [Place.follow_append, Place.follow_of_plain _ _ down] at inside
      exact beside hash.names (List.prefix_refl _) inside
    rcases writes.others place different with same | ⟨absent, made, passed, onTheWay, leads⟩
    · exact .inl same
    · exact .inr ⟨absent, made, early place inside onTheWay leads⟩

end Store

open ContentHash (Publishes Locates)

/-- The path under which the document of a code is kept, if the code publishes a hash. -/
def storagePath? (code : String) : Option String := (ContentHash.ofCode? code).map ContentHash.path

theorem storagePath?_eq_some_iff {code path : String} :
    storagePath? code = some path ↔ ∃ hash, Publishes code hash ∧ hash.path = path := by
  simp only [storagePath?, Option.map_eq_some_iff, ContentHash.ofCode?_eq_some_iff]

/-- A code has a storage path exactly if it publishes a hash, and two codes share their paths exactly if
they publish the same hash. The hash can be read off the last name of the path, which holds nothing but
letters and digits, and saving a document there keeps out of `contracts`. -/
theorem storagePath_of_codes (code other : String) :
    (ContentHash.ofValue? (.string code)).map (Option.map ContentHash.path) = .ok (storagePath? code) ∧
    (storagePath? code = none ↔ ∀ hash, ¬ Publishes code hash) ∧
    (∀ path path' hash hash', storagePath? code = some path → storagePath? other = some path' →
      Publishes code hash → Publishes other hash' → (path = path' ↔ hash = hash')) ∧
    ∀ path, storagePath? code = some path →
      ∃ hash, (∀ hash', Publishes code hash' ↔ hash' = hash) ∧ Locates path hash ∧
        ∀ (store : Store) (artifact : Artifact) (tree : Tree),
          store.KeepsContracts tree (store.saveAt path artifact tree).2 := by
  refine ⟨rfl, ?_, ?_, ?_⟩
  · simp only [Option.eq_none_iff_forall_ne_some, ne_eq, storagePath?_eq_some_iff]
    constructor
    · exact fun none hash publishes => none hash.path ⟨hash, publishes, rfl⟩
    · rintro none path ⟨hash, publishes, -⟩
      exact none hash publishes
  · intro path path' hash hash' found found' publishes publishes'
    obtain ⟨_, first, rfl⟩ := storagePath?_eq_some_iff.mp found
    obtain ⟨_, second, rfl⟩ := storagePath?_eq_some_iff.mp found'
    rw [first.unique publishes, second.unique publishes']
    exact ContentHash.path_eq_iff ..
  · intro path found
    obtain ⟨hash, publishes, rfl⟩ := storagePath?_eq_some_iff.mp found
    have filled := publishes.filled
    refine ⟨hash, fun hash' => ⟨publishes.unique, ?_⟩, ContentHash.locates_path filled,
      fun store => store.keepsContracts_of_saveAt filled⟩
    rintro rfl
    exact publishes

/-- Two codes with the same newer hash, where the first one has an older one besides. -/
theorem storagePath_of_codes_of_two_kinds :
    let first := "0x6080a265627a7a723041016469706673431201ff0012"
    let second := "0x6080a16469706673431201ff000a"
    storagePath? first = some "/swarm/bzzr0/01" ∧ storagePath? second = some "/ipfs/73pa" ∧
    Publishes first (.bzzr0 [1]) ∧ Publishes second (.ipfs [0x12, 1, 0xff]) ∧
    ("/swarm/bzzr0/01" = "/ipfs/73pa" ↔ ContentHash.bzzr0 [1] = .ipfs [0x12, 1, 0xff]) ∧
    Locates "/ipfs/73pa" (.ipfs [0x12, 1, 0xff]) := by
  intro first second
  have older : ContentHash.ofCode? first = some (.bzzr0 [1]) := by decide +kernel
  have newer : ContentHash.ofCode? second = some (.ipfs [0x12, 1, 0xff]) := by decide +kernel
  have written : Base58.encode [0x12, 1, 0xff] = "73pa" := by
    have number : Base58.toNumber [0x12, 1, 0xff] = 1180159 := rfl
    rw [Base58.encode, number]
    simp [Base58.reversedDigits]
    decide +kernel
  have path : storagePath? first = some "/swarm/bzzr0/01" := by
    rw [storagePath?, older]
    decide
  have path' : storagePath? second = some "/ipfs/73pa" := by
    rw [storagePath?, newer, Option.map_some, ContentHash.path, written]
    decide
  have publishes := ContentHash.ofCode?_eq_some_iff.mp older
  have publishes' := ContentHash.ofCode?_eq_some_iff.mp newer
  obtain ⟨-, -, apart, -⟩ := storagePath_of_codes first second
  obtain ⟨-, -, -, located⟩ := storagePath_of_codes second first
  obtain ⟨hash, isHash, locates, -⟩ := located _ path'
  refine ⟨path, path', publishes, publishes', apart _ _ _ _ path path' publishes publishes', ?_⟩
  rwa [← (isHash _).mp publishes'] at locates

end SourceAttest
