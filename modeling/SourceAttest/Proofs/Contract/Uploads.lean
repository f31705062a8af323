import SourceAttest.Proofs.Contract.SuitableSources

/-!
# Uploads

Matching divides the sources of a document into those at hand and those that are missing. It goes by
what the uploaded files contain and not by what they are called: `partition_of_ofUpload` says how the
sources are divided, and what becomes of them when files are renamed, reordered or added.
-/
namespace SourceAttest.Contract

/-! ### Files by their hashes -/

/-- Files with the same hash have the same content. -/
def HashesApart (files : Table String String) : Prop :=
  ∀ content ∈ files.values, ∀ other ∈ files.values, sourceHash content = sourceHash other →
    content = other

section

variable {files others : Table String String} {hash content : String}

/-- Some uploaded file has a hash if and only if one is found under it. -/
theorem exists_byHash_iff :
    (∃ content, (byHash files).get? hash = some content) ↔
      ∃ content ∈ files.values, sourceHash content = hash := by
  constructor
  · rintro ⟨content, found⟩
    exact ⟨content, mem_values_of_byHash found⟩
  · rintro ⟨content, uploaded, rfl⟩
    apply Table.exists_get?_of_mem_keys
    apply Table.mem_keys_ofEntries.mpr
    simp only [Table.keys, List.map_map, List.mem_map]
    exact ⟨content, uploaded, rfl⟩

/-- If no two files collide, the file that is found under a hash is the one that has it. -/
theorem byHash_eq_some_iff (apart : HashesApart files) :
    (byHash files).get? hash = some content ↔ content ∈ files.values ∧ sourceHash content = hash := by
  refine ⟨mem_values_of_byHash, fun ⟨uploaded, right⟩ => ?_⟩
  obtain ⟨other, found⟩ := exists_byHash_iff.mpr ⟨content, uploaded, right⟩
  obtain ⟨uploaded', right'⟩ := mem_values_of_byHash found
  rw [found, apart content uploaded other uploaded' (right.trans right'.symm)]

theorem HashesApart.perm (apart : HashesApart files) (perm : others.values.Perm files.values) :
    HashesApart others := by
  intro content uploaded other uploaded'
  exact apart content (perm.subset uploaded) other (perm.subset uploaded')

/-- The order of the files does not matter if no two of them collide. -/
theorem byHash_perm (apart : HashesApart files) (perm : others.values.Perm files.values)
    (hash : String) : (byHash others).get? hash = (byHash files).get? hash := by
  apply Option.ext
  intro content
  rw [byHash_eq_some_iff apart, byHash_eq_some_iff (apart.perm perm), perm.mem_iff]

/-- The names of the files do not matter. -/
theorem byHash_congr (same : others.values = files.values) : byHash others = byHash files := by
  simp [byHash, same]

end

/-! ### One source -/

/-- A source is known by its content: the document holds it or declares a hash. -/
def ByContent (spec : Json) : Prop :=
  (∃ content, Inline spec content) ∨ ∃ hash, Declares spec hash ∧ hash ≠ ""

theorem Declares.unique {spec : Json} {hash other : String} (declares : Declares spec hash)
    (declares' : Declares spec other) : hash = other := by
  obtain ⟨members, declared, rfl, isDeclared, rfl⟩ := declares
  obtain ⟨_, declared', ⟨⟩, isDeclared', rfl⟩ := declares'
  cases isDeclared.symm.trans isDeclared'
  rfl

theorem ByContent.ne_empty {spec : Json} (byContent : ByContent spec)
    (bare : ∀ content, ¬ Inline spec content) {hash : String} (declares : Declares spec hash) :
    hash ≠ "" := by
  rcases byContent with ⟨content, held⟩ | ⟨other, declares', named⟩
  · exact absurd held (bare content)
  · rwa [declares.unique declares']

section

variable {files others : Table String String} {path : String} {spec : Json} {hash : String}

/-- What is found for a declared hash has that hash. -/
theorem Settles.sourceHash_of_found {content : Json} (settles : Settles files path spec (.found content))
    (bare : ∀ content, ¬ Inline spec content) (declares : Declares spec hash) (named : hash ≠ "") :
    ∃ text ∈ files.values, content = .string text ∧ sourceHash text = hash := by
  cases settles with
  | inline _ held => exact absurd held (bare content)
  | hashed declares' _ found =>
    cases declares.unique declares'
    obtain ⟨uploaded, right⟩ := mem_values_of_byHash found
    exact ⟨_, uploaded, rfl, right⟩
  | named declares' _ _ => exact absurd (declares.unique declares') named

/-- No file has the hash of a source that is missing. -/
theorem Settles.sourceHash_of_missing {source : MissingSource}
    (settles : Settles files path spec (.missing source)) (declares : Declares spec hash) :
    ∀ content ∈ files.values, sourceHash content ≠ hash := by
  intro content uploaded right
  cases settles with
  | missing declares' _ unhashed _ _ =>
    cases declares.unique declares'
    obtain ⟨other, found⟩ := exists_byHash_iff.mpr ⟨content, uploaded, right⟩
    cases unhashed.symm.trans found

theorem Settles.congr (same : ∀ hash, (byHash others).get? hash = (byHash files).get? hash)
    (byContent : ByContent spec) {placement : Placement} (settles : Settles files path spec placement) :
    Settles others path spec placement := by
  cases settles with
  | inline declares held => exact .inline declares held
  | hashed declares bare found => exact .hashed declares bare ((same _).trans found)
  | named declares bare _ =>
    -- The path is not looked at for a source that is known by its content.
    exact absurd rfl (byContent.ne_empty bare declares)
  | missing declares bare unhashed _ listed =>
    refine .missing declares bare ((same _).trans unhashed) (fun empty => ?_) listed
    exact absurd empty (byContent.ne_empty bare declares)

/-- A source that was found is found again, with the same content, when files are added. -/
theorem Settles.extend_found (apart : HashesApart others) (distinct : others.keys.Nodup)
    (kept : files ⊆ others) {content : Json} (settles : Settles files path spec (.found content)) :
    Settles others path spec (.found content) := by
  cases settles with
  | inline declares held => exact .inline declares held
  | hashed declares bare found =>
    obtain ⟨uploaded, right⟩ := mem_values_of_byHash found
    apply Settles.hashed declares bare
    exact (byHash_eq_some_iff apart).mpr ⟨List.map_subset _ kept uploaded, right⟩
  | named declares bare found =>
    apply Settles.named declares bare
    exact Table.get?_of_mem distinct (kept (Table.mem_of_get? found))

/-- A source that was missing may be found among other files, and else it is missing as before. -/
theorem Settles.extend_missing {source : MissingSource}
    (settles : Settles files path spec (.missing source)) (others : Table String String) :
    Settles others path spec (.missing source) ∨
      ∃ content, Settles others path spec (.found content) := by
  cases settles with
  | @missing hash urls declares bare _ _ listed =>
    cases found : (byHash others).get? hash with
    | some content => exact .inr ⟨_, .hashed declares bare found⟩
    | none =>
      by_cases empty : hash = ""
      · subst empty
        cases named : others.get? path with
        | some content => exact .inr ⟨_, .named declares bare named⟩
        | none => exact .inl (.missing declares bare found (fun _ => named) listed)
      · exact .inl (.missing declares bare found (fun again => absurd again empty) listed)

end

/-! ### All sources -/

/-- The paths of a document are divided between what is at hand and what is missing, in their order. -/
structure Partitions (paths : List String) (contract : Contract) : Prop where
  sources : contract.sources.keys.Sublist paths
  missing : contract.missing.keys.Sublist paths
  one : ∀ path ∈ paths, path ∈ contract.sources.keys ↔ path ∉ contract.missing.keys

namespace Sorts

variable {files others : Table String String} {specs : List (String × Json)}
  {sources : Table String Json} {missing : Table String MissingSource}

theorem sources_sublist (sorts : Sorts files specs sources missing) :
    sources.keys.Sublist (Table.keys specs) := by
  induction sorts with
  | nil => exact .slnil
  | found _ _ ih => exact ih.cons_cons _
  | missing _ _ ih => exact ih.cons _

theorem missing_sublist (sorts : Sorts files specs sources missing) :
    missing.keys.Sublist (Table.keys specs) := by
  induction sorts with
  | nil => exact .slnil
  | found _ _ ih => exact ih.cons _
  | missing _ _ ih => exact ih.cons_cons _

theorem disjoint (sorts : Sorts files specs sources missing) (distinct : (Table.keys specs).Nodup) :
    ∀ path ∈ sources.keys, path ∉ missing.keys := by
  induction sorts with
  | nil => simp [Table.keys]
  | found _ rest ih =>
    obtain ⟨new, distinct⟩ := List.nodup_cons.mp distinct
    intro path atHand lacking
    -- The first path comes only once, so it is not among those that are missing.
    rcases List.mem_cons.mp atHand with rfl | later
    · exact new (rest.missing_sublist.subset lacking)
    · exact ih distinct path later lacking
  | missing _ rest ih =>
    obtain ⟨new, distinct⟩ := List.nodup_cons.mp distinct
    intro path atHand lacking
    rcases List.mem_cons.mp lacking with rfl | later
    · exact new (rest.sources_sublist.subset atHand)
    · exact ih distinct path atHand later

theorem congr (same : ∀ hash, (byHash others).get? hash = (byHash files).get? hash)
    (byContent : ∀ entry ∈ specs, ByContent entry.2) (sorts : Sorts files specs sources missing) :
    Sorts others specs sources missing := by
  induction sorts with
  | nil => exact .nil
  | found settles _ ih =>
    obtain ⟨first, later⟩ := List.forall_mem_cons.mp byContent
    exact .found (settles.congr same first) (ih later)
  | missing settles _ ih =>
    obtain ⟨first, later⟩ := List.forall_mem_cons.mp byContent
    exact .missing (settles.congr same first) (ih later)

/-- When files are added, what was at hand stays as it is, and something missing may be found. -/
theorem extend (apart : HashesApart others) (distinct : others.keys.Nodup) (kept : files ⊆ others)
    (sorts : Sorts files specs sources missing) :
    ∃ sources' missing', Sorts others specs sources' missing' ∧ sources.Sublist sources' := by
  induction sorts with
  | nil => exact ⟨[], [], .nil, .slnil⟩
  | found settles _ ih =>
    obtain ⟨sources', missing', sorts', grown⟩ := ih
    exact ⟨_, _, .found (settles.extend_found apart distinct kept) sorts', grown.cons_cons _⟩
  | missing settles _ ih =>
    obtain ⟨sources', missing', sorts', grown⟩ := ih
    rcases settles.extend_missing others with again | ⟨content, found⟩
    · exact ⟨_, _, .missing again sorts', grown⟩
    · exact ⟨_, _, .found found sorts', grown.cons _⟩

/-- What is at hand for a source that is known by a hash is a file with this hash. -/
theorem file_of_get? (sorts : Sorts files specs sources missing) (distinct : (Table.keys specs).Nodup)
    {path hash : String} {spec content : Json} (named : (path, spec) ∈ specs)
    (bare : ∀ content, ¬ Inline spec content) (declares : Declares spec hash) (notEmpty : hash ≠ "")
    (found : sources.get? path = some content) :
    ∃ text ∈ files.values, content = .string text ∧ sourceHash text = hash := by
  obtain ⟨other, named', settles⟩ := sorts.settles_of_mem_sources (Table.mem_of_get? found)
  cases Table.eq_of_mem_of_nodup distinct named named'
  exact settles.sourceHash_of_found bare declares notEmpty

/-- A source that is known by a hash is at hand if and only if some file has this hash. -/
theorem mem_keys_iff_of_hash (sorts : Sorts files specs sources missing)
    (distinct : (Table.keys specs).Nodup) {path hash : String} {spec : Json}
    (named : (path, spec) ∈ specs) (bare : ∀ content, ¬ Inline spec content)
    (declares : Declares spec hash) (notEmpty : hash ≠ "") :
    path ∈ sources.keys ↔ ∃ content ∈ files.values, sourceHash content = hash := by
  constructor
  · intro atHand
    obtain ⟨content, found⟩ := Table.exists_get?_of_mem_keys atHand
    obtain ⟨text, uploaded, _, right⟩ := sorts.file_of_get? distinct named bare declares notEmpty found
    exact ⟨text, uploaded, right⟩
  · rintro ⟨content, uploaded, right⟩
    apply (sorts.covers (List.mem_map.mpr ⟨_, named, rfl⟩)).resolve_right
    intro lacking
    obtain ⟨source, found⟩ := Table.exists_get?_of_mem_keys lacking
    obtain ⟨other, named', settles⟩ := sorts.settles_of_mem_missing (Table.mem_of_get? found)
    cases Table.eq_of_mem_of_nodup distinct named named'
    exact settles.sourceHash_of_missing declares content uploaded right

end Sorts

/-! ### Uploads of the same document -/

section

variable {text : String} {uploaded again : Json} {files others : Table String String}
  {contract : Contract}

theorem ofUpload_of_same_hashes (matched : ofUpload (.string text) uploaded = .ok contract)
    (uploads : uploadedFiles uploaded = .ok files) (uploads' : uploadedFiles again = .ok others)
    (same : ∀ hash, (byHash others).get? hash = (byHash files).get? hash)
    {specs : List (String × Json)} (names : Names contract.metadata specs)
    (byContent : ∀ entry ∈ specs, ByContent entry.2) :
    ofUpload (.string text) again = .ok contract := by
  obtain ⟨document, _, _, sources, missing, read, uploads'', names', sorts, rfl⟩ :=
    ofUpload_eq_ok_iff.mp matched
  cases uploads.symm.trans uploads''
  cases Except.ok.inj (Eq.trans (Eq.symm names) names')
  apply ofUpload_eq_ok_iff.mpr
  exact ⟨document, others, specs, sources, missing, read, uploads', names, sorts.congr same byContent,
    rfl⟩

/-- Files that are added under new names take nothing away and change nothing, if none collide. -/
theorem ofUpload_of_added (matched : ofUpload (.string text) uploaded = .ok contract)
    (uploads : uploadedFiles uploaded = .ok files) (uploads' : uploadedFiles again = .ok others)
    (distinct : others.keys.Nodup) (apart : HashesApart others) (kept : files ⊆ others) :
    ∃ extended, ofUpload (.string text) again = .ok extended ∧
      ∀ path content, contract.sources.get? path = some content →
        extended.sources.get? path = some content := by
  obtain ⟨document, _, specs, sources, missing, read, uploads'', names, sorts, rfl⟩ :=
    ofUpload_eq_ok_iff.mp matched
  cases uploads.symm.trans uploads''
  obtain ⟨sources', missing', sorts', grown⟩ := sorts.extend apart distinct kept
  refine ⟨_, ofUpload_eq_ok_iff.mpr ⟨document, others, specs, sources', missing', read, uploads', names,
    sorts', rfl⟩, fun path content found => ?_⟩
  have named := names.nodup (Json.wellFormed_of_read (read_of_ofText read))
  apply Table.get?_of_mem (sorts'.sources_sublist.nodup named)
  exact grown.subset (Table.mem_of_get? found)

/-- Matching divides the sources of a document, in their order, between those at hand and those that
are missing. A source that is known by a hash is at hand if and only if some file has this hash, and
then its content has it. If all sources are known by their contents, the names of the files do not
matter, nor does their order if no two of them collide; and files that are added take nothing away. -/
theorem partition_of_ofUpload (uploads : uploadedFiles uploaded = .ok files)
    (matched : ofUpload (.string text) uploaded = .ok contract) :
    ∃ specs, Json.read text = .ok contract.metadata ∧ Names contract.metadata specs ∧
      (Table.keys specs).Nodup ∧ Partitions (Table.keys specs) contract ∧
      (∀ path spec hash, (path, spec) ∈ specs → (∀ content, ¬ Inline spec content) →
        Declares spec hash → hash ≠ "" →
          (∀ content, contract.sources.get? path = some content →
            ∃ text, content = .string text ∧ sourceHash text = hash) ∧
          (path ∈ contract.sources.keys ↔ ∃ content ∈ files.values, sourceHash content = hash)) ∧
      ((∀ entry ∈ specs, ByContent entry.2) → ∀ again others, uploadedFiles again = .ok others →
        others.values = files.values ∨ HashesApart files ∧ others.values.Perm files.values →
          ofUpload (.string text) again = .ok contract) ∧
      ∀ again others, uploadedFiles again = .ok others → others.keys.Nodup → HashesApart others →
        files ⊆ others → ∃ extended, ofUpload (.string text) again = .ok extended ∧
          ∀ path content, contract.sources.get? path = some content →
            extended.sources.get? path = some content := by
  have reached := ofUpload_eq_ok_iff.mp matched
  obtain ⟨document, _, specs, sources, missing, read, uploads', names, sorts, isContract⟩ := reached
  cases uploads.symm.trans uploads'
  have isRead := read_of_ofText read
  have distinct := names.nodup (Json.wellFormed_of_read isRead)
  have isMetadata : contract.metadata = document.metadata := by rw [isContract]
  rw [isMetadata]
  refine ⟨specs, isRead, names, distinct, ?partitions, ?hashes, ?renamed, ?added⟩
  case partitions =>
    rw [isContract]
    refine ⟨sorts.sources_sublist, sorts.missing_sublist, fun path named => ?_⟩
    exact ⟨sorts.disjoint distinct path, fun present => (sorts.covers named).resolve_right present⟩
  case hashes =>
    intro path spec hash named bare declares notEmpty
    rw [isContract]
    refine ⟨fun content found => ?_, sorts.mem_keys_iff_of_hash distinct named bare declares notEmpty⟩
    obtain ⟨text, _, same⟩ := sorts.file_of_get? distinct named bare declares notEmpty found
    exact ⟨text, same⟩
  case renamed =>
    intro byContent again others uploads' alike
    apply ofUpload_of_same_hashes matched uploads uploads' ?_ (isMetadata ▸ names) byContent
    -- Other names leave the index of hashes as it is, and another order what is found in it.
    rcases alike with same | ⟨apart, perm⟩
    · simp [byHash_congr same]
    · exact byHash_perm apart perm
  case added =>
    intro again others uploads' distinct apart kept
    exact ofUpload_of_added matched uploads uploads' distinct apart kept

end

namespace Hashed

/-- The document declares a hash in capitals, and the file is uploaded under another name. -/
def text : String :=
  "\x7b\"settings\": \x7b\"compilationTarget\": \x7b\"b.sol\": \"B\"\x7d\x7d, \"sources\": " ++
  "\x7b\"b.sol\": \x7b\"keccak256\": " ++
  "\"0X01C760845480561EFD0D5B1B13943409C8D9F2FA5CCEFFDB8D02A15EA0A352DF\"\x7d\x7d\x7d"

def spec : Json := .object [("keccak256",
  .string "0X01C760845480561EFD0D5B1B13943409C8D9F2FA5CCEFFDB8D02A15EA0A352DF")]

def metadata : Json :=
  .object [("settings", .object [("compilationTarget", .object [("b.sol", .string "B")])]),
    ("sources", .object [("b.sol", spec)])]

def files : Table String String := [("other.sol", "contract B")]

def upload (name : String) : Json := .object [(name, .string "contract B")]

def contract : Contract :=
  ⟨.string "B", "b.sol", metadata, [("b.sol", .string "contract B")], []⟩

theorem sourceHash_content : sourceHash "contract B"
    = "0x01c760845480561efd0d5b1b13943409c8d9f2fa5cceffdb8d02a15ea0a352df" := by decide +kernel

theorem bare : ∀ content, ¬ Inline spec content := get?_content_eq_none.mp rfl

theorem declares : Declares spec (sourceHash "contract B") := by
  rw [sourceHash_content]
  exact ⟨_, _, rfl, rfl, by decide +kernel⟩

theorem sorts_spec : Sorts files [("b.sol", spec)] contract.sources [] := by
  have found : (byHash files).get? (sourceHash "contract B") = some "contract B" := by
    simp [byHash, files, Table.values, Table.ofEntries, Table.put, Table.get?]
  exact .found (.hashed declares bare found) .nil

theorem ofUpload_text : ofUpload (.string text) (upload "other.sol") = .ok contract := by
  have read : Json.read text = .ok metadata := Outcome.eq_ok_of_toOption (by decide +kernel)
  have document : Document.ofText text = .ok ⟨metadata, "b.sol", .string "B"⟩ := by
    rw [Document.ofText, read]
    rfl
  apply ofUpload_eq_ok_iff.mpr
  exact ⟨_, files, [("b.sol", spec)], _, _, document, rfl, rfl, sorts_spec, rfl⟩

theorem byContent : ∀ entry ∈ [("b.sol", spec)], ByContent entry.2 := by
  have notEmpty : sourceHash "contract B" ≠ "" := by simp [sourceHash]
  exact List.forall_mem_singleton.mpr (.inr ⟨_, declares, notEmpty⟩)

end Hashed

/-- A source that is known by its hash is at hand, whatever its file is called. -/
theorem partition_of_ofUpload_of_another_name :
    uploadedFiles (Hashed.upload "other.sol") = .ok Hashed.files ∧
    ofUpload (.string Hashed.text) (Hashed.upload "other.sol") = .ok Hashed.contract ∧
    ∀ name, ofUpload (.string Hashed.text) (Hashed.upload name) = .ok Hashed.contract := by
  have uploads : uploadedFiles (Hashed.upload "other.sol") = .ok Hashed.files := rfl
  obtain ⟨specs, _, names, _, _, _, renamed, _⟩ := partition_of_ofUpload uploads Hashed.ofUpload_text
  have named : Names Hashed.contract.metadata [("b.sol", Hashed.spec)] := rfl
  cases Except.ok.inj (Eq.trans (Eq.symm names) named)
  refine ⟨uploads, Hashed.ofUpload_text, fun name => ?_⟩
  exact renamed Hashed.byContent _ [(name, "contract B")] rfl (.inl rfl)

end SourceAttest.Contract
