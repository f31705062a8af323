import SourceAttest.Proofs.Matching
import SourceAttest.Proofs.Repository.Filling

/-!
# Storing a record

A contract that matches is stored in two parts: its document under the content hash, and the files of
the record, which are its sources, the metadata and the constructor arguments, one after the other
(`storeRecord_eq_ok_iff`). `Recorded` is what the file tree and the result are then like, and
`recorded_of_storeRecord` is the main result: whatever the tree was before, storing that returns
leaves them like that.
-/
namespace SourceAttest.Verification

open SourceAttest.Action SourceAttest.Tree Store

variable {store : Store} {logger : Logger} {quality : Quality} {chain address : String}
  {contract : Contract} {artifact : CompiledArtifact} {verdict : Verdict} {status : MatchStatus}
  {world : World} {session final : Session}

/-- The quality under which a match is recorded. -/
def qualityOf (status : MatchStatus) : Quality := if status = .exact then .full else .partly

/-! ### The files of a record -/

def sourceFiles (store : Store) (quality : Quality) (chain address : String)
    (sources : List (String × Json)) : List (Path × Artifact) :=
  sources.map fun (path, content) =>
    (store.targetPath ⟨quality, chain, address, sanitizePath path, true⟩, .value content)

def metadataPath (store : Store) (quality : Quality) (chain address : String) : Path :=
  store.targetPath ⟨quality, chain, address, "metadata.json", false⟩

/-- The file of the constructor arguments; empty ones are not written. -/
def argumentFiles (store : Store) (quality : Quality) (chain address : String) :
    Option String → List (Path × Artifact)
  | some args =>
    if args ≠ "" then
      [(store.targetPath ⟨quality, chain, address, "constructor-args.txt", false⟩,
        .value (.string args))]
    else []
  | none => []

theorem mem_sourceFiles {sources : List (String × Json)} {file : Path × Artifact}
    (member : file ∈ sourceFiles store quality chain address sources) :
    ∃ entry ∈ sources,
      file.1 = store.targetPath ⟨quality, chain, address, sanitizePath entry.1, true⟩ := by
  obtain ⟨entry, listed, same⟩ := List.mem_map.mp member
  refine ⟨entry, listed, ?_⟩
  rw [← same]

theorem mem_argumentFiles {arguments : Option String} {file : Path × Artifact}
    (member : file ∈ argumentFiles store quality chain address arguments) :
    ∃ args, arguments = some args ∧
      file.1 = store.targetPath ⟨quality, chain, address, "constructor-args.txt", false⟩ := by
  cases arguments with
  | none => cases member
  | some args =>
    rw [argumentFiles] at member
    split at member
    · exact ⟨args, rfl, congrArg Prod.fst (List.mem_singleton.mp member)⟩
    · cases member

def recordFiles (store : Store) (quality : Quality) (chain address : String) (contract : Contract)
    (metadata : Json) (arguments : Option String) : List (Path × Artifact) :=
  sourceFiles store quality chain address contract.sources ++
    ((metadataPath store quality chain address, .value metadata) ::
      argumentFiles store quality chain address arguments)

theorem mem_recordFiles {metadata : Json} {arguments : Option String} {file : Path × Artifact}
    (member : file ∈ recordFiles store quality chain address contract metadata arguments) :
    (∃ path ∈ contract.sources.keys,
      file.1 = store.targetPath ⟨quality, chain, address, sanitizePath path, true⟩) ∨
    file.1 = metadataPath store quality chain address ∨
    ∃ args, arguments = some args ∧
      file.1 = store.targetPath ⟨quality, chain, address, "constructor-args.txt", false⟩ := by
  rcases List.mem_append.mp member with source | other
  · obtain ⟨entry, listed, named⟩ := mem_sourceFiles source
    exact .inl ⟨entry.1, List.mem_map_of_mem listed, named⟩
  · rcases List.mem_cons.mp other with rfl | args
    · exact .inr (.inl rfl)
    · exact .inr (.inr (mem_argumentFiles args))

theorem saveSources_eq_ok_iff {sources : List (String × Json)} :
    saveSources store quality chain address sources world session = (.ok (), final) ↔
      ∃ tree, store.Written (sourceFiles store quality chain address sources) session.tree tree ∧
        { session with tree := tree } = final := by
  induction sources generalizing session with
  | nil =>
    rw [saveSources, pure_eq_ok]
    simp [sourceFiles, Written.nil_iff]
  | cons source rest ih =>
    obtain ⟨path, content⟩ := source
    simp only [saveSources, bind_eq_ok, onTree_eq_ok, ih, sourceFiles, List.map_cons, Written.cons_iff]
    constructor
    · rintro ⟨result, _, ⟨middle, writes, rfl⟩, tree, written, rfl⟩
      exact ⟨tree, ⟨result, middle, writes, written⟩, rfl⟩
    · rintro ⟨tree, ⟨result, middle, writes, written⟩, rfl⟩
      exact ⟨result, _, ⟨middle, writes, rfl⟩, tree, written, rfl⟩

/-- The last part of storing a record. -/
def saveArguments (store : Store) (quality : Quality) (chain address : String)
    (arguments : Option String) (status : MatchStatus) : Action MatchStatus :=
  match arguments with
  | some args =>
    if args ≠ "" then
      onTree (store.save ⟨quality, chain, address, "constructor-args.txt", false⟩
        (.value (.string args))) >>= fun _ => pure status
    else pure status
  | none => pure status

theorem storeRecord_eq : storeRecord store logger chain address contract artifact verdict
    = saveDocument store logger chain address verdict.status artifact >>= fun status =>
      saveSources store (qualityOf status) chain address contract.sources >>= fun _ =>
      onTree (store.save ⟨qualityOf status, chain, address, "metadata.json", false⟩
        (.value artifact.metadata)) >>= fun _ =>
      saveArguments store (qualityOf status) chain address verdict.constructorArgs status := by
  obtain ⟨matched, arguments⟩ := verdict
  cases arguments with
  | none => rfl
  | some args => rfl

theorem saveArguments_eq_ok_iff {arguments : Option String} {kept : MatchStatus} :
    saveArguments store quality chain address arguments kept world session = (.ok status, final) ↔
      kept = status ∧ ∃ tree,
        store.Written (argumentFiles store quality chain address arguments) session.tree tree ∧
        { session with tree := tree } = final := by
  cases arguments with
  | none => simp [saveArguments, argumentFiles, pure_eq_ok, Written.nil_iff]
  | some args =>
    by_cases empty : args = ""
    · simp [saveArguments, argumentFiles, pure_eq_ok, Written.nil_iff, empty]
    · simp only [saveArguments, argumentFiles, if_pos empty, bind_eq_ok, onTree_eq_ok, pure_eq_ok,
        Written.cons_iff, Written.nil_iff]
      constructor
      · rintro ⟨result, _, ⟨tree, writes, rfl⟩, rfl, rfl⟩
        exact ⟨rfl, tree, ⟨result, tree, writes, rfl⟩, rfl⟩
      · rintro ⟨rfl, _, ⟨result, tree, writes, rfl⟩, rfl⟩
        exact ⟨result, _, ⟨tree, writes, rfl⟩, rfl, rfl⟩

/-- Storing succeeds exactly if the document is saved and all files of the record are written. -/
theorem storeRecord_eq_ok_iff :
    storeRecord store logger chain address contract artifact verdict world session
        = (.ok status, final) ↔
      ∃ middle tree, saveDocument store logger chain address verdict.status artifact world session
          = (.ok status, middle) ∧
        store.Written (recordFiles store (qualityOf status) chain address contract artifact.metadata
          verdict.constructorArgs) middle.tree tree ∧
        { middle with tree := tree } = final := by
  rw [storeRecord_eq]
  constructor
  · intro returned
    obtain ⟨kept, middle, documented, returned⟩ := bind_eq_ok.mp returned
    obtain ⟨_, _, sourced, returned⟩ := bind_eq_ok.mp returned
    obtain ⟨sources, written, rfl⟩ := saveSources_eq_ok_iff.mp sourced
    obtain ⟨_, _, saved, returned⟩ := bind_eq_ok.mp returned
    obtain ⟨tree, wrote, rfl⟩ := onTree_eq_ok.mp saved
    obtain ⟨rfl, last, others, rfl⟩ := saveArguments_eq_ok_iff.mp returned
    exact ⟨middle, last, documented, Written.append_iff.mpr ⟨sources, written, .next wrote others⟩, rfl⟩
  · rintro ⟨middle, tree, documented, written, rfl⟩
    obtain ⟨sources, written, others⟩ := Written.append_iff.mp written
    obtain ⟨result, after, wrote, others⟩ := Written.cons_iff.mp others
    have sourced : saveSources store (qualityOf status) chain address contract.sources world middle
        = (.ok (), { middle with tree := sources }) := saveSources_eq_ok_iff.mpr ⟨sources, written, rfl⟩
    exact bind_eq_ok.mpr ⟨status, middle, documented, bind_eq_ok.mpr ⟨(), _, sourced,
      bind_eq_ok.mpr ⟨result, _, onTree_eq_ok.mpr ⟨after, wrote, rfl⟩,
        saveArguments_eq_ok_iff.mpr ⟨rfl, tree, others, rfl⟩⟩⟩⟩

/-! ### The parts of storing -/

theorem saveDocument_eq_ok
    (returned : saveDocument store logger chain address verdict.status artifact world session
      = (.ok status, final)) :
    (∃ hash path written, ContentHash.ofValue? artifact.runtime = .ok (some hash) ∧
      status = verdict.status ∧
      store.saveAt hash.path (.value artifact.metadata) session.tree = (.ok path, written) ∧
      store.deletePartial chain address written = (.ok (), final.tree)) ∨
    (ContentHash.ofValue? artifact.runtime = .ok none ∧ status = .partly ∧
      final.tree = session.tree) := by
  obtain ⟨document, _, read, returned⟩ := bind_eq_ok.mp returned
  obtain ⟨published, rfl⟩ := ofShape_eq_ok.mp read
  cases document with
  | some hash =>
    obtain ⟨path, _, saved, returned⟩ := bind_eq_ok.mp returned
    obtain ⟨written, wrote, rfl⟩ := onTree_eq_ok.mp saved
    obtain ⟨_, _, deleted, returned⟩ := bind_eq_ok.mp returned
    obtain ⟨left, removed, rfl⟩ := onTree_eq_ok.mp deleted
    obtain ⟨rfl, rfl⟩ := pure_eq_ok.mp returned
    exact .inl ⟨hash, path, written, published, rfl, wrote, removed⟩
  | none =>
    obtain ⟨_, _, reported, returned⟩ := bind_eq_ok.mp returned
    obtain ⟨rfl, rfl⟩ := pure_eq_ok.mp returned
    cases reported
    exact .inr ⟨published, rfl, rfl⟩

/-- The files of a record are written: sources and all else lie inside, and the last ones hold what
they should. -/
structure Filed (store : Store) (quality : Quality) (chain address : String) (metadata : Json)
    (arguments : Option String) (before after : Tree) : Prop where
  fills : Fills (store.rootNames ++ recordNames quality chain address) before after
  metadata : after.HoldsText (store.recordPlace quality chain address ++ ["metadata.json"]) metadata
  arguments : ∀ args, arguments = some args → args ≠ "" →
    after.HoldsText (store.recordPlace quality chain address ++ ["constructor-args.txt"])
      (.string args)

/-- Each file of a record has a name that stays inside. -/
theorem target_of_recordFiles {metadata : Json} {arguments : Option String} {file : Path × Artifact}
    (inside : ∀ path ∈ contract.sources.keys, StaysInside (sanitizePath path))
    (member : file ∈ recordFiles store quality chain address contract metadata arguments) :
    ∃ fileName isSource, StaysInside fileName ∧
      (isSource = true ∨ (Path.ofString fileName).names ≠ []) ∧
      file.1 = store.targetPath ⟨quality, chain, address, fileName, isSource⟩ := by
  rcases mem_recordFiles member with ⟨path, listed, named⟩ | named | ⟨_, -, named⟩
  · exact ⟨_, true, inside path listed, .inl rfl, named⟩
  · exact ⟨"metadata.json", false, by decide, .inr (by decide), named⟩
  · exact ⟨"constructor-args.txt", false, by decide, .inr (by decide), named⟩

theorem inside_of_recordFiles {metadata : Json} {arguments : Option String} {file : Path × Artifact}
    (segments : IsSegment chain ∧ IsSegment address)
    (inside : ∀ path ∈ contract.sources.keys, StaysInside (sanitizePath path))
    (member : file ∈ recordFiles store quality chain address contract metadata arguments) :
    ∃ rest, rest ≠ [] ∧ ".." ∉ rest ∧ namesFrom store.here file.1
      = store.rootNames ++ recordNames quality chain address ++ rest := by
  obtain ⟨fileName, isSource, stays, named, target⟩ := target_of_recordFiles inside member
  rw [target]
  exact store.names_of_targetPath quality segments stays named

theorem fills_of_written {metadata : Json} {arguments : Option String} {before after : Tree}
    (segments : IsSegment chain ∧ IsSegment address)
    (inside : ∀ path ∈ contract.sources.keys, StaysInside (sanitizePath path))
    (written : store.Written (recordFiles store quality chain address contract metadata arguments)
      before after) :
    Fills (store.rootNames ++ recordNames quality chain address) before after :=
  written.fills fun _ member => inside_of_recordFiles segments inside member

theorem filed_of_written {metadata : Json} {arguments : Option String} {before after : Tree}
    (segments : IsSegment chain ∧ IsSegment address)
    (inside : ∀ path ∈ contract.sources.keys, StaysInside (sanitizePath path))
    (written : store.Written (recordFiles store quality chain address contract metadata arguments)
      before after) :
    Filed store quality chain address metadata arguments before after := by
  have place (fileName : String) (named : IsSegment fileName) :
      (store.targetPath ⟨quality, chain, address, fileName, false⟩).resolved store.here
        = store.recordPlace quality chain address ++ [fileName] :=
    store.resolved_targetPath_file segments named
  refine ⟨fills_of_written segments inside written, ?_, ?_⟩
  · rw [← place _ (by decide)]
    -- Only the arguments come behind the metadata, and their file has another name.
    refine Written.holdsText written fun file member same => ?_
    obtain ⟨_, -, named⟩ := mem_argumentFiles member
    rw [named, place _ (by decide), place _ (by decide)] at same
    simp at same
  · rintro args rfl notEmpty
    rw [← place _ (by decide)]
    have files : recordFiles store quality chain address contract metadata (some args)
        = (sourceFiles store quality chain address contract.sources ++
            [(metadataPath store quality chain address, .value metadata)]) ++
          [(store.targetPath ⟨quality, chain, address, "constructor-args.txt", false⟩,
            .value (.string args))] := by
      simp [recordFiles, argumentFiles, notEmpty]
    rw [files] at written
    exact written.holdsText fun _ none => by cases none

/-! ### The whole record -/

/-- What a stored contract leaves behind. `matched` is the status of the comparison, and `result` is
what the caller gets. -/
structure Recorded (store : Store) (chain address : String) (artifact : CompiledArtifact)
    (matched : MatchStatus) (result : MatchResult) (quality : Quality) (before after : Tree) :
    Prop where
  /-- The record is kept under the quality of the status that is returned. -/
  status : Quality.ofStatus? result.status = some quality
  metadata : after.HoldsText (store.recordPlace quality chain address ++ ["metadata.json"])
    artifact.metadata
  arguments : ∀ args, result.constructorArgs = some args →
    after.HoldsText (store.recordPlace quality chain address ++ ["constructor-args.txt"])
      (.string args)
  /-- With a content hash, the document is published and the status is that of the comparison. -/
  published : ∀ hash, ContentHash.ofValue? artifact.runtime = .ok (some hash) →
    after.HoldsText (store.documentPlace hash) artifact.metadata ∧ result.status = matched
  /-- Without one, the match counts as partial. -/
  unpublished : (∀ hash, ContentHash.ofValue? artifact.runtime ≠ .ok (some hash)) →
    result.status = .partly
  exactPublished : result.status = .exact →
    ∃ hash, ContentHash.ofValue? artifact.runtime = .ok (some hash)
  /-- No file of a partial record is left beside a full one. -/
  emptied : result.status = .exact → before.IsClosed → ∀ place,
    isInside (store.recordPlace .partly chain address) place = true → after.file? place = none
  /-- The partial record itself is gone, unless the way to the root leads through it. -/
  replaced : result.status = .exact → before.IsClosed →
    store.Bypasses (store.recordPlace .partly chain address) →
    after.node? (store.recordPlace .partly chain address) = none
  frame : ∀ place, isInside (store.recordPlace .full chain address) place = false →
    isInside (store.recordPlace .partly chain address) place = false →
    (∀ hash, ContentHash.ofValue? artifact.runtime = .ok (some hash) →
      place ≠ store.documentPlace hash) →
    after.file? place = before.file? place

theorem ofStatus?_eq_qualityOf (found : status ≠ .none) :
    Quality.ofStatus? status = some (qualityOf status) := by
  cases status with
  | exact => rfl
  | partly => rfl
  | none => exact absurd rfl found

theorem frame_of_filled (segments : IsSegment chain ∧ IsSegment address) {arguments : Option String}
    {metadata : Json} {before after : Tree}
    (filed : Filed store quality chain address metadata arguments before after) {place : Place}
    (full : isInside (store.recordPlace .full chain address) place = false)
    (partly : isInside (store.recordPlace .partly chain address) place = false) :
    after.file? place = before.file? place := by
  apply filed.fills.file?_of_outside
  rw [store.follow_recordNames quality segments]
  cases quality with
  | full => exact full
  | partly => exact partly

/-- A document stays where it is when the partial record goes and the new one is filled. -/
theorem document_of_filed (segments : IsSegment chain ∧ IsSegment address) {arguments : Option String}
    {metadata : Json} {written left after : Tree}
    (removed : store.deletePartial chain address written = (.ok (), left))
    (filed : Filed store quality chain address metadata arguments left after) (hash : ContentHash) :
    after.file? (store.documentPlace hash) = written.file? (store.documentPlace hash) := by
  have clears := store.clears_record segments removed
  rw [frame_of_filled segments filed (store.documentPlace_outside ..) (store.documentPlace_outside ..),
    clears.file?_of_outside (store.documentPlace_outside ..)]

/-- Whatever the tree was before, storing that returns leaves the record of a match. -/
theorem recorded_of_storeRecord {matched : MatchResult} (segments : IsSegment chain ∧ IsSegment address)
    (inside : ∀ path ∈ contract.sources.keys, StaysInside (sanitizePath path))
    (agrees : matched.status ≠ .none)
    (notEmpty : matched.constructorArgs ≠ some "")
    (returned : storeRecord store logger chain address contract artifact
      ⟨matched.status, matched.constructorArgs⟩ world session = (.ok status, final)) :
    Recorded store chain address artifact matched.status { matched with status := status }
      (qualityOf status) session.tree final.tree := by
  obtain ⟨middle, tree, documented, written, rfl⟩ := storeRecord_eq_ok_iff.mp returned
  have filed := filed_of_written segments inside written
  have arguments (args : String) (given : matched.constructorArgs = some args) :
      tree.HoldsText
        (store.recordPlace (qualityOf status) chain address ++ ["constructor-args.txt"])
        (.string args) :=
    filed.arguments args given fun empty => notEmpty (empty ▸ given)
  rcases saveDocument_eq_ok documented with
    ⟨hash, path, documents, found, rfl, wrote, removed⟩ | ⟨missing, rfl, same⟩
  · obtain ⟨text, isText, holds, others, closes, root, walked, isDirectory⟩ :=
      writes_of_saveAt wrote
    -- After the document is written, only the partial record is emptied.
    have clears := store.clears_record segments removed
    have isHash (other : ContentHash)
        (published : ContentHash.ofValue? artifact.runtime = .ok (some other)) : hash = other := by
      rw [found] at published
      cases published
      rfl
    have stays : tree.file? (store.documentPlace hash) = some text.toUTF8.toList := by
      rw [document_of_filed segments removed filed, holds]
    -- An exact match fills the full record, beside the emptied one.
    have fills (isExact : matched.status = .exact) :
        Fills (store.rootNames ++ recordNames .full chain address) middle.tree tree := by
      have fills := filed.fills
      rwa [qualityOf, if_pos isExact] at fills
    refine ⟨ofStatus?_eq_qualityOf agrees, filed.metadata, arguments, ?_, ?_, ?_, ?_, ?_, ?_⟩
    · intro other published
      rw [← isHash other published]
      exact ⟨⟨text, isText, stays⟩, rfl⟩
    · intro noHash
      exact absurd found (noHash hash)
    · exact fun _ => ⟨hash, found⟩
    · intro isExact closed place inside
      exact emptied_of_fills_full segments (fills isExact) inside
        (store.emptied_of_deletePartial (closes closed) segments walked isDirectory removed inside)
    · intro isExact closed bypasses
      exact absent_of_fills_full bypasses segments (fills isExact)
        (store.absent_of_deletePartial (closes closed) segments walked isDirectory removed bypasses)
    · intro place full partly notDocument
      rw [frame_of_filled segments filed full partly, clears.file?_of_outside partly,
        others place (notDocument hash found)]
  · have noHash (hash : ContentHash) : ContentHash.ofValue? artifact.runtime ≠ .ok (some hash) := by
      intro published
      rw [missing] at published
      cases published
    have notExact : MatchStatus.partly ≠ .exact := by decide
    refine ⟨rfl, filed.metadata, arguments, ?_, fun _ => rfl, fun isExact => absurd isExact notExact,
      fun isExact => absurd isExact notExact, fun isExact => absurd isExact notExact, ?_⟩
    · intro hash published
      exact absurd published (noHash hash)
    · intro place full partly _
      rw [frame_of_filled segments filed full partly, same]

end SourceAttest.Verification
