import SourceAttest.Proofs.Repository.Edits
import SourceAttest.Proofs.Verification.Losses

/-!
# What a record holds

Storing a contract adds its files to a record. What was in the record before stays there, but for the
files that are replaced, unless the record is a partial one and the document has been published: then
it has been emptied first. The main result is `renewed_of_storeRecord`.
-/
namespace SourceAttest

open SourceAttest.Action SourceAttest.Tree

namespace Store

variable (store : Store) {quality : Quality} {chain address : String}

/-- A source that stays inside lands below the directory of the sources. -/
theorem sourcePlace_of_staysInside (quality : Quality) {source : String}
    (segments : IsSegment chain ∧ IsSegment address) (inside : StaysInside (sanitizePath source)) :
    store.sourcePlace quality chain address source
      = store.sourcesPlace quality chain address ++ (Path.ofString (sanitizePath source)).names := by
  obtain ⟨kept, whole, place⟩ := store.sourcePlace_eq quality source segments
  have route : sourceRoute source = ⟨0, (Path.ofString (sanitizePath source)).names⟩ :=
    Route.ofNames_of_plain inside.2
  rw [namesLeft, if_pos inside.1, route, Nat.sub_zero, List.drop_length, List.append_nil] at whole
  rw [place, route, whole]

theorem inside_root_of_record {place : Place}
    (inside : isInside (store.recordPlace quality chain address) place = true) :
    isInside store.rootPlace place = true := by
  rw [isInside_iff] at inside ⊢
  obtain ⟨⟨names, rfl⟩, -⟩ := inside
  rw [recordPlace, List.append_assoc]
  exact ⟨List.prefix_append _ _, by simp [recordNames]⟩

/-- Nothing is inside two records. -/
theorem record_unique {other : Quality} {chain' address' : String} {place : Place}
    (inside : isInside (store.recordPlace quality chain address) place = true)
    (inside' : isInside (store.recordPlace other chain' address') place = true) :
    other = quality ∧ chain' = chain ∧ address' = address := by
  rw [isInside_iff] at inside inside'
  -- Records are equally far down, so two of them above one place are the same.
  have sameLength : (store.recordPlace other chain' address').length
      = (store.recordPlace quality chain address).length := by
    simp [recordPlace, recordNames]
  have same := (List.prefix_of_prefix_length_le inside'.1 inside.1 sameLength.le).eq_of_length
    sameLength
  have names := List.append_cancel_left same
  simp only [recordNames, List.cons.injEq, true_and, and_true] at names
  refine ⟨?_, names.2⟩
  cases quality <;> cases other <;> first | rfl | exact absurd names.1 (by decide)

end Store

namespace Verification

section

variable (store : Store) (quality : Quality) (chain address : String) (contract : Contract)

/-- The places of a record at which storing a contract leaves a file. -/
inductive IsArtifact (arguments : Option String) : Place → Prop where
  | metadata : IsArtifact arguments (store.recordPlace quality chain address ++ ["metadata.json"])
  | arguments {args : String} (given : arguments = some args) :
      IsArtifact arguments (store.recordPlace quality chain address ++ ["constructor-args.txt"])
  | source {path : String} (listed : path ∈ contract.sources.keys) :
      IsArtifact arguments (store.sourcePlace quality chain address path)

/-- A record after a contract was stored in it. -/
structure Renewed (artifact : CompiledArtifact) (arguments : Option String) (before after : Tree) :
    Prop where
  metadata : after.HoldsText (store.recordPlace quality chain address ++ ["metadata.json"])
    artifact.metadata
  args : ∀ args, arguments = some args →
    after.HoldsText (store.recordPlace quality chain address ++ ["constructor-args.txt"])
      (.string args)
  sources : ∀ path ∈ contract.sources.keys,
    (after.file? (store.sourcePlace quality chain address path)).isSome
  /-- A partial record is emptied once the document is published. -/
  emptied : quality = .partly →
    (∃ hash, ContentHash.ofValue? artifact.runtime = .ok (some hash)) → ∀ place,
    isInside (store.recordPlace quality chain address) place = true →
    ¬ IsArtifact store quality chain address contract arguments place → after.file? place = none
  /-- Any other record keeps what it holds. -/
  kept : quality = .full ∨ (∀ hash, ContentHash.ofValue? artifact.runtime ≠ .ok (some hash)) →
    ∀ place, isInside (store.recordPlace quality chain address) place = true →
    ¬ IsArtifact store quality chain address contract arguments place →
    after.file? place = before.file? place

end

section

variable {store : Store} {logger : Logger} {quality : Quality} {chain address : String}
  {contract : Contract} {artifact : CompiledArtifact} {verdict : Verdict} {status : MatchStatus}
  {world : World} {session final : Session}

/-- All but the document is stored inside the record. -/
theorem inside_of_deposits (segments : IsSegment chain ∧ IsSegment address)
    (inside : ∀ path ∈ contract.sources.keys, Store.StaysInside (sanitizePath path)) {place : Place}
    {value : Json} (deposits : Deposits store chain address contract artifact verdict place value) :
    (∃ hash, place = store.documentPlace hash) ∨
      isInside (store.recordPlace (recordedQuality artifact verdict.status) chain address) place
        = true := by
  have below (names : List String) (further : names ≠ []) :
      isInside (store.recordPlace (recordedQuality artifact verdict.status) chain address)
        (store.recordPlace (recordedQuality artifact verdict.status) chain address ++ names)
        = true := by
    rw [isInside_iff]
    exact ⟨List.prefix_append _ _, by simp [further]⟩
  cases deposits with
  | document published => exact .inl ⟨_, rfl⟩
  | source listed =>
    right
    rw [store.sourcePlace_of_staysInside _ segments (inside _ (List.mem_map_of_mem listed)),
      Store.sourcesPlace, List.append_assoc]
    exact below _ (by simp)
  | metadata =>
    right
    rw [Store.filePlace, store.resolved_targetPath_file segments (by decide)]
    exact below _ (by simp)
  | arguments given notEmpty =>
    right
    rw [Store.filePlace, store.resolved_targetPath_file segments (by decide)]
    exact below _ (by simp)

/-- What lies in the full record stays there when the document is saved and the partial record goes. -/
theorem file?_of_saveDocument (segments : IsSegment chain ∧ IsSegment address)
    (documented : saveDocument store logger chain address verdict.status artifact world session
      = (.ok status, final))
    (other : qualityOf status = .full ∨
      ∀ hash, ContentHash.ofValue? artifact.runtime ≠ .ok (some hash)) {place : Place}
    (inside : isInside (store.recordPlace (qualityOf status) chain address) place = true) :
    final.tree.file? place = session.tree.file? place := by
  rcases saveDocument_eq_ok documented with
    ⟨hash, path, written, published, -, wrote, removed⟩ | ⟨-, -, same⟩
  · obtain isFull | unpublished := other
    · rw [isFull] at inside
      obtain ⟨_, _, _, others, _, _⟩ := Store.writes_of_saveAt wrote
      have clears := store.clears_record segments removed
      -- Neither the document nor the partial record is in the full one.
      have notDocument : place ≠ store.documentPlace hash := by
        intro same
        rw [same, store.documentPlace_outside] at inside
        cases inside
      have notPartial : isInside (store.recordPlace .partly chain address) place = false := by
        rw [← Bool.not_eq_true]
        intro insidePartial
        exact absurd (store.record_unique insidePartial inside).1 (by decide)
      rw [clears.file?_of_outside notPartial, others place notDocument]
    · exact absurd published (unpublished hash)
  · rw [same]

/-- A partial record is empty after the document has been published. -/
theorem emptied_of_saveDocument (segments : IsSegment chain ∧ IsSegment address)
    (closed : session.tree.IsClosed)
    (documented : saveDocument store logger chain address verdict.status artifact world session
      = (.ok status, final))
    {hash : ContentHash} (published : ContentHash.ofValue? artifact.runtime = .ok (some hash))
    {place : Place} (inside : isInside (store.recordPlace .partly chain address) place = true) :
    final.tree.file? place = none := by
  rcases saveDocument_eq_ok documented with
    ⟨_, _, written, _, -, wrote, removed⟩ | ⟨missing, -, -⟩
  · obtain ⟨_, _, _, _, closes, root, walked, isDirectory⟩ := Store.writes_of_saveAt wrote
    rw [file?, store.emptied_of_deletePartial (closes closed) segments walked isDirectory removed
      inside]
  · rw [published] at missing
    cases missing

theorem renewed_of_storeRecord (segments : IsSegment chain ∧ IsSegment address)
    (inside : ∀ path ∈ contract.sources.keys, Store.StaysInside (sanitizePath path))
    (closed : session.tree.IsClosed) (notEmpty : verdict.constructorArgs ≠ some "")
    (returned : storeRecord store logger chain address contract artifact verdict world session
      = (.ok status, final)) :
    Renewed store (qualityOf status) chain address contract artifact verdict.constructorArgs
      session.tree final.tree := by
  obtain ⟨middle, tree, documented, written, rfl⟩ := storeRecord_eq_ok_iff.mp returned
  have filed := filed_of_written segments inside written
  have filePlace (fileName : String) (named : IsSegment fileName) :
      (store.targetPath ⟨qualityOf status, chain, address, fileName, false⟩).resolved store.here
        = store.recordPlace (qualityOf status) chain address ++ [fileName] :=
    store.resolved_targetPath_file segments named
  -- Behind the document, nothing but artifacts is written.
  have unchanged {place : Place} (unwritten : ¬ IsArtifact store (qualityOf status) chain address
      contract verdict.constructorArgs place) : tree.file? place = middle.tree.file? place := by
    refine written.file?_of_elsewhere fun file member leads => unwritten ?_
    rw [← leads]
    rcases mem_recordFiles member with ⟨path, listed, named⟩ | named | ⟨args, given, named⟩
    · rw [named]
      exact .source listed
    · rw [named, metadataPath, filePlace _ (by decide)]
      exact .metadata
    · rw [named, filePlace _ (by decide)]
      exact .arguments given
  refine ⟨filed.metadata, ?_, ?_, ?_, ?_⟩
  · exact fun args given => filed.arguments args given fun empty => notEmpty (empty ▸ given)
  · intro path listed
    obtain ⟨⟨_, content⟩, entry, rfl⟩ := List.mem_map.mp listed
    obtain ⟨-, -, content, held⟩ := written.held
      (List.mem_append_left _ (List.mem_map_of_mem entry))
    rw [Store.sourcePlace, file?, held]
    rfl
  · rintro isPartly ⟨hash, published⟩ place inRecord unwritten
    rw [unchanged unwritten]
    exact emptied_of_saveDocument segments closed documented published (isPartly ▸ inRecord)
  · intro other place inRecord unwritten
    rw [unchanged unwritten]
    exact file?_of_saveDocument segments documented other inRecord

end

end Verification

end SourceAttest
