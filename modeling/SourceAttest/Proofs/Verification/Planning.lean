import SourceAttest.Proofs.Repository.Plans
import SourceAttest.Proofs.Verification.Losses

/-!
# Storing follows a plan

The plan of a contract is the document under its content hash, if it has one, and the files of its
record. The main results are `stores_of_storeRecord`, by which storing that succeeds has followed the
plan, and `storeRecord_of_stores`, by which it succeeds wherever the plan can be followed.
-/
namespace SourceAttest

namespace Verification

open SourceAttest.Action SourceAttest.Tree Store

variable {store : Store} {logger : Logger} {chain address : String} {contract : Contract}
  {artifact : CompiledArtifact} {verdict : Verdict} {status : MatchStatus} {world : World}
  {session final : Session} {document : Option ContentHash}

/-- What is to be stored of a contract that matches. -/
def planOf (store : Store) (chain address : String) (contract : Contract)
    (artifact : CompiledArtifact) (verdict : Verdict) (document : Option ContentHash) : Plan where
  chain := chain
  address := address
  quality := recordedQuality artifact verdict.status
  document := document.map fun hash => (store.documentPath hash.path, .value artifact.metadata)
  files := recordFiles store (recordedQuality artifact verdict.status) chain address contract
    artifact.metadata verdict.constructorArgs

theorem isSound_planOf (segments : IsSegment chain ∧ IsSegment address)
    (inside : ∀ path ∈ contract.sources.keys, StaysInside (sanitizePath path))
    (read : ContentHash.ofValue? artifact.runtime = .ok document) :
    (planOf store chain address contract artifact verdict document).IsSound store := by
  have filled (hash : ContentHash) (listed : hash ∈ document) : hash.bytes ≠ [] :=
    ContentHash.filled_of_ofValue? (read.trans (congrArg Except.ok listed))
  refine ⟨segments, fun file member => ?_, fun file member => ?_, fun file member => ?_, ?_⟩
  · obtain ⟨hash, listed, rfl⟩ := Option.mem_map.mp member
    have some := filled hash listed
    refine ⟨hash, Operation.plain_of_segments (ContentHash.isSegment_names some), ?_⟩
    dsimp only
    exact store.namesFrom_documentPath_of_filled some
  · exact inside_of_recordFiles segments inside member
  · rcases Plan.mem_writes.mp member with documented | listed
    · obtain ⟨hash, listed, rfl⟩ := Option.map_eq_some_iff.mp documented
      dsimp only
      exact store.anchor_documentPath (filled hash listed)
    · obtain ⟨fileName, isSource, stays, -, target⟩ := target_of_recordFiles inside listed
      rw [target]
      exact store.anchor_targetPath _ segments stays.1
  · exact List.append_ne_nil_of_right_ne_nil _ (List.cons_ne_nil _ _)

/-- A document is saved by writing it and removing the partial record. -/
theorem saveDocument_of_published {hash : ContentHash} {path : Path} {written left : Tree}
    (published : ContentHash.ofValue? artifact.runtime = .ok (some hash))
    (wrote : store.saveAt hash.path (.value artifact.metadata) session.tree = (.ok path, written))
    (removed : store.deletePartial chain address written = (.ok (), left)) :
    saveDocument store logger chain address status artifact world session
      = (.ok status, { session with tree := left }) :=
  bind_eq_ok.mpr ⟨some hash, session, ofShape_eq_ok.mpr ⟨published, rfl⟩,
    bind_eq_ok.mpr ⟨path, _, onTree_eq_ok.mpr ⟨written, wrote, rfl⟩,
      bind_eq_ok.mpr ⟨(), _, onTree_eq_ok.mpr ⟨left, removed, rfl⟩, rfl⟩⟩⟩

theorem saveDocument_of_unpublished
    (unpublished : ContentHash.ofValue? artifact.runtime = .ok none) :
    ∃ last, saveDocument store logger chain address status artifact world session
      = (.ok .partly, last) ∧ last.tree = session.tree := by
  refine ⟨_, bind_eq_ok.mpr ⟨none, session, ofShape_eq_ok.mpr ⟨unpublished, rfl⟩,
    bind_eq_ok.mpr ⟨(), _, rfl, rfl⟩⟩, rfl⟩

/-- Storing that succeeds has followed the plan. -/
theorem stores_of_storeRecord
    (returned : storeRecord store logger chain address contract artifact verdict world session
      = (.ok status, final)) :
    ∃ document, ContentHash.ofValue? artifact.runtime = .ok document ∧
      status = recordedStatus artifact.runtime verdict.status ∧
      (planOf store chain address contract artifact verdict document).Stores store session.tree
        final.tree := by
  obtain ⟨middle, tree, documented, filled, rfl⟩ := storeRecord_eq_ok_iff.mp returned
  have recorded := status_of_saveDocument documented
  rw [recorded] at filled
  rcases saveDocument_eq_ok documented with
    ⟨hash, path, written, published, -, wrote, removed⟩ | ⟨unpublished, -, kept⟩
  · exact ⟨some hash, published, recorded, .published rfl wrote removed filled⟩
  · rw [kept] at filled
    exact ⟨none, unpublished, recorded, .unpublished rfl filled⟩

/-- Wherever the plan can be followed, storing succeeds and does so. -/
theorem storeRecord_of_stores {after : Tree} (logger : Logger) (world : World)
    (read : ContentHash.ofValue? artifact.runtime = .ok document)
    (stores : (planOf store chain address contract artifact verdict document).Stores store session.tree
      after) :
    ∃ final, storeRecord store logger chain address contract artifact verdict world session
        = (.ok (recordedStatus artifact.runtime verdict.status), final) ∧ final.tree = after := by
  have stored {middle : Session} {left : Tree} (same : middle.tree = left)
      (documented : saveDocument store logger chain address verdict.status artifact world session
        = (.ok (recordedStatus artifact.runtime verdict.status), middle))
      (filled : store.Written (planOf store chain address contract artifact verdict document).files left
        after) :
      ∃ final, storeRecord store logger chain address contract artifact verdict world session
          = (.ok (recordedStatus artifact.runtime verdict.status), final) ∧ final.tree = after := by
    subst same
    exact ⟨{ middle with tree := after },
      storeRecord_eq_ok_iff.mpr ⟨middle, after, documented, filled, rfl⟩, rfl⟩
  cases stores with
  | published documents wrote removed filled =>
    obtain ⟨hash, rfl, same⟩ := Option.map_eq_some_iff.mp documents
    obtain ⟨rfl, rfl⟩ := Prod.mk.inj same
    have status : recordedStatus artifact.runtime verdict.status = verdict.status := by
      rw [recordedStatus, read]
    rw [status] at stored ⊢
    exact stored rfl (saveDocument_of_published read wrote removed) filled
  | unpublished none filled =>
    obtain rfl := Option.map_eq_none_iff.mp none
    have status : recordedStatus artifact.runtime verdict.status = .partly := by
      rw [recordedStatus, read]
    obtain ⟨last, documented, kept⟩ := saveDocument_of_unpublished read
    rw [status] at stored ⊢
    exact stored kept documented filled

end Verification

end SourceAttest
