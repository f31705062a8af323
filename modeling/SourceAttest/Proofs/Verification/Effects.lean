import SourceAttest.Proofs.Verification.Losses

/-!
# What verifying can change

Whether it succeeds or fails, a verification changes files only in a few ways: it writes a document
under a content hash, empties a partial record, writes the files of a record, and writes sources.
The main result is `source_inside_iff_and_touches`: it says which files these are, and exactly which
sources stay inside the directory that is meant for them.
-/
namespace SourceAttest

/-- Whatever comes of an action, only files at the allowed places can have changed. -/
structure Action.ChangesOnly {α : Type} (allowed : Place → Prop) (action : Action α) : Prop where
  same : ∀ world session place, ¬allowed place →
    (action world session).2.tree.file? place = session.tree.file? place

namespace Verification

open SourceAttest.Action

/-- The places at which verifying a contract with these source paths can change a file. -/
inductive Touches (store : Store) (chain : String) (paths : List String) : Place → Prop
  | document (hash : ContentHash) : Touches store chain paths (store.documentPlace hash)
  | partialRecord {address : String} {place : Place} (segment : IsSegment address)
      (inside : Tree.isInside (store.recordPlace .partly chain address) place = true) :
      Touches store chain paths place
  | recordFile {address : String} (segment : IsSegment address) (quality : Quality)
      {fileName : String} (known : fileName ∈ ["metadata.json", "constructor-args.txt"]) :
      Touches store chain paths (store.recordPlace quality chain address ++ [fileName])
  | source {address : String} (segment : IsSegment address) (quality : Quality) {path : String}
      (listed : path ∈ paths) :
      Touches store chain paths (store.sourcePlace quality chain address path)

variable {store : Store} {chain address : String} {paths : List String}

theorem touches_filePlace (segments : IsSegment chain ∧ IsSegment address) (quality : Quality)
    {fileName : String} (known : fileName ∈ ["metadata.json", "constructor-args.txt"]) :
    Touches store chain paths (store.filePlace quality chain address fileName) := by
  -- Both file names are single names.
  have named : IsSegment fileName := by
    rcases List.mem_cons.mp known with rfl | last
    · decide
    · rw [List.mem_singleton.mp last]
      decide
  rw [Store.filePlace, store.resolved_targetPath_file segments named]
  exact .recordFile segments.2 quality known

theorem touches_of_deposits (segments : IsSegment chain ∧ IsSegment address) {contract : Contract}
    {artifact : CompiledArtifact} {verdict : Verdict} {place : Place} {value : Json}
    (listed : ∀ path ∈ contract.sources.keys, path ∈ paths)
    (deposits : Deposits store chain address contract artifact verdict place value) :
    Touches store chain paths place := by
  cases deposits with
  | document published => exact .document _
  | source member => exact .source segments.2 _ (listed _ (List.mem_map_of_mem member))
  | metadata => exact touches_filePlace segments _ (by simp)
  | arguments given notEmpty => exact touches_filePlace segments _ (by simp)

/-- Whatever comes of a verification, it changes files only where it may. -/
theorem touches_verify {verifier : Verifier} {request : VerificationRequest}
    (outside : verifier.LeavesTree) (fetches : verifier.fetch.Completes)
    (named : request.chain = .string chain) (segment : IsSegment chain) :
    (verify verifier request).ChangesOnly
      (Touches verifier.store chain request.contract.paths) := by
  constructor
  intro world session place elsewhere
  rcases revises_of_verify outside request world session with
    kept | ⟨stages, address, -, -, segment', revises⟩
  · rw [kept]
  · rw [chain_of_fits (fits_of_accept stages.accepts) named] at revises
    rcases revises.each place with same | ⟨⟨inside, -⟩, -⟩ | ⟨value, _, deposits, -⟩
    · exact same
    · rw [verifier.store.resolved_recordDirectory ⟨segment, segment'⟩] at inside
      exact absurd (.partialRecord segment' inside) elsewhere
    · have listed := (completes_of_compileOrRefuse fetches stages.compiles).paths
      exact absurd (touches_of_deposits ⟨segment, segment'⟩ listed deposits) elsewhere

/-- Where sources go. A source is saved inside the directory `sources` of its record exactly if it
goes down again through all names that it leaves, and further; a source that leaves none only has to
name something. A verification, whatever comes of it, changes no other files than those of its
sources, those of the record, the document, and those of a partial record that it removes. -/
theorem source_inside_iff_and_touches (store : Store) {chain : String} (segment : IsSegment chain) :
    (∀ (quality : Quality) (address source : String), IsSegment address →
      (Tree.isInside (store.sourcesPlace quality chain address)
          (store.sourcePlace quality chain address source) = true ↔
        Store.ComesBack (store.sourcesPlace quality chain address) source)) ∧
    ∀ (verifier : Verifier) (request : VerificationRequest), verifier.store = store →
      verifier.LeavesTree → verifier.fetch.Completes → request.chain = .string chain →
      ∀ world session place,
      (verify verifier request world session).2.tree.file? place ≠ session.tree.file? place →
      Touches store chain request.contract.paths place := by
  constructor
  · intro quality address source named
    exact store.isInside_sourcePlace_iff quality source ⟨segment, named⟩
  · rintro verifier request rfl outside fetches named world session place changed
    by_contra elsewhere
    exact changed ((touches_verify outside fetches named segment).same world session place elsewhere)

/-- A plain source of the sample lands inside, whatever its record is. -/
theorem source_inside_plain :
    Tree.isInside (Sample.verifier.store.sourcesPlace .full "1" Sample.address)
        (Sample.verifier.store.sourcePlace .full "1" Sample.address "a.sol") = true ∧
      ∀ world session place,
        (verify Sample.verifier Sample.request world session).2.tree.file? place
          ≠ session.tree.file? place →
        Touches Sample.verifier.store "1" ["a.sol"] place := by
  have segment : IsSegment "1" := by decide
  have sources := source_inside_iff_and_touches Sample.verifier.store segment
  constructor
  · exact (sources.1 .full Sample.address "a.sol" (by decide)).mpr (by decide +kernel)
  · exact sources.2 Sample.verifier Sample.request rfl Sample.leavesTree Fetcher.completes_own rfl

/-- A source that starts at the top, and one whose later dot segments go up, land elsewhere. -/
theorem sources_escape :
    Tree.isInside (Sample.verifier.store.sourcesPlace .full "1" "0xA")
        (Sample.verifier.store.sourcePlace .full "1" "0xA" "/etc/passwd") = false ∧
      Sample.verifier.store.sourcePlace .full "1" "0xA" "/etc/passwd" = ["etc", "passwd"] ∧
      Tree.isInside (Sample.verifier.store.sourcesPlace .full "1" "0xA")
        (Sample.verifier.store.sourcePlace .full "1" "0xA" "a/../b/../../../../../x.sol") = false ∧
      Sample.verifier.store.sourcePlace .full "1" "0xA" "a/../b/../../../../../x.sol"
        = ["repo", "contracts", "x.sol"] := by
  decide +kernel

end Verification

end SourceAttest
