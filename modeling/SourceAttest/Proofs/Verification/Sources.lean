import SourceAttest.Proofs.Verification.Losses

/-!
# Which sources are kept

Sources are saved in their order, and then the files of the record. Several of them may be routed to
one place, for a path loses what file names must not hold. The main result is `source_of_verify`: the
last one that is routed to a place is kept there, unless a file of the record itself goes there.
-/
namespace SourceAttest.Verification

open SourceAttest.Action SourceAttest.Tree

section

variable {store : Store} {logger : Logger} {quality : Quality} {chain address path : String}
  {content : Json} {contract : Contract} {artifact : CompiledArtifact} {verdict : Verdict}
  {status : MatchStatus} {world : World} {session final : Session}

/-- Of the sources that are routed to one place the last one is kept. -/
theorem holdsText_of_storeRecord {earlier later : List (String × Json)}
    (listed : contract.sources = earlier ++ (path, content) :: later)
    (last : ∀ entry ∈ later, store.sourcePlace (qualityOf status) chain address entry.1
      ≠ store.sourcePlace (qualityOf status) chain address path)
    (notMetadata : store.sourcePlace (qualityOf status) chain address path
      ≠ store.filePlace (qualityOf status) chain address "metadata.json")
    (notArguments : ∀ args, verdict.constructorArgs = some args →
      store.sourcePlace (qualityOf status) chain address path
        ≠ store.filePlace (qualityOf status) chain address "constructor-args.txt")
    (returned : storeRecord store logger chain address contract artifact verdict world session
      = (.ok status, final)) :
    final.tree.HoldsText (store.sourcePlace (qualityOf status) chain address path) content := by
  obtain ⟨middle, tree, -, written, rfl⟩ := storeRecord_eq_ok_iff.mp returned
  have files : recordFiles store (qualityOf status) chain address contract artifact.metadata
        verdict.constructorArgs
      = sourceFiles store (qualityOf status) chain address earlier ++
        (store.targetPath ⟨qualityOf status, chain, address, sanitizePath path, true⟩, .value content) ::
          (sourceFiles store (qualityOf status) chain address later ++
            (metadataPath store (qualityOf status) chain address, .value artifact.metadata) ::
              argumentFiles store (qualityOf status) chain address verdict.constructorArgs) := by
    simp [recordFiles, sourceFiles, listed]
  rw [files] at written
  -- The other sources and the files of the record come behind it, and go elsewhere.
  refine written.holdsText fun file member same => ?_
  rcases List.mem_append.mp member with source | other
  · obtain ⟨entry, behind, named⟩ := mem_sourceFiles source
    rw [named] at same
    exact last entry behind same
  · rcases List.mem_cons.mp other with rfl | args
    · exact notMetadata same.symm
    · obtain ⟨args, given, named⟩ := mem_argumentFiles args
      rw [named] at same
      exact notArguments args given same.symm

/-- A verification that returns keeps the last source that is routed to a place, as long as no file of
the record itself goes there. Sources before it that are routed to the same place are lost. -/
theorem source_of_verify {verifier : Verifier} {request : VerificationRequest} {result : MatchResult}
    (returned : verify verifier request world session = (.ok result, final)) :
    ∃ (stages : Stages verifier request world session) (address : String),
      request.chain = .string stages.accepted.chain ∧ result.address = some address ∧
      ∀ earlier path content later,
        stages.contract.sources = earlier ++ (path, content) :: later →
        let place := verifier.store.sourcePlace (qualityOf result.status) stages.accepted.chain address
        let file := verifier.store.filePlace (qualityOf result.status) stages.accepted.chain address
        (∀ entry ∈ later, place entry.1 ≠ place path) →
        place path ≠ file "metadata.json" →
        (∀ args, result.constructorArgs = some args → place path ≠ file "constructor-args.txt") →
        final.tree.HoldsText (place path) content := by
  obtain ⟨stages, returned⟩ := verify_eq_ok returned
  obtain ⟨address, status, middle, _, isMatch, rfl, kept, stored⟩ := conclude_eq_ok returned
  refine ⟨stages, address, (fits_of_accept stages.accepts).chain, isMatch, ?_⟩
  intro earlier path content later listed place file last notMetadata notArguments
  rw [kept]
  exact holdsText_of_storeRecord listed last notMetadata notArguments stored

end

namespace Sample

/-- Sources of which the first two share a place, and the third one shares a place with a file of the
record. -/
def colliding : Table String Json :=
  [("a b.sol", .string "first"), ("a_b.sol", .string "second"),
    ("x/../y/../../metadata.json", .string "third")]

def placeOf (path : String) : Place := verifier.store.sourcePlace .full "1" address path

theorem stored_colliding :
    (storing colliding []).1.toOption = some .exact ∧
      (storing colliding []).2.tree.file? (placeOf "a b.sol") = some "second".toUTF8.toList ∧
      (storing colliding []).2.tree.file? (placeOf "x/../y/../../metadata.json")
        = some "metadata".toUTF8.toList := by
  simp only [storing, storeRecord, saveDocument, published, requestFor, colliding, saveSources,
    Store.save, Store.saveAt]
  unfold Store.write Store.deletePartial
  simp only [Path.hasNul_eq]
  decide +kernel

end Sample

/-- The second of two sources that share a place is kept. -/
theorem source_of_verify_second :
    ∃ final,
      verify Sample.verifier (Sample.requestFor Sample.colliding) Sample.world (Session.fresh [])
        = (.ok Sample.result, final) ∧
      final.tree.HoldsText (Sample.placeOf "a_b.sol") (.string "second") := by
  obtain ⟨final, returned, -⟩ := Sample.verify_of_stored Sample.stored_colliding.1
  obtain ⟨stages, address, chain, isMatch, kept⟩ := source_of_verify returned
  -- The contract is complete, so what is stored are the sources of the request.
  have sources : stages.contract.sources = Sample.colliding := by
    have compiles : (Except.ok ((Sample.requestFor Sample.colliding).contract, Sample.artifact),
        stages.resolved) = (Except.ok (stages.contract, stages.artifact), stages.compiled) :=
      stages.compiles
    simp only [Prod.mk.injEq, Except.ok.injEq] at compiles
    rw [← compiles.1.1]
    rfl
  cases isMatch
  rw [← Json.string.inj chain] at kept
  have apart : Sample.placeOf "x/../y/../../metadata.json" ≠ Sample.placeOf "a_b.sol" ∧
      Sample.placeOf "a_b.sol"
        ≠ Sample.verifier.store.filePlace .full "1" Sample.address "metadata.json" := by
    decide +kernel
  refine ⟨final, returned, kept [("a b.sol", .string "first")] "a_b.sol" (.string "second")
    [("x/../y/../../metadata.json", .string "third")] sources ?_ apart.2 nofun⟩
  intro entry member
  rw [List.mem_singleton.mp member]
  exact apart.1

/-- Two sources and a file of the record lose to what comes after them. -/
theorem colliding_sources_lost :
    ∃ final,
      verify Sample.verifier (Sample.requestFor Sample.colliding) Sample.world (Session.fresh [])
        = (.ok Sample.result, final) ∧
      ("a b.sol", .string "first") ∈ (Sample.requestFor Sample.colliding).contract.sources ∧
      final.tree.file? (Sample.placeOf "a b.sol") = some "second".toUTF8.toList ∧
      ¬final.tree.HoldsText (Sample.placeOf "a b.sol") (.string "first") ∧
      ("x/../y/../../metadata.json", .string "third")
        ∈ (Sample.requestFor Sample.colliding).contract.sources ∧
      final.tree.file? (Sample.placeOf "x/../y/../../metadata.json")
        = some "metadata".toUTF8.toList := by
  obtain ⟨stored, second, metadata⟩ := Sample.stored_colliding
  obtain ⟨final, returned, tree⟩ := Sample.verify_of_stored stored
  rw [← tree] at second metadata
  refine ⟨final, returned, List.mem_cons_self, second, ?_, by simp [Sample.requestFor, Sample.colliding],
    metadata⟩
  rintro ⟨text, isText, holds⟩
  cases isText
  rw [second] at holds
  exact absurd holds (by decide +kernel)

end SourceAttest.Verification
