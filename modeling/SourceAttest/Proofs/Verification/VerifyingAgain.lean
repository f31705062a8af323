import SourceAttest.Proofs.Accord
import SourceAttest.Proofs.Verification.Losses
import SourceAttest.Proofs.Verification.Planning

/-!
# Verifying again

Where all answers from outside depend on the questions alone, each stage of a verification comes to
the same a second time, whether the contract has been completed in the meantime or not. The main
results are `plan_of_verify`, by which a verification returns the same wherever its plan can be
followed, and `verify_again`: verifying once more has the same result and leaves the same tree.
-/
namespace SourceAttest.Verification

open SourceAttest.Action

section

variable {verifier : Verifier} {logger logger' : Logger} {request : VerificationRequest}
  {accepted : Accepted} {chain : Option Chain} {contract fetched : Contract}
  {artifact : CompiledArtifact} {matched : MatchResult} {world : World}
  {session middle final : Session}

/-! ### The stages, once more -/

theorem chainOf_again (contract : Contract) (logger' : Logger) (later : Session)
    (resolves : chainOf verifier logger request accepted world session = (.ok chain, final)) :
    chainOf verifier logger' { request with contract := contract } accepted world later
      = (.ok chain, later) := by
  have known : knownCode? { request with contract := contract } = knownCode? request := rfl
  unfold chainOf at resolves ⊢
  rw [known]
  split at resolves
  next isKnown =>
    rw [if_pos isKnown]
    exact congrArg (Except.ok · , later) (pure_eq_ok.mp resolves).1
  next unknown =>
    rw [if_neg unknown]
    cases found : verifier.chains.chain (.string accepted.chain) with
    | ok chain =>
      rw [found] at resolves
      cases (pure_eq_ok.mp resolves).1
      rfl
    | error fault =>
      rw [found] at resolves
      exact absurd resolves refuse_ne_ok

/-- A contract that is completed and then recompiled has been compiled. -/
theorem compileOrRefuse_of_completed
    (completes : completed verifier logger contract world session = (.ok fetched, middle))
    (compiles : verifier.recompile logger fetched.metadata (.object fetched.sources) world middle
      = (.ok artifact, final)) :
    compileOrRefuse verifier logger contract accepted world session
      = (.ok (fetched, artifact), final) := by
  have both : compiled verifier logger contract world session = (.ok (fetched, artifact), final) :=
    bind_eq_ok.mpr ⟨fetched, middle, completes, bind_eq_ok.mpr ⟨artifact, final, compiles, rfl⟩⟩
  exact bind_eq_ok.mpr ⟨.ok (fetched, artifact), final, attempt_eq_ok.mpr both, rfl⟩

/-- What a match is stored as is what concluding returns. -/
theorem conclude_of_stored {address : String} {status : MatchStatus} (agrees : matched.status ≠ .none)
    (named : matched.address = some address)
    (stored : storeRecord verifier.store logger accepted.chain address contract artifact
      ⟨matched.status, matched.constructorArgs⟩ world session = (.ok status, middle)) :
    ∃ last, conclude verifier logger accepted contract artifact matched world session
        = (.ok { matched with status := status }, last) ∧ last.tree = middle.tree := by
  obtain ⟨found, matching, args, message⟩ := matched
  cases named
  have kept : storeOrRefuse verifier logger accepted address contract artifact ⟨matching, args⟩ world
      session = (.ok status, middle) :=
    bind_eq_ok.mpr ⟨.ok status, middle, attempt_eq_ok.mpr stored, rfl⟩
  cases matching with
  | none => exact absurd rfl agrees
  | exact => exact ⟨_, bind_eq_ok.mpr ⟨status, middle, kept, bind_eq_ok.mpr ⟨(), _, rfl, rfl⟩⟩, rfl⟩
  | partly => exact ⟨_, bind_eq_ok.mpr ⟨status, middle, kept, bind_eq_ok.mpr ⟨(), _, rfl, rfl⟩⟩, rfl⟩

section Fixed

variable (fixed : verifier.IsFixed world)

include fixed

theorem creationDataOnChain_accords (logger logger' : Logger) (chain address : String) :
    (creationDataOnChain verifier logger chain address).Accords world
      (creationDataOnChain verifier logger' chain address) := by
  unfold creationDataOnChain
  cases verifier.chains.find? (.string chain) with
  | error fault => exact .fail _
  | ok found =>
    cases found with
    | none => exact .fail _
    | some chain => exact fixed.resolver ..

theorem completed_accords (logger logger' : Logger) (contract : Contract) :
    (completed verifier logger contract).Accords world (completed verifier logger' contract) := by
  unfold completed
  split
  · exact .pure _
  · exact fixed.fetch ..

variable (fetches : verifier.fetch.Completes)

include fetches

/-- Compiling a contract or what it was completed to comes to the same again. -/
theorem compileOrRefuse_again {again : Contract} (same : again = contract ∨ again = fetched)
    (logger' : Logger) (later : Session)
    (returned : compileOrRefuse verifier logger contract accepted world session
      = (.ok (fetched, artifact), final)) :
    ∃ last, compileOrRefuse verifier logger' again accepted world later
      = (.ok (fetched, artifact), last) := by
  obtain ⟨middle, fetching, compiles⟩ := compileOrRefuse_eq_ok returned
  have fetching' : ∃ middle', completed verifier logger' again world later = (.ok fetched, middle') := by
    rcases same with rfl | rfl
    · exact (completed_accords fixed logger logger' _).run_eq fetching later
    · rw [completed, if_pos (completes_of_completed fetches fetching).isComplete]
      exact ⟨later, rfl⟩
  obtain ⟨middle', fetching'⟩ := fetching'
  obtain ⟨last, compiles'⟩ := (fixed.recompile logger logger' _ _).run_eq compiles middle'
  exact ⟨last, compileOrRefuse_of_completed fetching' compiles'⟩

omit fetches

variable (steady : world.network.IsSteady)

include steady

theorem matchCode_again (contract : Contract) (logger' : Logger) (later : Session)
    (finds : matchCode verifier logger request accepted chain artifact world session
      = (.ok matched, final)) :
    ∃ last, matchCode verifier logger' { request with contract := contract } accepted chain artifact
      world later = (.ok matched, last) := by
  have same : knownCode? { request with contract := contract } = knownCode? request := rfl
  unfold matchCode at finds ⊢
  rw [same]
  cases known : knownCode? request with
  | some code =>
    rw [known] at finds
    obtain ⟨candidate, address, verdict, single, selects, checks, compared, rfl⟩ :=
      compareKnown_eq_ok finds
    obtain ⟨last, compared'⟩ := (compareValues_accords _ _ _ _
      (creationDataOnChain_accords fixed logger logger' accepted.chain address)).run_eq compared later
    refine ⟨last, ?_⟩
    dsimp only
    rw [compareKnown, if_neg (not_not.mpr single)]
    exact bind_eq_ok.mpr ⟨candidate, later, ofShape_eq_ok.mpr ⟨selects, rfl⟩,
      bind_eq_ok.mpr ⟨address, later, ofExcept_eq_ok.mpr ⟨checks, rfl⟩,
        bind_eq_ok.mpr ⟨verdict, last, compared', rfl⟩⟩⟩
  | none =>
    rw [known] at finds
    cases chain with
    | some chain =>
      exact (Matching.firstMatch_accords steady fixed.resolver logger logger' ..).run_eq finds later
    | none =>
      obtain ⟨rfl, rfl⟩ := pure_eq_ok.mp finds
      exact ⟨later, rfl⟩

/-- Another verification goes through the same stages. -/
theorem stages_again (fetches : verifier.fetch.Completes)
    (stages : Stages verifier request world session) {contract : Contract}
    (among : contract = request.contract ∨ contract = stages.contract) (later : Session) :
    ∃ again : Stages verifier { request with contract := contract } world later,
      again.accepted = stages.accepted ∧ again.contract = stages.contract ∧
      again.artifact = stages.artifact ∧ again.matched = stages.matched := by
  have resolves := chainOf_again contract (nextLogger verifier later) (begun later) stages.resolves
  obtain ⟨compiled, compiles⟩ := compileOrRefuse_again fixed fetches among (nextLogger verifier later)
    (begun later) stages.compiles
  obtain ⟨found, finds⟩ := matchCode_again fixed steady contract (nextLogger verifier later) compiled
    stages.finds
  exact ⟨{ stages with
    number := later.verifications + 1
    begun := begun later
    resolved := begun later
    compiled := compiled
    found := found
    accepts := stages.accepts
    begins := nextVerification_run world later
    resolves := resolves
    compiles := compiles
    finds := finds }, rfl, rfl, rfl, rfl⟩

end Fixed

/-! ### The whole verification -/

/-- A pair of a chain and a checksummed address that a request names. -/
def IsCandidate (request : VerificationRequest) (chain address : String) : Prop :=
  request.chain = .string chain ∧ ∃ candidates text, request.addresses.items = .ok candidates ∧
    .string text ∈ candidates ∧ Address.checksum text = .ok address

/-- A verification that returns has followed a plan. Where the network and what the verifier is supplied with
answer by what they are asked alone, it returns the same wherever that plan can be followed, and does
no more to the repository, with the contract as it was or as it has been completed. -/
theorem plan_of_verify {chain : String} {result : MatchResult} (outside : verifier.LeavesTree)
    (fetches : verifier.fetch.Completes) (steady : world.network.IsSteady) (fixed : verifier.IsFixed world)
    (named : request.chain = .string chain) (segment : IsSegment chain)
    (inside : ∀ path ∈ request.contract.paths, Store.StaysInside (sanitizePath path))
    (returned : verify verifier request world session = (.ok result, final)) :
    ∃ (stages : Stages verifier request world session) (plan : Plan),
      plan.IsSound verifier.store ∧ IsCandidate request plan.chain plan.address ∧
      plan.Stores verifier.store session.tree final.tree ∧
      ∀ contract, contract = request.contract ∨ contract = stages.contract →
      ∀ (later : Session) (after : Tree), plan.Stores verifier.store later.tree after →
      ∃ last, verify verifier { request with contract := contract } world later = (.ok result, last) ∧
        last.tree = after := by
  obtain ⟨stages, returned⟩ := verify_eq_ok returned
  obtain ⟨address, status, stored, agrees, matches', rfl, kept, stores⟩ := conclude_eq_ok returned
  have fits := fits_of_accept stages.accepts
  -- The verification has stored its match under ordinary names.
  obtain ⟨⟨text, member, checked⟩, segment'⟩ := checksum_of_matchCode fits stages.finds matches'
  have segments : IsSegment stages.accepted.chain ∧ IsSegment address :=
    ⟨chain_of_fits fits named ▸ segment, segment'⟩
  have sources := stages.sourcesStayInside fetches inside
  obtain ⟨document, read, rfl, followed⟩ := stores_of_storeRecord stores
  rw [stages.tree_found outside, ← kept] at followed
  refine ⟨stages, _, isSound_planOf segments sources read,
    ⟨fits.chain, _, text, fits.items, member, checked⟩, followed, ?_⟩
  intro contract among later after followed'
  obtain ⟨again, accepts, contracts, artifacts, finds⟩ := stages_again fixed steady fetches stages among later
  -- What matches as it did is stored as it was.
  rw [← again.tree_found outside] at followed'
  obtain ⟨last, stores', kept'⟩ := storeRecord_of_stores (loggerOf verifier again.number) world read
    followed'
  obtain ⟨last', concludes, kept''⟩ := conclude_of_stored agrees matches' stores'
  refine ⟨last', verify_of_stages again ?_, kept''.trans kept'⟩
  rw [accepts, contracts, artifacts, finds]
  exact concludes

/-- A verification that has succeeded succeeds again. Where the network and what the verifier is supplied
with answer by what they are asked alone, a second verification of the request, with its contract as it was
or as it has been completed, has the same result and leaves the repository as it is. -/
theorem verify_again {chain : String} {result : MatchResult} (outside : verifier.LeavesTree)
    (fetches : verifier.fetch.Completes) (steady : world.network.IsSteady) (fixed : verifier.IsFixed world)
    (closed : session.tree.IsClosed) (named : request.chain = .string chain)
    (segment : IsSegment chain)
    (inside : ∀ path ∈ request.contract.paths, Store.StaysInside (sanitizePath path))
    (returned : verify verifier request world session = (.ok result, final)) :
    ∃ stages : Stages verifier request world session,
      ∀ contract, contract = request.contract ∨ contract = stages.contract →
      ∀ later : Session, (∀ place, later.tree.node? place = final.tree.node? place) →
      ∃ last, verify verifier { request with contract := contract } world later = (.ok result, last) ∧
        ∀ place, last.tree.node? place = final.tree.node? place := by
  obtain ⟨stages, plan, sound, -, followed, returns⟩ :=
    plan_of_verify outside fetches steady fixed named segment inside returned
  refine ⟨stages, fun contract among later same => ?_⟩
  -- The plan can be followed once more, and changes nothing.
  obtain ⟨after, again, same'⟩ := followed.again sound closed same
  obtain ⟨last, returned', rfl⟩ := returns contract among later after again
  exact ⟨last, returned', same'⟩

end

namespace Sample

theorem stored_over_records : (storing request.contract.sources stored).1.toOption = some .exact := by
  simp only [storing, storeRecord, saveDocument, published, requestFor, request, saveSources,
    Store.save, Store.saveAt]
  unfold Store.write Store.deletePartial
  simp only [Path.hasNul_eq]
  decide +kernel

theorem verify_over_records :
    ∃ final, verify verifier request world (Session.fresh stored) = (.ok result, final) := by
  obtain ⟨final, returned, -⟩ := verify_of_stored stored_over_records
  exact ⟨final, returned⟩

end Sample

/-- Known code is verified twice over a partial and a full record: the first verification removes the
one and fills the other, and the second one leaves both so. -/
theorem verify_again_over_records :
    ∃ final, verify Sample.verifier Sample.request Sample.world (Session.fresh Sample.stored)
        = (.ok Sample.result, final) ∧
      ∃ last, verify Sample.verifier Sample.request Sample.world final = (.ok Sample.result, last) ∧
        ∀ place, last.tree.node? place = final.tree.node? place := by
  obtain ⟨final, returned⟩ := Sample.verify_over_records
  have steady : Sample.world.network.IsSteady := ⟨fun _ _ _ => rfl, fun _ _ _ _ _ _ _ => rfl⟩
  have fixed : Sample.verifier.IsFixed Sample.world :=
    ⟨fun _ _ _ _ => .pure _, Fetcher.own_accords steady, fun _ _ _ _ => .pure _⟩
  have closed : Sample.stored.IsClosed := Tree.isClosed_of_keys (by decide +kernel)
  obtain ⟨stages, again⟩ :=
    verify_again Sample.leavesTree Fetcher.completes_own steady fixed closed rfl (by decide)
      Sample.staysInside returned
  obtain ⟨last, returned', same⟩ := again Sample.request.contract (.inl rfl) final fun _ => rfl
  exact ⟨final, returned, last, returned', same⟩

end SourceAttest.Verification
