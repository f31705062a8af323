import SourceAttest.Proofs.Comparison.Lookup
import SourceAttest.Proofs.Verification.Faults
import SourceAttest.Proofs.Verification.Unregistered

/-!
# What a verification does at which stage

A verification goes through its stages in order, and what it does to the outside is up to the stage it
has come to: nothing but reports before the contract is completed, nothing but requests for missing
sources before the code is matched, and nothing is stored before a comparison has come to a match. The
main result is `effects_are_gated`.
-/
namespace SourceAttest

open SourceAttest.Action

/-! ### The supplied functions -/

/-- A recompiler that makes no calls and leaves the file tree alone. -/
structure Recompiler.IsQuiet (recompile : Recompiler) : Prop where
  keepsTree : ∀ logger metadata sources, (recompile logger metadata sources).KeepsTree
  sends : ∀ logger metadata sources, (recompile logger metadata sources).SendsOnly fun _ => False

/-- The library's own compiler run is quiet. -/
theorem Compiler.isQuiet_recompile (path : Option String) :
    Recompiler.IsQuiet (Compiler.recompile path) where
  keepsTree _ _ _ := (onlyAsks_recompile path ..).keepsTree
  sends _ _ _ := .bind (.ask _) fun _ => .bind (.ofExcept _) fun _ => .bind (.ofShape _) fun _ =>
    .bind (.report ..) fun _ => .bind (.ofExcept _) fun _ => .bind (.compile _) fun _ =>
      .bind (.ofExcept _) fun _ => .ofExcept _

/-- The gateways that the environment chooses. -/
def gatewaysOf (world : World) : Contract.Gateways :=
  .choose .null .null world.environment

/-- A fetcher that asks for nothing but the sources that are missing and leaves the file tree alone. -/
structure Fetcher.IsQuiet (fetch : Fetcher) : Prop where
  keepsTree : ∀ logger contract, (fetch logger contract).KeepsTree
  sends : ∀ logger (contract : Contract) world (session : Session),
    session.Sends (contract.Fetches (gatewaysOf world)) (fetch logger contract world session).2

/-- The library's own fetcher is quiet. -/
theorem Fetcher.isQuiet_own : own.IsQuiet where
  keepsTree _ _ := (onlyAsks_own ..).keepsTree
  sends logger contract world session :=
    (Contract.sendsOnly_complete (gatewaysOf world) logger contract).sends world session

/-- What a verifier is supplied with, up to the resolver, is quiet. -/
structure Verifier.IsQuiet (verifier : Verifier) : Prop where
  recompile : verifier.recompile.IsQuiet
  fetch : verifier.fetch.IsQuiet

namespace Verification

section

variable {verifier : Verifier} {request : VerificationRequest} {world : World} {session final : Session}

/-! ### Verifications that end early -/

theorem verify_of_unsupported {accepted : Accepted} {fault : Fault}
    (accepts : accept request = .ok accepted)
    (fails : chainOf verifier (nextLogger verifier session) request accepted world (begun session)
      = (.error fault, final)) :
    verify verifier request world session = (.error fault, final) := by
  rw [verify, accepts]
  exact (bind_of_ok (nextVerification_run world session)).trans (bind_of_error fails)

theorem verify_of_uncompiled {accepted : Accepted} {chain : Option Chain} {resolved : Session}
    {fault : Fault} (accepts : accept request = .ok accepted)
    (resolves : chainOf verifier (nextLogger verifier session) request accepted world (begun session)
      = (.ok chain, resolved))
    (fails : compileOrRefuse verifier (nextLogger verifier session) request.contract accepted world
      resolved = (.error fault, final)) :
    verify verifier request world session = (.error fault, final) := by
  rw [verify, accepts]
  exact (bind_of_ok (nextVerification_run world session)).trans <|
    (bind_of_ok resolves).trans (bind_of_error fails)

/-! ### The stages before a match -/

section Stages

variable {logger : Logger} {accepted : Accepted}

/-- Looking for the chain does nothing, except that a chain that is not found is reported. -/
theorem chainOf_run (verifier : Verifier) (logger : Logger) (request : VerificationRequest)
    (accepted : Accepted) (world : World) (session : Session) :
    ∃ outcome events, chainOf verifier logger request accepted world session
      = (outcome, { session with events := session.events ++ events }) := by
  unfold chainOf
  split
  · exact ⟨_, [], by rw [List.append_nil]; rfl⟩
  · cases verifier.chains.chain (.string accepted.chain) with
    | ok chain => exact ⟨_, [], by rw [List.append_nil]; rfl⟩
    | error fault => exact ⟨_, _, rfl⟩

/-- The contract matters to the search for the chain only by its name, and neither the fetcher nor the
compiler does. -/
theorem chainOf_congr (fetch : Fetcher) (recompile : Recompiler) {contract : Contract}
    (named : contract.name = request.contract.name) :
    chainOf { verifier with fetch := fetch, recompile := recompile } logger
        { request with contract := contract } accepted = chainOf verifier logger request accepted := by
  have known : knownCode? { request with contract := contract } = knownCode? request := rfl
  simp only [chainOf, refuse, named, known]

/-- Compiling asks for the missing sources of the contract and for nothing else. -/
theorem sends_of_compileOrRefuse (quiet : verifier.IsQuiet) {contract : Contract}
    {outcome : Except Fault (Contract × CompiledArtifact)}
    (run : compileOrRefuse verifier logger contract accepted world session = (outcome, final)) :
    session.Sends (contract.Fetches (gatewaysOf world)) final := by
  have fetched : session.Sends (contract.Fetches (gatewaysOf world))
      (completed verifier logger contract world session).2 := by
    unfold completed
    split
    · exact .of_same rfl rfl
    · exact quiet.fetch.sends ..
  have first : session.Sends (contract.Fetches (gatewaysOf world))
      (compiled verifier logger contract world session).2 :=
    SendsOnly.bind_run fetched fun _ =>
      .bind ((quiet.recompile.sends ..).mono fun _ => False.elim) fun _ => .pure _
  have sent : session.Sends (contract.Fetches (gatewaysOf world))
      (compileOrRefuse verifier logger contract accepted world session).2 := by
    refine SendsOnly.bind_run first fun outcome => ?_
    split
    · exact .pure _
    · split
      · exact .bind (.report ..) fun _ => .fail _
      · exact .fail _
  rwa [run] at sent

/-- If sources and compiler fail only as such, so does compiling as a whole. -/
theorem kind_of_compileOrRefuse {contract : Contract} {fault : Fault}
    (completes : ∀ logger now fault, (verifier.fetch logger contract world now).1 = .error fault →
      fault.kind = .compilation)
    (compiles : ∀ logger metadata sources now fault,
      (verifier.recompile logger metadata sources world now).1 = .error fault →
        fault.kind = .compilation)
    (fails : compileOrRefuse verifier logger contract accepted world session = (.error fault, final)) :
    fault.kind = .compilation := by
  have cause {fault : Fault} (failed : (compiled verifier logger contract world session).1
      = .error fault) : fault.kind = .compilation := by
    have run : (completed verifier logger contract >>= _) world session
        = (.error fault, (compiled verifier logger contract world session).2) := Prod.ext failed rfl
    rcases bind_cases run with ⟨why, same, fails⟩ | ⟨fetched, middle, _, run⟩
    · cases same
      unfold completed at fails
      split at fails
      · cases fails
      · exact completes logger session _ (congrArg Prod.fst fails)
    rcases bind_cases run with ⟨why, same, fails⟩ | ⟨artifact, last, _, run⟩
    · cases same
      exact compiles logger _ _ middle _ (congrArg Prod.fst fails)
    · cases run
  rw [compileOrRefuse, bind_of_ok (attempt_run ..)] at fails
  cases outcome : (compiled verifier logger contract world session).1 with
  | ok completed =>
    rw [outcome] at fails
    cases fails
  | error why =>
    rw [outcome] at fails
    dsimp only at fails
    have kind := cause outcome
    rw [if_pos kind] at fails
    cases fails
    exact kind

/-! ### Matching -/

/-- Creation data at hand keep a comparison from looking any up. -/
theorem sendsOnly_compareValues_of_data {known : Json} (atHand : known.isTruthy = true)
    (deployed runtime creation : Json) (fetch : Action (Option String)) :
    (compareValues deployed known runtime creation fetch).SendsOnly fun _ => False := by
  rcases compareValues_cases deployed known runtime creation with
    ⟨outcome, decides⟩ | ⟨_, _, _, _, _, _, absent, _⟩
  · constructor
    intro world session
    rw [decides fetch world session]
    exact .of_same rfl rfl
  · rw [atHand] at absent
    cases absent

/-- Known code is matched without any call if creation data are at hand as well. -/
theorem sendsOnly_matchCode_of_data (given : request.bytecode.isTruthy = true)
    (atHand : request.creationData.isTruthy = true) (chain : Option Chain)
    (artifact : CompiledArtifact) :
    (matchCode verifier logger request accepted chain artifact).SendsOnly fun _ => False := by
  rw [matchCode_of_known _ _ _ _ _ (if_pos given), compareKnown]
  split
  · exact .bind (.report ..) fun _ => .fail _
  · exact .bind (.ofShape _) fun _ => .bind (.ofExcept _) fun _ =>
      .bind (sendsOnly_compareValues_of_data atHand ..) fun _ => .pure _

/-- Known code is not compared at all if it belongs to more than one address. -/
theorem matchCode_of_many (given : request.bytecode.isTruthy = true)
    (many : accepted.candidates.length ≠ 1) (chain : Option Chain) (artifact : CompiledArtifact) :
    matchCode verifier logger request accepted chain artifact = (do
      logger.error manyAddresses (subject accepted)
      Action.fail (.ofContract request.contract.name (.noMatch manyAddresses))) := by
  rw [matchCode_of_known _ _ _ _ _ (if_pos given), compareKnown, if_pos many]

end Stages

/-! ### The comparison behind a stored match -/

/-- A comparison for a candidate of the request has come to the verdict of the match: known code was
compared in its place, or the code that the node told for the first candidate that matches. -/
inductive Compares (stages : Stages verifier request world session) (text address : String)
    (verdict : Verdict) : Prop
  | known (given : request.bytecode.isTruthy = true)
      (listed : .string text ∈ stages.accepted.candidates)
      (compares : compareValues request.bytecode request.creationData stages.artifact.runtime
          stages.artifact.creation (creationDataOnChain verifier (loggerOf verifier stages.number)
            stages.accepted.chain address) world stages.compiled = (.ok verdict, stages.found))
  | told {chain : Chain} {earlier later : List Json} {before : Session}
      (unknown : request.bytecode.isTruthy = false)
      (isChain : verifier.chains.chain (.string stages.accepted.chain) = .ok chain)
      (inTurn : stages.accepted.candidates = earlier ++ .string text :: later)
      (passes : Matching.Passes (loggerOf verifier stages.number) verifier.resolver chain
        ⟨stages.artifact.runtime, stages.artifact.creation⟩ world earlier stages.compiled before)
      (found : Matching.Found (loggerOf verifier stages.number) verifier.resolver chain
        ⟨stages.artifact.runtime, stages.artifact.creation⟩ world address verdict before stages.found)

theorem chainOf_eq_ok {logger : Logger} {accepted : Accepted} {found : Option Chain}
    (unknown : knownCode? request = none)
    (resolves : chainOf verifier logger request accepted world session = (.ok found, final)) :
    ∃ chain, found = some chain ∧ verifier.chains.chain (.string accepted.chain) = .ok chain := by
  rw [chainOf, unknown] at resolves
  cases isChain : verifier.chains.chain (.string accepted.chain) with
  | ok chain =>
    rw [isChain] at resolves
    cases (pure_eq_ok.mp resolves).1
    exact ⟨chain, rfl, rfl⟩
  | error fault =>
    rw [isChain] at resolves
    exact absurd resolves refuse_ne_ok

theorem compares_of_stages (stages : Stages verifier request world session)
    (isMatch : stages.matched.status ≠ .none) :
    ∃ text address verdict, Address.checksum text = .ok address ∧ verdict.status ≠ .none ∧
      stages.matched = ⟨some address, verdict.status, verdict.constructorArgs, none⟩ ∧
      Compares stages text address verdict := by
  have fits := fits_of_accept stages.accepts
  have finds := stages.finds
  cases known : knownCode? request with
  | some code =>
    obtain ⟨given, rfl⟩ := bytecode_of_knownCode? known
    rw [matchCode_of_known _ _ _ _ _ known] at finds
    obtain ⟨candidate, address, verdict, -, selected, checks, compares, same⟩ :=
      compareKnown_eq_ok finds
    have listed := mem_candidates_of_select fits selected
    obtain ⟨text, rfl⟩ := fits.texts candidate listed
    refine ⟨text, address, verdict, checks, ?_, same, .known given listed compares⟩
    rwa [same] at isMatch
  | none =>
    have unknown : request.bytecode.isTruthy = false := by
      unfold knownCode? at known
      split at known
      · cases known
      next absent => simpa using absent
    obtain ⟨chain, isSome, isChain⟩ := chainOf_eq_ok known stages.resolves
    simp only [matchCode, known, isSome, Matching.firstMatch] at finds
    obtain ⟨earlier, candidate, later, address, verdict, before, inTurn, passes, checks, found, same⟩ :=
      Matching.tryEach_eq_ok finds isMatch
    obtain ⟨text, rfl⟩ := fits.texts candidate (by rw [inTurn]; simp)
    exact ⟨text, address, verdict, checks, found.isMatch, same, .told unknown isChain inTurn passes found⟩

/-! ### All stages -/

/-- What a verification has done to the outside, by the way it ended. -/
structure Gated (verifier : Verifier) (request : VerificationRequest) (world : World)
    (session : Session) : Prop where
  /-- An invalid request, or one for an unknown chain, has been reported at most, and would have been
  whatever its sources, the fetcher and the compiler are. -/
  invalid : ∀ fault final, verify verifier request world session = (.error fault, final) →
    fault.kind = .validation ∨ fault.kind = .chainNotFound →
    (∃ events number, final = { session with events := events, verifications := number }) ∧
    ∀ fetch recompile contract, contract.name = request.contract.name →
      verify { verifier with fetch := fetch, recompile := recompile }
        { request with contract := contract } world session = (.error fault, final)
  /-- A contract that is not compiled has caused requests for its missing sources and no others, and
  the resolver has not been asked. -/
  uncompiled : ∀ fault final, verify verifier request world session = (.error fault, final) →
    fault.kind = .compilation →
    final.tree = session.tree ∧ session.Sends (request.contract.Fetches (gatewaysOf world)) final ∧
    ∀ resolver, verify { verifier with resolver := resolver } request world session
      = (.error fault, final)
  /-- Code that does not match is not stored. If it was known code and there are several addresses,
  the resolver has not been asked either. -/
  unmatched : ∀ fault final, verify verifier request world session = (.error fault, final) →
    fault.kind = .noMatch →
    final.tree = session.tree ∧
    ∀ candidates, request.addresses.items = .ok candidates → 1 < candidates.length →
      request.bytecode.isTruthy = true →
      session.Sends (request.contract.Fetches (gatewaysOf world)) final ∧
      ∀ resolver, verify { verifier with resolver := resolver } request world session
        = (.error fault, final)
  /-- Known code is matched without any call if creation data are at hand. -/
  dataAtHand : request.bytecode.isTruthy = true → request.creationData.isTruthy = true →
    ∀ logger accepted chain artifact outcome (now after : Session),
      matchCode verifier logger request accepted chain artifact world now = (outcome, after) →
      after.requests = now.requests ∧ after.rpcCalls = now.rpcCalls
  /-- Only a comparison for a candidate that came to a match makes the tree change. -/
  stored : (verify verifier request world session).2.tree ≠ session.tree →
    ∃ (stages : Stages verifier request world session) (text address : String) (verdict : Verdict),
      Address.checksum text = .ok address ∧ verdict.status ≠ .none ∧
      stages.matched = ⟨some address, verdict.status, verdict.constructorArgs, none⟩ ∧
      Compares stages text address verdict

variable {fault : Fault}

section Gating

variable
  (limited : ∀ logger chain address, (verifier.resolver logger chain address).FailsOnly
    Fault.IsIncidental)
  (completes : ∀ logger now fault, (verifier.fetch logger request.contract world now).1 = .error fault →
    fault.kind = .compilation)
  (compiles : ∀ logger metadata sources now fault,
    (verifier.recompile logger metadata sources world now).1 = .error fault →
      fault.kind = .compilation)

include limited completes compiles

theorem invalid_of_exits (exits : Exits verifier request world session (.error fault) final)
    (kind : fault.kind = .validation ∨ fault.kind = .chainNotFound) :
    (∃ events number, final = { session with events := events, verifications := number }) ∧
    ∀ fetch recompile contract, contract.name = request.contract.name →
      verify { verifier with fetch := fetch, recompile := recompile }
        { request with contract := contract } world session = (.error fault, final) := by
  have early : fault.kind ∈ [FaultKind.validation, .chainNotFound, .compilation] := by
    rcases kind with kind | kind <;> rw [kind] <;> decide
  have notCompiling : fault.kind ≠ .compilation := by
    rcases kind with kind | kind <;> rw [kind] <;> decide
  -- An invalid request is refused or its chain is not found; the later ends have other kinds of faults.
  cases exits with
  | refused refuses =>
    refine ⟨⟨_, _, rfl⟩, fun fetch recompile contract named => ?_⟩
    have refuses' : accept { request with contract := contract } = .error fault := refuses
    rw [verify, refuses']
    rfl
  | unsupported accepts fails =>
    obtain ⟨outcome, events, run⟩ := chainOf_run verifier (nextLogger verifier session) request _ world
      (begun session)
    cases run.symm.trans fails
    refine ⟨⟨_, _, rfl⟩, fun fetch recompile contract named => ?_⟩
    refine verify_of_unsupported accepts ?_
    rw [← fails, ← chainOf_congr fetch recompile named]
    rfl
  | uncompiled accepts resolves fails =>
    exact absurd (kind_of_compileOrRefuse completes compiles fails) notCompiling
  | unmatched accepts resolves compiled fails =>
    have late := (failsOnly_matchCode (limited _) _).faults (congrArg Prod.fst fails)
    exact absurd early late.kind_not_mem
  | concluded stages concludes =>
    have late := (failsOnly_conclude ..).faults (congrArg Prod.fst concludes)
    exact absurd early late.kind_not_mem

end Gating

/-- Up to the end of compiling, nothing but missing sources has been asked for. -/
theorem sends_of_stages (outside : verifier.LeavesTree) (quiet : verifier.IsQuiet)
    {accepted : Accepted} {chain : Option Chain} {resolved compiled : Session}
    {outcome : Except Fault (Contract × CompiledArtifact)}
    (resolves : chainOf verifier (nextLogger verifier session) request accepted world (begun session)
      = (.ok chain, resolved))
    (compiles : compileOrRefuse verifier (nextLogger verifier session) request.contract accepted world
      resolved = (outcome, compiled)) :
    compiled.tree = session.tree ∧
      session.Sends (request.contract.Fetches (gatewaysOf world)) compiled := by
  obtain ⟨reached, events, run⟩ := chainOf_run verifier (nextLogger verifier session) request accepted
    world (begun session)
  cases run.symm.trans resolves
  have kept := (keepsTree_compileOrRefuse outside ..).tree_eq compiles
  have before : session.Sends (request.contract.Fetches (gatewaysOf world))
      { begun session with events := session.events ++ events } := .of_same rfl rfl
  exact ⟨kept, before.trans (sends_of_compileOrRefuse quiet compiles)⟩

/-- A verification that fails has failed before its code was matched, without having asked the
resolver, or it has failed in matching or in storing. -/
theorem matched_of_exits (outside : verifier.LeavesTree) (quiet : verifier.IsQuiet)
    (exits : Exits verifier request world session (.error fault) final) :
    (final.tree = session.tree ∧ session.Sends (request.contract.Fetches (gatewaysOf world)) final ∧
      ∀ resolver, verify { verifier with resolver := resolver } request world session
        = (.error fault, final)) ∨
    ∃ logger accepted chain artifact compiled, accept request = .ok accepted ∧
      compiled.tree = session.tree ∧
      session.Sends (request.contract.Fetches (gatewaysOf world)) compiled ∧
      (matchCode verifier logger request accepted chain artifact world compiled
          = (.error fault, final) ∨
        ∃ contract matched found,
          matchCode verifier logger request accepted chain artifact world compiled
            = (.ok matched, found) ∧
          conclude verifier logger accepted contract artifact matched world found
            = (.error fault, final)) := by
  -- The first three ends come before the resolver is looked at.
  cases exits with
  | refused refuses =>
    refine .inl ⟨rfl, .of_same rfl rfl, fun resolver => ?_⟩
    rw [verify, refuses]
    rfl
  | unsupported accepts fails =>
    obtain ⟨outcome, events, run⟩ := chainOf_run verifier (nextLogger verifier session) request _ world
      (begun session)
    cases run.symm.trans fails
    exact .inl ⟨rfl, .of_same rfl rfl, fun resolver => verify_of_unsupported accepts fails⟩
  | uncompiled accepts resolves fails =>
    obtain ⟨kept, sent⟩ := sends_of_stages outside quiet resolves fails
    exact .inl ⟨kept, sent, fun resolver => verify_of_uncompiled accepts resolves fails⟩
  | unmatched accepts resolves compiles fails =>
    obtain ⟨kept, sent⟩ := sends_of_stages outside quiet resolves compiles
    exact .inr ⟨_, _, _, _, _, accepts, kept, sent, .inl fails⟩
  | concluded stages concludes =>
    obtain ⟨accepted, number, chain, contract, artifact, matched, begun, resolved, compiled, found,
      accepts, begins, resolves, compiles, finds⟩ := stages
    cases begins
    obtain ⟨kept, sent⟩ := sends_of_stages outside quiet resolves compiles
    exact .inr ⟨_, _, _, _, _, accepts, kept, sent, .inr ⟨_, _, _, finds, concludes⟩⟩

theorem tree_of_unmatched {logger : Logger} {accepted : Accepted} {contract : Contract}
    {artifact : CompiledArtifact} {matched : MatchResult} (kind : fault.kind = .noMatch)
    (failed : conclude verifier logger accepted contract artifact matched world session
      = (.error fault, final)) : final.tree = session.tree := by
  rcases tree_of_conclude contract artifact matched with kept | ⟨address, named, isMatch, _⟩
  · rwa [failed] at kept
  · have incidental := (failsOnly_conclude_of_match contract isMatch named).faults
      (congrArg Prod.fst failed)
    rw [Fault.IsIncidental, kind] at incidental
    exact absurd (by decide) incidental

theorem several_of_accept {accepted : Accepted} {candidates : List Json}
    (accepts : accept request = .ok accepted) (items : request.addresses.items = .ok candidates)
    (many : 1 < candidates.length) : accepted.candidates.length ≠ 1 := by
  have same : candidates = accepted.candidates :=
    Except.ok.inj (items.symm.trans (fits_of_accept accepts).items)
  rw [← same]
  omega

/-- Known code of several addresses keeps the resolver out of the verification. -/
theorem verify_of_many {candidates : List Json} (given : request.bytecode.isTruthy = true)
    (items : request.addresses.items = .ok candidates) (many : 1 < candidates.length)
    (resolver : Resolver) :
    verify { verifier with resolver := resolver } request world session
      = verify verifier request world session := by
  unfold verify
  cases accepts : accept request with
  | error fault => rfl
  | ok accepted =>
    have several := several_of_accept accepts items many
    have same : verifyAccepted { verifier with resolver := resolver } request accepted
        = verifyAccepted verifier request accepted := by
      refine verifyAccepted_congr resolver fun logger chain artifact => ?_
      rw [matchCode_of_many given several, matchCode_of_many given several]
    exact congrFun (congrFun same world) session

theorem uncompiled_of_exits (outside : verifier.LeavesTree) (quiet : verifier.IsQuiet)
    (limited : ∀ logger chain address, (verifier.resolver logger chain address).FailsOnly
      Fault.IsIncidental)
    (exits : Exits verifier request world session (.error fault) final)
    (kind : fault.kind = .compilation) :
    final.tree = session.tree ∧ session.Sends (request.contract.Fetches (gatewaysOf world)) final ∧
    ∀ resolver, verify { verifier with resolver := resolver } request world session
      = (.error fault, final) := by
  have early : fault.kind ∈ [FaultKind.validation, .chainNotFound, .compilation] := by
    rw [kind]
    decide
  rcases matched_of_exits outside quiet exits with
    before | ⟨logger, accepted, chain, artifact, _, _, _, _, fails | ⟨_, _, _, _, fails⟩⟩
  · exact before
  -- Neither matching nor storing fails as compiling does.
  · have late := (failsOnly_matchCode (limited logger) chain).faults (congrArg Prod.fst fails)
    exact absurd early late.kind_not_mem
  · have late := (failsOnly_conclude ..).faults (congrArg Prod.fst fails)
    exact absurd early late.kind_not_mem

theorem unmatched_of_verify (outside : verifier.LeavesTree) (quiet : verifier.IsQuiet)
    (run : verify verifier request world session = (.error fault, final))
    (kind : fault.kind = .noMatch) :
    final.tree = session.tree ∧
    ∀ candidates, request.addresses.items = .ok candidates → 1 < candidates.length →
      request.bytecode.isTruthy = true →
      session.Sends (request.contract.Fetches (gatewaysOf world)) final ∧
      ∀ resolver, verify { verifier with resolver := resolver } request world session
        = (.error fault, final) := by
  rcases matched_of_exits outside quiet (exits_of_verify run) with
    ⟨kept, sent, same⟩ | ⟨logger, accepted, chain, artifact, compiled, accepts, kept, sent, ends⟩
  · exact ⟨kept, fun _ _ _ _ => ⟨sent, same⟩⟩
  constructor
  · rcases ends with fails | ⟨_, _, _, finds, fails⟩
    · exact ((keepsTree_matchCode outside ..).tree_eq fails).trans kept
    · rw [tree_of_unmatched kind fails, (keepsTree_matchCode outside ..).tree_eq finds, kept]
  · intro candidates items many given
    refine ⟨?_, fun resolver => (verify_of_many given items many resolver).trans run⟩
    -- Known code of several addresses is refused as soon as it is to be matched.
    have several := several_of_accept accepts items many
    rcases ends with fails | ⟨_, _, _, finds, -⟩
    · rw [matchCode_of_many given several] at fails
      cases fails
      exact sent.trans (.of_same rfl rfl)
    · rw [matchCode_of_many given several] at finds
      cases finds

/-- The effects of a verification are gated by its stages. With the library's own search for creation
data, and with sources and a compiler that fail only as such, a request that is invalid does nothing,
a contract that is not compiled asks for nothing but its sources, code that does not match is not
stored, and what is stored has been compared and has matched. -/
theorem effects_are_gated (session : Session) (own : verifier.resolver = Resolver.own)
    (quiet : verifier.IsQuiet)
    (completes : ∀ logger now fault, (verifier.fetch logger request.contract world now).1
      = .error fault → fault.kind = .compilation)
    (compiles : ∀ logger metadata sources now fault,
      (verifier.recompile logger metadata sources world now).1 = .error fault →
        fault.kind = .compilation) :
    Gated verifier request world session := by
  have limited (logger : Logger) (chain : Chain) (address : String) :
      (verifier.resolver logger chain address).FailsOnly Fault.IsIncidental := by
    rw [own]
    exact (Resolver.failsOnly_own ..).mono fun _ missing =>
      Fault.isIncidental_of_kind .creationDataNotFound missing (by decide)
  have outside : verifier.LeavesTree := by
    refine ⟨quiet.recompile.keepsTree, quiet.fetch.keepsTree, ?_⟩
    rw [own]
    exact fun logger chain address => (Resolver.onlyAsks_own ..).keepsTree
  constructor
  case invalid =>
    intro fault final run kind
    exact invalid_of_exits limited completes compiles (exits_of_verify run) kind
  case uncompiled =>
    intro fault final run kind
    exact uncompiled_of_exits outside quiet limited (exits_of_verify run) kind
  case unmatched =>
    intro fault final run kind
    exact unmatched_of_verify outside quiet run kind
  case dataAtHand =>
    intro given atHand logger accepted chain artifact outcome now after run
    have silent := (sendsOnly_matchCode_of_data given atHand chain artifact).sends_eq run
    exact ⟨silent.requests_eq, silent.rpcCalls⟩
  case stored =>
    intro changed
    rcases tree_of_verify outside request world session with
      kept | ⟨stages, address, _, isMatch, _⟩
    · exact absurd kept changed
    · exact ⟨stages, compares_of_stages stages isMatch⟩

end

/-! ### A run -/

/-- Known code is stored without its chain, so it has been compared, whatever the resolver is. -/
theorem effects_are_gated_of_known_code :
    Sample.verifier.IsQuiet ∧
    Gated { Sample.verifier with resolver := Resolver.own } Sample.request Sample.world
      (Session.fresh []) ∧
    ∃ (stages : Stages { Sample.verifier with resolver := Resolver.own } Sample.request Sample.world
        (Session.fresh [])) (text address : String) (verdict : Verdict),
      Address.checksum text = .ok address ∧ verdict.status ≠ .none ∧
      stages.matched = ⟨some address, verdict.status, verdict.constructorArgs, none⟩ ∧
      Compares stages text address verdict := by
  have quiet : Sample.verifier.IsQuiet :=
    ⟨⟨fun _ _ _ => .pure _, fun _ _ _ => .pure _⟩, Fetcher.isQuiet_own⟩
  have gated : Gated { Sample.verifier with resolver := Resolver.own } Sample.request Sample.world
      (Session.fresh []) :=
    effects_are_gated _ rfl ⟨quiet.recompile, quiet.fetch⟩ (fun _ _ _ failed => by cases failed)
      (fun _ _ _ _ _ failed => by cases failed)
  refine ⟨quiet, gated, gated.stored ?_⟩
  -- The chain is not registered, so the resolver makes no difference.
  have same : verify { Sample.verifier with resolver := Resolver.own } Sample.request Sample.world
      (Session.fresh []) = verify Sample.verifier Sample.request Sample.world (Session.fresh []) := by
    have accepts : accept Sample.request
        = .ok ⟨"1", Sample.request.addresses, [.string Sample.address]⟩ := rfl
    rw [verify, verify, accepts]
    exact verifyAccepted_without_resolver Sample.verifier List.not_mem_nil Resolver.own
  obtain ⟨final, returned, changed⟩ := Sample.stores
  rw [same, returned]
  exact changed

end Verification

end SourceAttest
