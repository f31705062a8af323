import SourceAttest.Proofs.Json.Shape
import SourceAttest.Proofs.Verification.Success

/-!
# Chains that are not registered

A chain is asked for only where it is used. Without known code a verification on a chain that is not
registered is refused at once. Known code is compared all the same, as if there were no creation data
to be found. The main result is `verify_of_unregistered`.
-/
namespace SourceAttest

open SourceAttest.Action

theorem ChainRegistry.find?_of_unregistered {registry : ChainRegistry} {name : String}
    (unregistered : .string name ∉ registry.ids) : registry.find? (.string name) = .ok none := by
  have none : List.find? (fun entry => entry.1.equals (.string name)) registry = none := by
    rw [List.find?_eq_none]
    intro entry member same
    exact unregistered (Json.equals_string_iff.mp same ▸ List.mem_map_of_mem member)
  rw [ChainRegistry.find?, none]
  · rfl
  · exact nofun
  · exact nofun

namespace Verification

section

variable {verifier : Verifier} {logger : Logger} {request : VerificationRequest}
  {accepted : Accepted} {world : World} {session : Session}

theorem knownCode?_of_missing (unknown : request.bytecode.isTruthy = false) :
    knownCode? request = none := by
  rw [knownCode?, unknown]
  rfl

theorem bytecode_of_knownCode? {code : Json} (known : knownCode? request = some code) :
    request.bytecode.isTruthy = true ∧ code = request.bytecode := by
  unfold knownCode? at known
  split at known
  next given =>
    cases known
    exact ⟨given, rfl⟩
  · cases known

/-- A request that is refused for its form is refused as such, if its addresses can be listed. -/
theorem kind_of_accept {fault : Fault}
    (listed : request.addresses.isTruthy → ∃ candidates, request.addresses.items = .ok candidates)
    (refused : accept request = .error fault) : fault.kind = .validation := by
  unfold accept at refused
  split at refused
  · cases refused
    rfl
  next given =>
    obtain ⟨candidates, items⟩ := listed (by simpa using given)
    rw [items] at refused
    dsimp only at refused
    split at refused
    · cases refused
      rfl
    split at refused
    · cases refused
      rfl
    split at refused
    · split at refused
      · cases refused
        rfl
      · cases refused
    · cases refused
      rfl

theorem matchCode_of_known (verifier : Verifier) (logger : Logger) (accepted : Accepted)
    (chain : Option Chain) (artifact : CompiledArtifact) {code : Json}
    (known : knownCode? request = some code) :
    matchCode verifier logger request accepted chain artifact
      = compareKnown verifier logger request accepted code artifact := by
  simp only [matchCode, known]

/-- The resolver matters only to matching. -/
theorem verifyAccepted_congr (resolver : Resolver)
    (same : ∀ logger chain artifact,
      matchCode { verifier with resolver := resolver } logger request accepted chain artifact
        = matchCode verifier logger request accepted chain artifact) :
    verifyAccepted { verifier with resolver := resolver } request accepted
      = verifyAccepted verifier request accepted := by
  refine bind_congr fun number => bind_congr fun chain => bind_congr fun completed => ?_
  obtain ⟨contract, artifact⟩ := completed
  dsimp only
  rw [same]
  rfl

section Unregistered

variable (verifier) (unregistered : .string accepted.chain ∉ verifier.chains.ids)

include unregistered

theorem chainOf_of_unregistered (logger : Logger) (unknown : knownCode? request = none) :
    chainOf verifier logger request accepted
      = refuse logger "Unsupported chain" (subject accepted) request.contract
          (.chainNotFound (.string accepted.chain)) := by
  rw [chainOf, unknown, ChainRegistry.chain, ChainRegistry.find?_of_unregistered unregistered]
  rfl

theorem creationDataOnChain_of_unregistered (logger : Logger) (address : String) :
    creationDataOnChain verifier logger accepted.chain address
      = fail (.creationChainNotFound (.string accepted.chain)) := by
  rw [creationDataOnChain, ChainRegistry.find?_of_unregistered unregistered]

theorem verifyAccepted_of_unknown (unknown : knownCode? request = none) (world : World)
    (session : Session) :
    ∃ final, verifyAccepted verifier request accepted world session
        = (.error (.ofContract request.contract.name (.chainNotFound (.string accepted.chain))),
          final) ∧
      final.tree = session.tree := by
  have begins : nextVerification world session = (.ok (session.verifications + 1), _) := rfl
  rw [verifyAccepted, bind_of_ok begins,
    chainOf_of_unregistered verifier unregistered _ unknown]
  exact ⟨_, bind_of_error rfl, rfl⟩

theorem compareKnown_without_resolver (logger : Logger) (resolver : Resolver) (code : Json)
    (artifact : CompiledArtifact) :
    compareKnown { verifier with resolver := resolver } logger request accepted code artifact
      = compareKnown verifier logger request accepted code artifact := by
  -- Either way the creation data cannot be found.
  have missing := creationDataOnChain_of_unregistered verifier unregistered logger
  have missing' := creationDataOnChain_of_unregistered { verifier with resolver := resolver }
    unregistered logger
  simp only [compareKnown, missing, missing']

theorem verifyAccepted_without_resolver (resolver : Resolver) :
    verifyAccepted { verifier with resolver := resolver } request accepted world session
      = verifyAccepted verifier request accepted world session := by
  cases known : knownCode? request with
  | none =>
    -- Both runs end where the chain is asked for.
    have begins : nextVerification world session = (.ok (session.verifications + 1), _) := rfl
    have refused (resolver : Resolver) (logger : Logger) :
        chainOf { verifier with resolver := resolver } logger request accepted
          = refuse logger "Unsupported chain" (subject accepted) request.contract
              (.chainNotFound (.string accepted.chain)) :=
      chainOf_of_unregistered { verifier with resolver := resolver } unregistered logger known
    have own := refused verifier.resolver
    rw [verifyAccepted, verifyAccepted, bind_of_ok begins, bind_of_ok begins, refused resolver,
      own, bind_of_error rfl, bind_of_error rfl]
  | some code =>
    have same : verifyAccepted { verifier with resolver := resolver } request accepted
        = verifyAccepted verifier request accepted := by
      refine verifyAccepted_congr resolver fun logger chain artifact => ?_
      rw [matchCode_of_known _ _ _ _ _ known, matchCode_of_known _ _ _ _ _ known,
        compareKnown_without_resolver verifier unregistered]
    rw [same]

end Unregistered

/-- Known code is compared once, as if no creation data were to be found. -/
theorem compares_of_finds (unregistered : .string accepted.chain ∉ verifier.chains.ids)
    {chain : Option Chain} {artifact : CompiledArtifact} {code : Json} {matched : MatchResult}
    {final : Session} (known : knownCode? request = some code)
    (finds : matchCode verifier logger request accepted chain artifact world session
      = (.ok matched, final)) :
    ∃ verdict : Verdict, matched.status = verdict.status ∧
      compareValues code request.creationData artifact.runtime artifact.creation
        (fail (.creationChainNotFound (.string accepted.chain))) world session
        = (.ok verdict, final) := by
  rw [matchCode_of_known _ _ _ _ _ known] at finds
  obtain ⟨_, _, verdict, _, _, _, compared, rfl⟩ := compareKnown_eq_ok finds
  rw [creationDataOnChain_of_unregistered verifier unregistered] at compared
  exact ⟨verdict, rfl, compared⟩

/-- A chain that is not registered. Without known code the verification fails as an invalid request,
if the addresses can be listed at all, and nothing is stored. Whatever the request brings along, the
resolver is not asked for anything; and the repository changes only if known code matches although
there are no creation data to be found. -/
theorem verify_of_unregistered {verifier : Verifier} (request : VerificationRequest) {name : String}
    (named : request.chain = .string name) (unregistered : .string name ∉ verifier.chains.ids)
    (world : World) (session : Session) :
    (request.bytecode.isTruthy = false → ∃ fault final,
      verify verifier request world session = (.error fault, final) ∧ final.tree = session.tree ∧
      ((request.addresses.isTruthy → ∃ candidates, request.addresses.items = .ok candidates) →
        fault.kind = .validation ∨ fault.kind = .chainNotFound)) ∧
    (∀ resolver, verify { verifier with resolver := resolver } request world session
      = verify verifier request world session) ∧
    (verifier.LeavesTree → (verify verifier request world session).2.tree ≠ session.tree →
      ∃ (stages : Stages verifier request world session) (verdict : Verdict),
        request.bytecode.isTruthy = true ∧ verdict.status ≠ .none ∧
        compareValues request.bytecode request.creationData stages.artifact.runtime
          stages.artifact.creation (fail (.creationChainNotFound (.string name))) world
          stages.compiled = (.ok verdict, stages.found)) := by
  have missing {accepted : Accepted} (accepts : accept request = .ok accepted) :
      .string accepted.chain ∉ verifier.chains.ids := by
    rw [chain_of_fits (fits_of_accept accepts) named]
    exact unregistered
  refine ⟨fun unknown => ?_, fun resolver => ?_, fun outside changed => ?_⟩
  · unfold verify
    cases accepts : accept request with
    | error fault =>
      exact ⟨fault, session, rfl, rfl, fun listed => .inl (kind_of_accept listed accepts)⟩
    | ok accepted =>
      obtain ⟨final, run, kept⟩ := verifyAccepted_of_unknown verifier (missing accepts)
        (knownCode?_of_missing unknown) world session
      exact ⟨_, final, run, kept, fun _ => .inr rfl⟩
  · unfold verify
    cases accepts : accept request with
    | error fault => rfl
    | ok accepted => exact verifyAccepted_without_resolver verifier (missing accepts) resolver
  · -- What has been stored has been matched, and without its chain only known code gets so far.
    rcases tree_of_verify outside request world session with
      kept | ⟨stages, address, isMatch, found, stored⟩
    · exact absurd kept changed
    · have absent := missing stages.accepts
      cases known : knownCode? request with
      | none =>
        have resolves := stages.resolves
        rw [chainOf_of_unregistered verifier absent _ known] at resolves
        exact absurd resolves refuse_ne_ok
      | some code =>
        obtain ⟨given, rfl⟩ := bytecode_of_knownCode? known
        obtain ⟨verdict, same, compared⟩ := compares_of_finds absent known stages.finds
        rw [chain_of_fits (fits_of_accept stages.accepts) named] at compared
        exact ⟨stages, verdict, given, same ▸ found, compared⟩

end

theorem Sample.stores : ∃ final, verify Sample.verifier Sample.request Sample.world
    (Session.fresh []) = (.ok Sample.result, final) ∧ final.tree ≠ (Session.fresh []).tree := by
  obtain ⟨final, returned, tree⟩ := Sample.verify_of_stored Sample.stored_known.1
  refine ⟨final, returned, ?_⟩
  intro same
  have held := Sample.stored_known.2
  rw [← tree, same] at held
  cases held

/-- The request with the same candidate twice. -/
def Sample.crowded : VerificationRequest :=
  { request with addresses := .array [.string address, .string address] }

/-- Known code of an address is stored although its chain is not registered. Known code for several
candidates is refused, but for their number and not for the chain. -/
theorem stored_without_chain :
    .string "1" ∉ Sample.verifier.chains.ids ∧ Sample.request.chain = .string "1" ∧
    Sample.crowded.chain = .string "1" ∧
    (∃ final, verify Sample.verifier Sample.request Sample.world (Session.fresh [])
        = (.ok Sample.result, final) ∧ final.tree ≠ (Session.fresh []).tree) ∧
    ∃ fault final, verify Sample.verifier Sample.crowded Sample.world (Session.fresh [])
        = (.error fault, final) ∧ fault.kind = .noMatch :=
  ⟨List.not_mem_nil, rfl, rfl, Sample.stores, _, _, rfl, rfl⟩

/-- On a chain that is not registered, a request without code is refused, and one with code is stored
for the code alone. -/
theorem verify_of_unregistered_both :
    (∃ fault final,
      verify Sample.verifier { Sample.request with bytecode := .null } Sample.world
        (Session.fresh []) = (.error fault, final) ∧
      final.tree = (Session.fresh []).tree ∧
      (fault.kind = .validation ∨ fault.kind = .chainNotFound)) ∧
    ∃ (stages : Stages Sample.verifier Sample.request Sample.world (Session.fresh []))
      (verdict : Verdict),
      Sample.request.bytecode.isTruthy = true ∧ verdict.status ≠ .none ∧
      compareValues Sample.request.bytecode Sample.request.creationData stages.artifact.runtime
        stages.artifact.creation (fail (.creationChainNotFound (.string "1"))) Sample.world
        stages.compiled = (.ok verdict, stages.found) := by
  have absent : Json.string "1" ∉ Sample.verifier.chains.ids := List.not_mem_nil
  constructor
  · obtain ⟨fault, final, refused, kept, kind⟩ :=
      (verify_of_unregistered { Sample.request with bytecode := .null } rfl absent Sample.world
        (Session.fresh [])).1 rfl
    exact ⟨fault, final, refused, kept, kind fun _ => ⟨_, rfl⟩⟩
  · obtain ⟨final, returned, different⟩ := Sample.stores
    have changed : (verify Sample.verifier Sample.request Sample.world (Session.fresh [])).2.tree
        ≠ (Session.fresh []).tree := by
      rw [returned]
      exact different
    exact (verify_of_unregistered Sample.request rfl absent Sample.world (Session.fresh [])).2.2
      Sample.leavesTree changed

end Verification

end SourceAttest
