import SourceAttest.Proofs.Verification.VerifyingAgain

/-!
# Verifications of different contracts

Two verifications that are about different contracts follow plans for different records, and neither
sees the repository before it stores its match. The main result is `verify_commutes`: if they return one
after the other, they return the same in the other order, and leave the same records.
-/
namespace SourceAttest.Verification

open SourceAttest.Action

/-- Verifications of different contracts commute. Where the network and what the verifier is supplied
with answer by what they are asked alone, and two requests have no pair of a chain and an address in common,
their verifications return the same results in either order, and come to the same in all that is
kept under `contracts`. -/
theorem verify_commutes {verifier : Verifier} {request request' : VerificationRequest} {world : World}
    {session middle final : Session} {chain chain' : String} {result result' : MatchResult}
    (outside : verifier.LeavesTree) (fetches : verifier.fetch.Completes)
    (steady : world.network.IsSteady) (fixed : verifier.IsFixed world)
    (closed : session.tree.IsClosed)
    (named : request.chain = .string chain) (segment : IsSegment chain)
    (inside : ∀ path ∈ request.contract.paths, Store.StaysInside (sanitizePath path))
    (named' : request'.chain = .string chain') (segment' : IsSegment chain')
    (inside' : ∀ path ∈ request'.contract.paths, Store.StaysInside (sanitizePath path))
    (apart : ∀ chain address,
      ¬ (IsCandidate request chain address ∧ IsCandidate request' chain address))
    (returned : verify verifier request world session = (.ok result, middle))
    (returned' : verify verifier request' world middle = (.ok result', final)) :
    ∃ middle' final', verify verifier request' world session = (.ok result', middle') ∧
      verify verifier request world middle' = (.ok result, final') ∧
      ∀ place, verifier.store.rootPlace ++ ["contracts"] <+: place →
        final'.tree.node? place = final.tree.node? place := by
  obtain ⟨_, plan, sound, candidate, followed, returns⟩ :=
    plan_of_verify outside fetches steady fixed named segment inside returned
  obtain ⟨_, plan', sound', candidate', followed', returns'⟩ :=
    plan_of_verify outside fetches steady fixed named' segment' inside' returned'
  have different : plan.Apart plan' := by
    rintro ⟨chains, addresses⟩
    rw [← chains, ← addresses] at candidate'
    exact apart _ _ ⟨candidate, candidate'⟩
  -- The plans can be followed in the other order, and then so can the verifications.
  obtain ⟨_, _, first, second, same⟩ := Plan.commute different sound sound' closed followed followed'
  obtain ⟨middle', verified', rfl⟩ := returns' _ (.inl rfl) session _ first
  obtain ⟨final', verified, rfl⟩ := returns _ (.inl rfl) middle' _ second
  exact ⟨middle', final', verified', verified, same⟩

namespace Sample

/-- The same contract on some chain. -/
def requestOn (chain : String) : VerificationRequest := { request with chain := .string chain }

/-- What is to be stored of it. -/
def planOn (chain : String) : Plan :=
  planOf verifier.store chain address request.contract artifact ⟨.exact, none⟩ (some (.bzzr0 [1]))

def storingOn (chain : String) (tree : Tree) : Except Fault MatchStatus × Session :=
  storeRecord verifier.store (loggerOf verifier 1) chain address request.contract artifact
    ⟨.exact, none⟩ world (Session.fresh tree)

theorem storesOn {chain : String} {tree : Tree}
    (stored : (storingOn chain tree).1.toOption = some .exact) :
    (planOn chain).Stores verifier.store tree (storingOn chain tree).2.tree := by
  have run : storingOn chain tree = (.ok .exact, _) := eq_ok_of_toOption stored
  obtain ⟨document, read, -, stores⟩ := stores_of_storeRecord run
  obtain rfl := Except.ok.inj (read.symm.trans published)
  exact stores

/-- The known code matches on every chain, and then the plan is followed. -/
theorem verify_on {chain : String} (named : chain ≠ "") {session : Session} {after : Tree}
    (stores : (planOn chain).Stores verifier.store session.tree after) :
    ∃ last, verify verifier (requestOn chain) world session = (.ok result, last) ∧
      last.tree = after := by
  let stages : Stages verifier (requestOn chain) world session :=
    { accepted := ⟨chain, request.addresses, [.string address]⟩
      number := session.verifications + 1
      chain := none
      contract := request.contract
      artifact := artifact
      matched := result
      begun := begun session
      resolved := begun session
      compiled := begun session
      found := begun session
      accepts := if_neg named
      begins := rfl
      resolves := rfl
      compiles := rfl
      finds := bind_eq_ok.mpr ⟨.string address, _, rfl, bind_eq_ok.mpr ⟨address, _,
        ofExcept_eq_ok.mpr ⟨checksum_address, rfl⟩, bind_eq_ok.mpr ⟨⟨.exact, none⟩, _, rfl, rfl⟩⟩⟩ }
  have stores' : (planOn chain).Stores verifier.store stages.found.tree after := stores
  have status : recordedStatus artifact.runtime .exact = .exact := by
    rw [recordedStatus, published]
  obtain ⟨middle, stored, kept⟩ :=
    storeRecord_of_stores (loggerOf verifier stages.number) world published stores'
  rw [status] at stored
  have stored' : storeRecord verifier.store (loggerOf verifier stages.number) stages.accepted.chain
      address stages.contract stages.artifact ⟨stages.matched.status, stages.matched.constructorArgs⟩
      world stages.found = (.ok .exact, middle) := stored
  have agrees : result.status ≠ .none := by decide
  obtain ⟨last, concludes, kept'⟩ := conclude_of_stored agrees rfl stored'
  exact ⟨last, verify_of_stages stages concludes, kept'.trans kept⟩

theorem stored_on_two_chains :
    (storingOn "1" []).1.toOption = some .exact ∧
      (storingOn "2" (storingOn "1" []).2.tree).1.toOption = some .exact := by
  simp only [storingOn, storeRecord, saveDocument, published, request, saveSources, Store.save,
    Store.saveAt]
  unfold Store.write Store.deletePartial
  simp only [Path.hasNul_eq]
  decide +kernel

end Sample

/-- One contract is verified on two chains. -/
theorem verify_commutes_on_two_chains :
    ∃ middle final, verify Sample.verifier (Sample.requestOn "1") Sample.world (Session.fresh [])
        = (.ok Sample.result, middle) ∧
      verify Sample.verifier (Sample.requestOn "2") Sample.world middle
        = (.ok Sample.result, final) ∧
      ∃ middle' final', verify Sample.verifier (Sample.requestOn "2") Sample.world (Session.fresh [])
          = (.ok Sample.result, middle') ∧
        verify Sample.verifier (Sample.requestOn "1") Sample.world middle'
          = (.ok Sample.result, final') ∧
        ∀ place, Sample.verifier.store.rootPlace ++ ["contracts"] <+: place →
          final'.tree.node? place = final.tree.node? place := by
  obtain ⟨stored, stored'⟩ := Sample.stored_on_two_chains
  have first : (Sample.planOn "1").Stores Sample.verifier.store (Session.fresh []).tree
      (Sample.storingOn "1" []).2.tree := Sample.storesOn stored
  obtain ⟨middle, returned, tree⟩ := Sample.verify_on (by decide) first
  rw [← tree] at stored'
  obtain ⟨final, returned', -⟩ := Sample.verify_on (by decide) (Sample.storesOn stored')
  have steady : Sample.world.network.IsSteady := ⟨fun _ _ _ => rfl, fun _ _ _ _ _ _ _ => rfl⟩
  have fixed : Sample.verifier.IsFixed Sample.world :=
    ⟨fun _ _ _ _ => .pure _, Fetcher.own_accords steady, fun _ _ _ _ => .pure _⟩
  have apart (chain address : String) : ¬ (IsCandidate (Sample.requestOn "1") chain address ∧
      IsCandidate (Sample.requestOn "2") chain address) := by
    rintro ⟨⟨one, -⟩, ⟨other, -⟩⟩
    exact absurd (Json.string.inj (one.trans other.symm)) (by decide)
  exact ⟨middle, final, returned, returned', verify_commutes Sample.leavesTree
    Fetcher.completes_own steady fixed
    (Tree.isClosed_of_keys nofun) rfl (by decide) Sample.staysInside rfl (by decide)
    Sample.staysInside apart returned returned'⟩

end SourceAttest.Verification
