import SourceAttest.Proofs.Address
import SourceAttest.Proofs.Contract.Fetch
import SourceAttest.Proofs.Verification.ReadOnly
import SourceAttest.Proofs.Verification.Storing

/-!
# Verifications that succeed

A verification that returns has gone through all stages: the request was accepted, the contract was
recompiled, its code was matched, and the match was stored. The main result is
`recorded_of_verify`: the record is where the status says, under one of the addresses of the request.
One that fails has gone as far as storing, or has left the tree alone (`tree_of_verify`).
-/
namespace SourceAttest

open SourceAttest.Action

namespace Verification

end Verification

/-- What a fetcher returns is the contract with all its sources. -/
def Fetcher.Completes (fetch : Fetcher) : Prop :=
  ∀ {logger contract completed world session final},
    fetch logger contract world session = (.ok completed, final) → completed.Completes contract

theorem Fetcher.completes_own : own.Completes := by
  intro logger contract completed world session final returned
  obtain ⟨_, _, _, completing⟩ := bind_eq_ok.mp returned
  exact Contract.completes_of_complete completing

namespace Verification

section

variable {verifier : Verifier} {logger : Logger} {request : VerificationRequest}
  {accepted : Accepted} {world : World} {session final : Session}

theorem completes_of_completed {contract fetched : Contract} (fetches : verifier.fetch.Completes)
    (returned : completed verifier logger contract world session = (.ok fetched, final)) :
    fetched.Completes contract := by
  unfold completed at returned
  split at returned
  next complete =>
    obtain ⟨rfl, rfl⟩ := pure_eq_ok.mp returned
    exact Contract.completes_self complete
  · exact fetches returned

theorem refuse_ne_ok {α : Type} {text : String} {fields : List (String × Json)}
    {contract : Contract} {fault : Fault} {value : α} :
    refuse logger text fields contract fault world session ≠ (.ok value, final) := by
  intro returned
  obtain ⟨_, _, _, returned⟩ := bind_eq_ok.mp returned
  exact fail_ne_ok returned

/-- A contract that has been compiled has been completed and then given to the compiler. -/
theorem compileOrRefuse_eq_ok {contract fetched : Contract} {artifact : CompiledArtifact}
    (returned : compileOrRefuse verifier logger contract accepted world session
      = (.ok (fetched, artifact), final)) :
    ∃ middle, completed verifier logger contract world session = (.ok fetched, middle) ∧
      verifier.recompile logger fetched.metadata (.object fetched.sources) world middle
        = (.ok artifact, final) := by
  obtain ⟨outcome, _, attempted, returned⟩ := bind_eq_ok.mp returned
  cases outcome with
  | error fault =>
    dsimp only at returned
    split at returned
    · exact absurd returned refuse_ne_ok
    · exact absurd returned fail_ne_ok
  | ok result =>
    obtain ⟨rfl, rfl⟩ := pure_eq_ok.mp returned
    obtain ⟨_, middle, completes, returned⟩ := bind_eq_ok.mp (attempt_eq_ok.mp attempted)
    obtain ⟨_, _, compiles, returned⟩ := bind_eq_ok.mp returned
    obtain ⟨same, rfl⟩ := pure_eq_ok.mp returned
    cases same
    exact ⟨middle, completes, compiles⟩

theorem completes_of_compileOrRefuse {contract fetched : Contract} {artifact : CompiledArtifact}
    (fetches : verifier.fetch.Completes)
    (returned : compileOrRefuse verifier logger contract accepted world session
      = (.ok (fetched, artifact), final)) : fetched.Completes contract := by
  obtain ⟨_, fetching, _⟩ := compileOrRefuse_eq_ok returned
  exact completes_of_completed fetches fetching

/-- The address of a match is a checksummed candidate, and so an ordinary name of a path. -/
theorem checksum_of_matchCode {chain : Option Chain} {artifact : CompiledArtifact}
    {matched : MatchResult} {address : String} (fits : accepted.Fits request)
    (returned : matchCode verifier logger request accepted chain artifact world session
      = (.ok matched, final)) (named : matched.address = some address) :
    (∃ text, .string text ∈ accepted.candidates ∧ Address.checksum text = .ok address) ∧
      IsSegment address := by
  obtain ⟨candidate, member, checked⟩ := (isAmong_of_matchCode fits returned).address address named
  obtain ⟨text, rfl⟩ := fits.texts candidate member
  exact ⟨⟨text, member, checked⟩, Address.isSegment_of_checksum checked⟩

theorem chain_of_fits {chain : String} (fits : accepted.Fits request)
    (named : request.chain = .string chain) : accepted.chain = chain := by
  have given := fits.chain
  rw [named] at given
  exact (Json.string.inj given).symm

def loggerOf (verifier : Verifier) (number : Nat) : Logger :=
  { verifier.logger with verification := some number }

/-- The session of a verification that has got its number. -/
def begun (session : Session) : Session :=
  { session with verifications := session.verifications + 1 }

/-- The logger of the verification that starts in a session. -/
def nextLogger (verifier : Verifier) (session : Session) : Logger :=
  loggerOf verifier (session.verifications + 1)

theorem nextVerification_run (world : World) (session : Session) :
    nextVerification world session = (.ok (session.verifications + 1), begun session) := rfl

/-- The stages of a verification up to storing, each one with the session that it leaves. -/
structure Stages (verifier : Verifier) (request : VerificationRequest) (world : World)
    (session : Session) where
  accepted : Accepted
  number : Nat
  chain : Option Chain
  contract : Contract
  artifact : CompiledArtifact
  matched : MatchResult
  begun : Session
  resolved : Session
  compiled : Session
  found : Session
  accepts : accept request = .ok accepted
  begins : nextVerification world session = (.ok number, begun)
  resolves : chainOf verifier (loggerOf verifier number) request accepted world begun
    = (.ok chain, resolved)
  compiles : compileOrRefuse verifier (loggerOf verifier number) request.contract accepted
    world resolved = (.ok (contract, artifact), compiled)
  finds : matchCode verifier (loggerOf verifier number) request accepted chain artifact
    world compiled = (.ok matched, found)

namespace Stages

variable (stages : Stages verifier request world session)

/-- Nothing is stored before there is a match. -/
theorem tree_found (outside : verifier.LeavesTree) : stages.found.tree = session.tree := by
  -- Each stage before storing keeps the tree.
  have begun := KeepsTree.nextVerification.tree_eq stages.begins
  have resolved := (keepsTree_chainOf ..).tree_eq stages.resolves
  have compiled := (keepsTree_compileOrRefuse outside ..).tree_eq stages.compiles
  have found := (keepsTree_matchCode outside ..).tree_eq stages.finds
  rw [found, compiled, resolved, begun]

/-- Where the sources of a contract go is settled by its paths, before any source has been fetched. -/
theorem sourcesStayInside (fetches : verifier.fetch.Completes)
    (inside : ∀ path ∈ request.contract.paths, Store.StaysInside (sanitizePath path)) :
    ∀ path ∈ stages.contract.sources.keys, Store.StaysInside (sanitizePath path) := by
  intro path atHand
  exact inside path ((completes_of_compileOrRefuse fetches stages.compiles).paths path atHand)

end Stages

theorem noMatch_ne_ok {contract : Contract} {matched result : MatchResult} :
    conclude.noMatch logger accepted contract matched world session ≠ (.ok result, final) := by
  intro returned
  obtain ⟨_, _, _, returned⟩ := bind_eq_ok.mp returned
  exact fail_ne_ok returned

theorem storeOrRefuse_eq_ok {address : String} {contract : Contract} {artifact : CompiledArtifact}
    {verdict : Verdict} {status : MatchStatus}
    (returned : storeOrRefuse verifier logger accepted address contract artifact verdict
      world session = (.ok status, final)) :
    storeRecord verifier.store logger accepted.chain address contract artifact verdict
      world session = (.ok status, final) := by
  obtain ⟨outcome, _, attempted, returned⟩ := bind_eq_ok.mp returned
  cases outcome with
  | error fault =>
    dsimp only at returned
    split at returned
    · exact absurd returned refuse_ne_ok
    · exact absurd returned fail_ne_ok
  | ok stored =>
    obtain ⟨rfl, rfl⟩ := pure_eq_ok.mp returned
    exact attempt_eq_ok.mp attempted

/-- A match is stored only if there is one, and the result is the match with the recorded status. -/
theorem conclude_eq_ok {contract : Contract} {artifact : CompiledArtifact}
    {matched result : MatchResult}
    (returned : conclude verifier logger accepted contract artifact matched world session
      = (.ok result, final)) :
    ∃ address status middle, matched.status ≠ .none ∧ matched.address = some address ∧
      result = { matched with status := status } ∧ final.tree = middle.tree ∧
      storeRecord verifier.store logger accepted.chain address contract artifact
        ⟨matched.status, matched.constructorArgs⟩ world session = (.ok status, middle) := by
  obtain ⟨address, status, args, message⟩ := matched
  cases address with
  | none =>
    cases status with
    | _ => exact absurd returned noMatch_ne_ok
  | some address =>
    cases status with
    | none => exact absurd returned noMatch_ne_ok
    -- Both kinds of match go on in the same way.
    | _ =>
      obtain ⟨recorded, middle, stored, returned⟩ := bind_eq_ok.mp returned
      obtain ⟨_, _, informed, returned⟩ := bind_eq_ok.mp returned
      obtain ⟨rfl, rfl⟩ := pure_eq_ok.mp returned
      exact ⟨address, recorded, middle, nofun, rfl, rfl, (KeepsTree.report ..).tree_eq informed,
        storeOrRefuse_eq_ok stored⟩

/-! ### Exits -/

/-- The ways in which a verification ends: at one of the stages before a match, or after all of them. -/
inductive Exits (verifier : Verifier) (request : VerificationRequest) (world : World)
    (session : Session) : Except Fault MatchResult → Session → Prop
  | refused {fault : Fault} (refuses : accept request = .error fault) :
      Exits verifier request world session (.error fault) session
  | unsupported {accepted : Accepted} {fault : Fault} {final : Session}
      (accepts : accept request = .ok accepted)
      (fails : chainOf verifier (nextLogger verifier session) request accepted world (begun session)
        = (.error fault, final)) :
      Exits verifier request world session (.error fault) final
  | uncompiled {accepted : Accepted} {chain : Option Chain} {resolved : Session} {fault : Fault}
      {final : Session} (accepts : accept request = .ok accepted)
      (resolves : chainOf verifier (nextLogger verifier session) request accepted world
        (begun session) = (.ok chain, resolved))
      (fails : compileOrRefuse verifier (nextLogger verifier session) request.contract accepted world
        resolved = (.error fault, final)) :
      Exits verifier request world session (.error fault) final
  | unmatched {accepted : Accepted} {chain : Option Chain} {resolved compiled : Session}
      {contract : Contract} {artifact : CompiledArtifact} {fault : Fault} {final : Session}
      (accepts : accept request = .ok accepted)
      (resolves : chainOf verifier (nextLogger verifier session) request accepted world
        (begun session) = (.ok chain, resolved))
      (compiles : compileOrRefuse verifier (nextLogger verifier session) request.contract accepted
        world resolved = (.ok (contract, artifact), compiled))
      (fails : matchCode verifier (nextLogger verifier session) request accepted chain artifact world
        compiled = (.error fault, final)) :
      Exits verifier request world session (.error fault) final
  | concluded (stages : Stages verifier request world session) {outcome : Except Fault MatchResult}
      {final : Session}
      (concludes : conclude verifier (loggerOf verifier stages.number) stages.accepted stages.contract
        stages.artifact stages.matched world stages.found = (outcome, final)) :
      Exits verifier request world session outcome final

/-- Every verification ends in one of these ways. -/
theorem exits_of_verify {outcome : Except Fault MatchResult}
    (run : verify verifier request world session = (outcome, final)) :
    Exits verifier request world session outcome final := by
  unfold verify at run
  cases accepts : accept request with
  | error fault =>
    rw [accepts] at run
    cases run
    exact .refused accepts
  | ok accepted =>
    rw [accepts] at run
    replace run := (bind_of_ok (nextVerification_run world session)).symm.trans run
    -- Each stage fails, or hands over to the next one.
    rcases bind_cases run with ⟨fault, rfl, fails⟩ | ⟨chain, resolved, resolves, run⟩
    · exact .unsupported accepts fails
    rcases bind_cases run with ⟨fault, rfl, fails⟩ | ⟨⟨contract, artifact⟩, compiled, compiles, run⟩
    · exact .uncompiled accepts resolves fails
    rcases bind_cases run with ⟨fault, rfl, fails⟩ | ⟨matched, found, finds, run⟩
    · exact .unmatched accepts resolves compiles fails
    exact .concluded ⟨accepted, _, chain, contract, artifact, matched, _, resolved, compiled, found,
      accepts, nextVerification_run world session, resolves, compiles, finds⟩ run

/-- A verification that returns has gone through all stages, and then stored the match. -/
theorem verify_eq_ok {result : MatchResult}
    (returned : verify verifier request world session = (.ok result, final)) :
    ∃ stages : Stages verifier request world session,
      conclude verifier (loggerOf verifier stages.number) stages.accepted stages.contract stages.artifact stages.matched
        world stages.found = (.ok result, final) := by
  cases exits_of_verify returned with
  | concluded stages concludes => exact ⟨stages, concludes⟩

/-- Behind the other stages, a verification ends as it concludes. -/
theorem verify_of_stages (stages : Stages verifier request world session)
    {outcome : Except Fault MatchResult}
    (concludes : conclude verifier (loggerOf verifier stages.number) stages.accepted stages.contract
      stages.artifact stages.matched world stages.found = (outcome, final)) :
    verify verifier request world session = (outcome, final) := by
  rw [verify, stages.accepts]
  exact (bind_of_ok stages.begins).trans <| (bind_of_ok stages.resolves).trans <|
    (bind_of_ok stages.compiles).trans <| (bind_of_ok stages.finds).trans concludes

/-! ### What is stored -/

/-- Concluding stores a match, if there is one, and does nothing else to the tree. -/
theorem tree_of_conclude (contract : Contract) (artifact : CompiledArtifact) (matched : MatchResult) :
    (conclude verifier logger accepted contract artifact matched world session).2.tree
      = session.tree ∨
    ∃ address, matched.address = some address ∧ matched.status ≠ .none ∧
      (conclude verifier logger accepted contract artifact matched world session).2.tree
        = (storeRecord verifier.store logger accepted.chain address contract artifact
          ⟨matched.status, matched.constructorArgs⟩ world session).2.tree := by
  have noMatch : (conclude.noMatch logger accepted contract matched).KeepsTree :=
    .bind (.report ..) fun _ => .fail _
  have stores (address : String) (verdict : Verdict) :
      (storeOrRefuse verifier logger accepted address contract artifact verdict world session).2.tree
        = (storeRecord verifier.store logger accepted.chain address contract artifact verdict
          world session).2.tree := by
    refine KeepsTree.tree_of_bind _ fun outcome => ?_
    cases outcome with
    | ok status => exact .pure _
    | error fault =>
      dsimp only
      split
      · exact keepsTree_refuse ..
      · exact .fail _
  -- Nothing is stored unless there is an address and its verdict is a match.
  obtain ⟨address, status, args, message⟩ := matched
  cases address with
  | none =>
    left
    cases status with
    | _ => exact noMatch.same world session
  | some address =>
    cases status with
    | none => exact .inl (noMatch.same world session)
    | _ =>
      refine .inr ⟨address, rfl, nofun, ?_⟩
      rw [← stores]
      exact KeepsTree.tree_of_bind _ fun _ => .bind (.report ..) fun _ => .pure _

/-- Whatever comes of a verification, the tree changes only by storing a match. -/
theorem tree_of_verify (outside : verifier.LeavesTree) (request : VerificationRequest)
    (world : World) (session : Session) :
    (verify verifier request world session).2.tree = session.tree ∨
    ∃ (stages : Stages verifier request world session) (address : String),
      stages.matched.address = some address ∧ stages.matched.status ≠ .none ∧
      (verify verifier request world session).2.tree
        = (storeRecord verifier.store (loggerOf verifier stages.number) stages.accepted.chain address
          stages.contract stages.artifact ⟨stages.matched.status, stages.matched.constructorArgs⟩
          world stages.found).2.tree := by
  cases run : verify verifier request world session with
  | mk outcome final =>
    -- Each stage before storing leaves the tree as it was.
    cases exits_of_verify run with
    | refused => exact .inl rfl
    | unsupported accepts fails =>
      have refused := (keepsTree_chainOf ..).tree_eq fails
      exact .inl refused
    | uncompiled accepts resolves fails =>
      have resolved := (keepsTree_chainOf ..).tree_eq resolves
      exact .inl (((keepsTree_compileOrRefuse outside ..).tree_eq fails).trans resolved)
    | unmatched accepts resolves compiles fails =>
      have resolved := (keepsTree_chainOf ..).tree_eq resolves
      have compiled := ((keepsTree_compileOrRefuse outside ..).tree_eq compiles).trans resolved
      exact .inl (((keepsTree_matchCode outside ..).tree_eq fails).trans compiled)
    | concluded stages concludes =>
      rcases tree_of_conclude stages.contract stages.artifact stages.matched with
        kept | ⟨address, isMatch, found, stored⟩
      · rw [concludes] at kept
        exact .inl (kept.trans (stages.tree_found outside))
      · rw [concludes] at stored
        exact .inr ⟨stages, address, isMatch, found, stored⟩

/-- A successful verification is stored where its verdict says. Whatever the repository held before,
the result names an address of the request in its checksummed form, and the record of that address
is kept under the quality of the status, as `Recorded` says. Nothing else in the repository has
changed but the document under its content hash. -/
theorem recorded_of_verify {chain : String} {result : MatchResult} (outside : verifier.LeavesTree)
    (fetches : verifier.fetch.Completes) (named : request.chain = .string chain) (segment : IsSegment chain)
    (inside : ∀ path ∈ request.contract.paths, Store.StaysInside (sanitizePath path))
    (returned : verify verifier request world session = (.ok result, final)) :
    ∃ (stages : Stages verifier request world session) (address : String) (quality : Quality),
      result.address = some address ∧
      (∃ candidates text, request.addresses.items = .ok candidates ∧ .string text ∈ candidates ∧
        Address.checksum text = .ok address) ∧
      Recorded verifier.store chain address stages.artifact stages.matched.status result quality
        session.tree final.tree := by
  obtain ⟨stages, returned⟩ := verify_eq_ok returned
  obtain ⟨address, status, middle, agrees, matched, rfl, kept, stored⟩ := conclude_eq_ok returned
  have fits := fits_of_accept stages.accepts
  -- The match is about a candidate, whose checksummed form names the record.
  obtain ⟨⟨text, member, checked⟩, segment'⟩ := checksum_of_matchCode fits stages.finds matched
  have notEmpty := (isAmong_of_matchCode fits stages.finds).args
  have sources := stages.sourcesStayInside fetches inside
  rw [chain_of_fits fits named] at stored
  -- The tree before storing is the one before the verification.
  have recorded := recorded_of_storeRecord ⟨segment, segment'⟩ sources agrees notEmpty stored
  rw [stages.tree_found outside, ← kept] at recorded
  exact ⟨stages, address, _, matched, ⟨_, text, fits.items, member, checked⟩, recorded⟩

end

/-! ### A run -/

namespace Sample

/-- An address without letters, which is its own checksummed form. -/
def address : String := "0x0000000000000000000000000000000000000000"

/-- A code whose trailer publishes a hash of one byte. -/
def code : String := "0x6001a165627a7a723041010009"

def artifact : CompiledArtifact := ⟨.string code, .string "0x", .string "metadata"⟩

def verifier : Verifier :=
  ⟨[], ⟨⟨.top, ["repo"]⟩, []⟩, fun _ _ _ => pure artifact, .own, fun _ _ _ => pure none,
    .ofPart "verifier"⟩

def request : VerificationRequest :=
  ⟨.string "1", .array [.string address],
    ⟨.string "A", "a.sol", .null, [("a.sol", .string "contract A")], []⟩, .string code, .null⟩

def world : World := ⟨fun _ _ => .failed "offline", [], fun _ => .notFound, []⟩

def result : MatchResult := ⟨some address, .exact, none, none⟩

theorem checksum_address : Address.checksum address = .ok address := by
  have low : (Address.unmarked address.toList).map Char.toLower = List.replicate 40 '0' := by decide
  -- All digits are decimal, so the hash does not matter.
  have kept : Address.checksumDigits (List.replicate 40 '0') = List.replicate 40 '0' := by
    refine Address.checksumDigits_of_decimal ?_ (by decide)
    intro c member
    rw [List.eq_of_mem_replicate member]
    rfl
  rw [Address.checksum, if_neg (by decide)]
  simp only [low, kept, List.length_replicate, if_true]
  rfl

/-- The request with other sources. -/
def requestFor (sources : Table String Json) : VerificationRequest :=
  { request with contract := { request.contract with sources := sources } }

theorem matchCode_eq (logger : Logger) (sources : Table String Json) (session : Session) :
    matchCode verifier logger (requestFor sources) ⟨"1", request.addresses, [.string address]⟩ none
      artifact world session = (.ok result, session) := by
  apply bind_eq_ok.mpr
  refine ⟨.string address, session, rfl, bind_eq_ok.mpr ⟨address, session, ?_, ?_⟩⟩
  · exact ofExcept_eq_ok.mpr ⟨checksum_address, rfl⟩
  · refine bind_eq_ok.mpr ⟨⟨.exact, none⟩, session, ?_, rfl⟩
    rfl

/-- The known code matches, whatever the sources are, and then they are stored. -/
theorem verify_run (sources : Table String Json) (tree : Tree) :
    verify verifier (requestFor sources) world (Session.fresh tree)
      = conclude verifier (loggerOf verifier 1) ⟨"1", request.addresses, [.string address]⟩
          (requestFor sources).contract artifact result world
          { Session.fresh tree with verifications := 1 } := by
  let begun : Session := { Session.fresh tree with verifications := 1 }
  have accepts : accept (requestFor sources) = .ok ⟨"1", request.addresses, [.string address]⟩ := rfl
  have begins : nextVerification world (Session.fresh tree) = (.ok 1, begun) := rfl
  have known : chainOf verifier (loggerOf verifier 1) (requestFor sources)
      ⟨"1", request.addresses, [.string address]⟩ world begun = (.ok none, begun) := rfl
  have compiles : compileOrRefuse verifier (loggerOf verifier 1) (requestFor sources).contract
      ⟨"1", request.addresses, [.string address]⟩ world begun
    = (.ok ((requestFor sources).contract, artifact), begun) := rfl
  rw [verify, accepts]
  exact (bind_of_ok begins).trans <| (bind_of_ok known).trans <| (bind_of_ok compiles).trans <|
    bind_of_ok (matchCode_eq _ sources begun)

theorem published : ContentHash.ofValue? artifact.runtime = .ok (some (.bzzr0 [1])) := by
  with_unfolding_all rfl

/-- The whole run of storing, when the verification of some sources comes to it. -/
def storing (sources : Table String Json) (tree : Tree) : Except Fault MatchStatus × Session :=
  storeRecord verifier.store (loggerOf verifier 1) "1" address (requestFor sources).contract artifact
    ⟨.exact, none⟩ world { Session.fresh tree with verifications := 1 }

theorem verify_of_stored {sources : Table String Json} {tree : Tree}
    (stored : (storing sources tree).1.toOption = some .exact) :
    ∃ final, verify verifier (requestFor sources) world (Session.fresh tree) = (.ok result, final) ∧
      final.tree = (storing sources tree).2.tree := by
  have run : storing sources tree = (.ok .exact, _) := eq_ok_of_toOption stored
  rw [verify_run]
  refine ⟨_, bind_eq_ok.mpr ⟨.exact, _, ?_, rfl⟩, rfl⟩
  exact bind_eq_ok.mpr ⟨.ok .exact, _, attempt_eq_ok.mpr run, rfl⟩

theorem stored_known :
    (storing request.contract.sources []).1.toOption = some .exact ∧
      (storing request.contract.sources []).2.tree.file?
          (verifier.store.recordPlace .full "1" address ++ ["metadata.json"])
        = some "metadata".toUTF8.toList := by
  -- The published hash is known, and the rest is computed.
  simp only [storing, storeRecord, saveDocument, published, requestFor, request, saveSources,
    Store.save, Store.saveAt]
  unfold Store.write Store.deletePartial
  simp only [Path.hasNul_eq]
  decide +kernel

theorem verify_eq : ∃ final, verify verifier request world (Session.fresh []) = (.ok result, final) := by
  obtain ⟨final, returned, -⟩ := verify_of_stored stored_known.1
  exact ⟨final, returned⟩

theorem leavesTree : verifier.LeavesTree :=
  ⟨fun _ _ _ => .pure _, fun _ _ => (Fetcher.onlyAsks_own ..).keepsTree, fun _ _ _ => .pure _⟩

theorem staysInside : ∀ path ∈ request.contract.paths, Store.StaysInside (sanitizePath path) := by
  intro path member
  have only : path = "a.sol" := by
    simpa [request, Contract.paths, Table.keys] using member
  rw [only]
  decide +kernel

end Sample

/-- Known code of an address is stored as a full record, its document under its content hash. -/
theorem recorded_of_verify_known_code :
    ∃ final, verify Sample.verifier Sample.request Sample.world (Session.fresh [])
        = (.ok Sample.result, final) ∧
      ∃ (stages : Stages Sample.verifier Sample.request Sample.world (Session.fresh []))
        (address : String) (quality : Quality),
        Sample.result.address = some address ∧
        (∃ candidates text, Sample.request.addresses.items = .ok candidates ∧
          .string text ∈ candidates ∧ Address.checksum text = .ok address) ∧
        Recorded Sample.verifier.store "1" address stages.artifact stages.matched.status
          Sample.result quality [] final.tree ∧
        final.tree.node? (Sample.verifier.store.recordPlace .partly "1" address) = none := by
  obtain ⟨final, returned⟩ := Sample.verify_eq
  obtain ⟨stages, address, quality, found, listed, recorded⟩ :=
    recorded_of_verify Sample.leavesTree Fetcher.completes_own rfl (by decide) Sample.staysInside
      returned
  have closed : Tree.IsClosed [] := Tree.isClosed_of_keys nofun
  -- The root is at the top, so the way to it leads through no record.
  have bypasses : Sample.verifier.store.Bypasses
      (Sample.verifier.store.recordPlace .partly "1" address) :=
    Sample.verifier.store.bypasses_of_plain (by decide)
  exact ⟨final, returned, stages, address, quality, found, listed, recorded,
    recorded.replaced rfl closed bypasses⟩

end Verification

end SourceAttest
