import SourceAttest.Proofs.Asking
import SourceAttest.Verification

/-!
# Work that leaves the file tree alone

Only storing a record changes the file tree. Completing and recompiling a contract and matching its
code leave the tree as it is, provided that the functions supplied to the verifier do.
-/
namespace SourceAttest

open SourceAttest.Action

/-! ### Comparing and matching -/

theorem keepsTree_creationDataFor {fetch : Action (Option String)} (keeps : fetch.KeepsTree)
    (known : Option String) : (creationDataFor known fetch).KeepsTree := by
  have fetched : (creationDataFor.fetched fetch).KeepsTree := by
    refine .bind keeps.attempt fun outcome => ?_
    split
    · exact .pure _
    · split
      · exact .pure _
      · exact .fail _
  unfold creationDataFor
  split
  · split
    · exact fetched
    · exact .pure _
  · exact fetched

theorem keepsTree_compareBytecodes (deployed creationData runtime creation : Option String)
    {fetch : Action (Option String)} (keeps : fetch.KeepsTree) :
    (compareBytecodes deployed creationData runtime creation fetch).KeepsTree := by
  unfold compareBytecodes
  split
  · exact .pure _
  · split
    · exact .pure _
    · refine .bind (.ofShape _) fun decided => ?_
      split
      · exact .pure _
      · refine .bind (keepsTree_creationDataFor keeps _) fun data => ?_
        split
        · exact .pure _
        · split
          · exact .pure _
          · exact .ofShape _

theorem keepsTree_compareValues (deployed creationData runtime creation : Json)
    {fetch : Action (Option String)} (keeps : fetch.KeepsTree) :
    (compareValues deployed creationData runtime creation fetch).KeepsTree := by
  refine .bind (.ofShape _) fun deployed => ?_
  split
  · exact .pure _
  · refine .bind (.ofShape _) fun runtime => .bind (.ofShape _) fun creation => ?_
    split
    · exact keepsTree_compareBytecodes _ _ _ _ keeps
    · split
      · exact keepsTree_compareBytecodes _ _ _ _ keeps
      · exact keepsTree_compareBytecodes _ _ _ _ (.fail _)

namespace Matching

theorem keepsTree_deployedCode (logger : Logger) (chain : Chain) (address : String) :
    (deployedCode logger chain address).KeepsTree := by
  -- A node that does not answer leaves the tree alone as well.
  have asked (node : Endpoint) : (Rpc.currentCode node (.string address)).KeepsTree :=
    (Rpc.asksSilently_codeAt ..).onlyAsks.keepsTree
  refine .bind (KeepsTree.bind (.ofShape _) asked).attempt fun outcome => ?_
  split
  · exact .pure _
  · split
    · exact .bind (.report ..) fun _ => .pure _
    · exact .fail _

theorem keepsTree_tryCandidate (logger : Logger) {resolver : Resolver}
    (keeps : ∀ logger chain address, (resolver logger chain address).KeepsTree) (chain : Chain)
    (compiled : Compiled) (address : String) :
    (tryCandidate logger resolver chain compiled address).KeepsTree := by
  refine .bind (.report ..) fun _ => .bind (keepsTree_deployedCode ..) fun deployed =>
    .bind (keepsTree_compareValues _ _ _ _ (keeps ..)).attempt fun outcome => ?_
  split
  · exact .bind (.report ..) fun _ => .pure _
  · split
    · exact .pure _
    · exact .pure _

theorem keepsTree_tryEach (logger : Logger) {resolver : Resolver}
    (keeps : ∀ logger chain address, (resolver logger chain address).KeepsTree) (chain : Chain)
    (compiled : Compiled) (single : Bool) (message : Option String) (candidates : List Json) :
    (tryEach logger resolver chain compiled single message candidates).KeepsTree := by
  induction candidates generalizing message with
  | nil => exact .pure _
  | cons candidate rest ih =>
    refine .bind (.ofExcept _) fun address =>
      .bind (keepsTree_tryCandidate _ keeps ..) fun outcome => ?_
    split
    · exact .pure _
    · exact ih _

end Matching

/-! ### Verifying, up to storing -/

/-- The supplied functions of a verifier leave the file tree alone. -/
structure Verifier.LeavesTree (verifier : Verifier) : Prop where
  recompile : ∀ logger metadata sources, (verifier.recompile logger metadata sources).KeepsTree
  fetch : ∀ logger contract, (verifier.fetch logger contract).KeepsTree
  resolver : ∀ logger chain address, (verifier.resolver logger chain address).KeepsTree

/-- The library's own search for creation data. -/
def Resolver.own : Resolver := fun logger chain address =>
  some <$> CreationData.resolve logger chain (.string address)

theorem Resolver.onlyAsks_own (logger : Logger) (chain : Chain) (address : String) :
    (own logger chain address).OnlyAsks :=
  (CreationData.onlyAsks_resolve ..).map some

theorem Fetcher.onlyAsks_own (logger : Logger) (contract : Contract) : (own logger contract).OnlyAsks :=
  .bind (.ask _) fun _ => Contract.onlyAsks_complete ..

/-- The library's own compiler run and its own searches for sources and creation data do so. -/
theorem Verifier.leavesTree_of_own {verifier : Verifier} {path : Option String}
    (compiles : verifier.recompile = Compiler.recompile path) (fetches : verifier.fetch = Fetcher.own)
    (resolves : verifier.resolver = Resolver.own) : verifier.LeavesTree := by
  constructor
  · rw [compiles]
    exact fun logger metadata sources => (Compiler.onlyAsks_recompile path ..).keepsTree
  · rw [fetches]
    exact fun logger contract => (Fetcher.onlyAsks_own ..).keepsTree
  · rw [resolves]
    exact fun logger chain address => (Resolver.onlyAsks_own ..).keepsTree

namespace Verification

variable {verifier : Verifier} (outside : verifier.LeavesTree) (logger : Logger)

theorem keepsTree_refuse {α : Type} (text : String) (fields : List (String × Json))
    (contract : Contract) (fault : Fault) :
    (refuse logger text fields contract fault : Action α).KeepsTree :=
  .bind (.report ..) fun _ => .fail _

theorem keepsTree_chainOf (request : VerificationRequest) (accepted : Accepted) :
    (chainOf verifier logger request accepted).KeepsTree := by
  unfold chainOf
  split
  · exact .pure _
  · split
    · exact .pure _
    · exact keepsTree_refuse ..

include outside

theorem keepsTree_completed (contract : Contract) :
    (completed verifier logger contract).KeepsTree := by
  unfold completed
  split
  · exact .pure _
  · exact outside.fetch ..

theorem keepsTree_compileOrRefuse (contract : Contract) (accepted : Accepted) :
    (compileOrRefuse verifier logger contract accepted).KeepsTree := by
  have compiles : (compiled verifier logger contract).KeepsTree :=
    .bind (keepsTree_completed outside ..) fun _ => .bind (outside.recompile ..) fun _ => .pure _
  refine .bind compiles.attempt fun outcome => ?_
  split
  · exact .pure _
  · split
    · exact keepsTree_refuse ..
    · exact .fail _

theorem keepsTree_compareKnown (request : VerificationRequest) (accepted : Accepted) (code : Json)
    (artifact : CompiledArtifact) :
    (compareKnown verifier logger request accepted code artifact).KeepsTree := by
  have resolves (address : String) :
      (creationDataOnChain verifier logger accepted.chain address).KeepsTree := by
    unfold creationDataOnChain
    split
    · exact outside.resolver ..
    · exact .fail _
  unfold compareKnown
  split
  · exact .bind (.report ..) fun _ => .fail _
  · exact .bind (.ofShape _) fun _ => .bind (.ofExcept _) fun address =>
      .bind (keepsTree_compareValues _ _ _ _ (resolves address)) fun _ => .pure _

theorem keepsTree_matchCode (request : VerificationRequest) (accepted : Accepted)
    (chain : Option Chain) (artifact : CompiledArtifact) :
    (matchCode verifier logger request accepted chain artifact).KeepsTree := by
  unfold matchCode
  split
  · exact keepsTree_compareKnown outside ..
  · exact Matching.keepsTree_tryEach _ outside.resolver ..
  · exact .pure _

end Verification

end SourceAttest
