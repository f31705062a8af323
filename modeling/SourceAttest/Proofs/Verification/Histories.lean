import SourceAttest.Proofs.Verification.Contents

/-!
# Histories of a repository

A repository is filled by one verification after the other, of which some return and others fail. Every
file in it was stored by one of them, and a record holds nothing but files that were stored in it. The
main result is `record_of_history`, which says what the record of a result holds after each call.
-/
namespace SourceAttest

open SourceAttest.Action SourceAttest.Tree

/-! ### Closed trees -/

/-- Whatever comes of an action, what was inside a directory before is inside one afterwards. -/
structure Action.KeepsClosed {α : Type} (action : Action α) : Prop where
  closed : ∀ world session, session.tree.IsClosed → (action world session).2.tree.IsClosed

namespace Action.KeepsClosed

variable {α β : Type}

theorem of_keepsTree {action : Action α} (keeps : action.KeepsTree) : action.KeepsClosed :=
  ⟨fun world session closed => (keeps.same world session).symm ▸ closed⟩

theorem bind {action : Action α} {next : α → Action β} (first : action.KeepsClosed)
    (second : ∀ value, (next value).KeepsClosed) : (action >>= next).KeepsClosed := by
  constructor
  intro world session closed
  have middle := first.closed world session closed
  cases run : action world session with
  | mk outcome last =>
    rw [run] at middle
    cases outcome with
    | error fault => rwa [bind_of_error run]
    | ok value =>
      rw [bind_of_ok run]
      exact (second value).closed world last middle

theorem pure (value : α) : (Pure.pure value : Action α).KeepsClosed := .of_keepsTree (.pure value)

theorem write (store : Store) (path : Path) (artifact : Artifact) :
    (onTree (store.write path artifact)).KeepsClosed := by
  constructor
  intro world session closed
  rw [tree_of_onTree]
  exact Store.closed_of_write store path artifact closed

theorem deletePartial (store : Store) (chain : String) {address : String}
    (segment : IsSegment address) : (onTree (store.deletePartial chain address)).KeepsClosed := by
  constructor
  intro world session closed
  rw [tree_of_onTree]
  exact (store.clears_of_deletePartial chain address session.tree
    (store.resolved_recordDirectory_ne_nil chain segment)).closed closed

end Action.KeepsClosed

namespace Verification

theorem keepsClosed_saveSources (store : Store) (quality : Quality) (chain address : String)
    (sources : List (String × Json)) :
    (saveSources store quality chain address sources).KeepsClosed := by
  induction sources with
  | nil => exact .pure _
  | cons source rest ih => exact .bind (.write ..) fun _ => ih

theorem keepsClosed_saveDocument (store : Store) (logger : Logger) (chain : String) {address : String}
    (segment : IsSegment address) (status : MatchStatus) (artifact : CompiledArtifact) :
    (saveDocument store logger chain address status artifact).KeepsClosed := by
  refine .bind (.of_keepsTree (.ofShape _)) fun document => ?_
  cases document with
  | none => exact .of_keepsTree (.bind (.report ..) fun _ => .pure _)
  | some hash =>
    exact .bind (.write ..) fun _ => .bind (.deletePartial store chain segment) fun _ => .pure _

theorem keepsClosed_storeRecord (store : Store) (logger : Logger) (chain : String) {address : String}
    (segment : IsSegment address) (contract : Contract) (artifact : CompiledArtifact)
    (verdict : Verdict) :
    (storeRecord store logger chain address contract artifact verdict).KeepsClosed := by
  refine .bind (keepsClosed_saveDocument store logger chain segment _ _) fun status =>
    .bind (keepsClosed_saveSources ..) fun _ => .bind (.write ..) fun _ => ?_
  cases verdict.constructorArgs with
  | none => exact .pure _
  | some args =>
    dsimp only
    split
    · exact .bind (.write ..) fun _ => .pure _
    · exact .pure _

theorem closed_of_verify {verifier : Verifier} (outside : verifier.LeavesTree)
    (request : VerificationRequest) (world : World) {session : Session}
    (closed : session.tree.IsClosed) : (verify verifier request world session).2.tree.IsClosed := by
  rcases tree_of_verify outside request world session with
    kept | ⟨stages, address, isMatch, _, stored⟩
  · rwa [kept]
  · obtain ⟨-, segment⟩ :=
      checksum_of_matchCode (fits_of_accept stages.accepts) stages.finds isMatch
    rw [stored]
    apply (keepsClosed_storeRecord _ _ _ segment _ _ _).closed
    rwa [stages.tree_found outside]

/-! ### Calls one after the other -/

/-- A call of a verifier. What is remembered besides the tree may be anything. -/
structure Call where
  verifier : Verifier
  request : VerificationRequest
  world : World
  session : Session

namespace Call

def run (call : Call) : Except Fault MatchResult × Session :=
  verify call.verifier call.request call.world call.session

/-- What is supplied to the verifier leaves the tree alone and completes contracts, the chain is an
ordinary name, and no source leaves its record. -/
structure IsOrdinary (call : Call) : Prop where
  outside : call.verifier.LeavesTree
  fetches : call.verifier.fetch.Completes
  segment : ∀ chain, call.request.chain = .string chain → IsSegment chain
  inside : ∀ path ∈ call.request.contract.paths, Store.StaysInside (sanitizePath path)

/-- The call has stored a value at a place, for the record of a contract that it matched. It has left
the text there, or an empty file if it has failed because the text has no encoding. -/
def Stored (call : Call) (quality : Quality) (chain address : String) (place : Place)
    (content : List UInt8) : Prop :=
  ∃ (stages : Stages call.verifier call.request call.world call.session) (value : Json),
    stages.accepted.chain = chain ∧ stages.matched.address = some address ∧
    stages.matched.status ≠ .none ∧
    recordedQuality stages.artifact stages.matched.status = quality ∧
    Deposits call.verifier.store chain address stages.contract stages.artifact
      ⟨stages.matched.status, stages.matched.constructorArgs⟩ place value ∧
    Leaves (EndsUnencoded call.run.1) value content

end Call

/-- Calls that worked on one repository, oldest first, and the tree that they left. It had no files in
the beginning. -/
inductive History (store : Store) : List Call → Tree → Prop where
  | start {tree : Tree} (closed : tree.IsClosed)
      (empty : ∀ place, isInside store.rootPlace place = true → tree.file? place = none) :
      History store [] tree
  | next {calls : List Call} {tree : Tree} {call : Call} (earlier : History store calls tree)
      (here : call.verifier.store = store) (ordinary : call.IsOrdinary)
      (starts : call.session.tree = tree) :
      History store (calls ++ [call]) call.run.2.tree

variable {store : Store} {calls : List Call} {tree : Tree} {call : Call}

theorem History.closed (history : History store calls tree) : tree.IsClosed := by
  induction history with
  | start closed empty => exact closed
  | next earlier here ordinary starts ih =>
    exact closed_of_verify ordinary.outside _ _ (starts ▸ ih)

/-- One call keeps a file, or has stored it. -/
theorem stored_of_call (ordinary : call.IsOrdinary) {place : Place} {content : List UInt8}
    (held : call.run.2.tree.file? place = some content) :
    call.session.tree.file? place = some content ∨
      ∃ quality chain address, call.Stored quality chain address place content := by
  rcases revises_of_verify ordinary.outside call.request call.world call.session with
    kept | ⟨stages, address, isMatch, found, -, revises⟩
  · left
    rwa [Call.run, kept] at held
  · rcases revises.each place with same | ⟨-, gone⟩ | ⟨value, left, deposits, leaves, holds⟩
    · left
      rwa [Call.run, same] at held
    · rw [Call.run, gone] at held
      cases held
    · rw [Call.run, holds] at held
      cases held
      exact .inr ⟨_, _, address, stages, value, rfl, isMatch, found, rfl, deposits, leaves⟩

/-- Every file of a repository was stored by one of the calls. -/
theorem History.stored (history : History store calls tree) {place : Place} {content : List UInt8}
    (inside : isInside store.rootPlace place = true) (held : tree.file? place = some content) :
    ∃ call ∈ calls, call.verifier.store = store ∧ call.IsOrdinary ∧
      ∃ quality chain address, call.Stored quality chain address place content := by
  induction history with
  | start closed empty =>
    rw [empty place inside] at held
    cases held
  | @next calls tree call earlier here ordinary starts ih =>
    rcases stored_of_call ordinary held with before | stored
    · obtain ⟨older, listed, rest⟩ := ih (starts ▸ before)
      exact ⟨older, List.mem_append_left _ listed, rest⟩
    · exact ⟨call, by simp, here, ordinary, stored⟩

/-- What is stored in a record was stored for it. -/
theorem record_of_stored {quality other : Quality} {chain chain' address address' : String}
    {place : Place} {content : List UInt8} (ordinary : call.IsOrdinary)
    (stored : call.Stored other chain' address' place content)
    (inside : isInside (call.verifier.store.recordPlace quality chain address) place = true) :
    call.Stored quality chain address place content := by
  obtain ⟨stages, value, named, isMatch, found, isQuality, deposits, leaves⟩ := stored
  have fits := fits_of_accept stages.accepts
  have segments : IsSegment chain' ∧ IsSegment address' :=
    ⟨named ▸ ordinary.segment _ fits.chain, (checksum_of_matchCode fits stages.finds isMatch).2⟩
  have sources := stages.sourcesStayInside ordinary.fetches ordinary.inside
  rcases inside_of_deposits segments sources deposits with ⟨hash, isDocument⟩ | inside'
  · rw [isDocument, Store.documentPlace_outside] at inside
    cases inside
  · rw [isQuality] at inside'
    obtain ⟨rfl, rfl, rfl⟩ := call.verifier.store.record_unique inside inside'
    exact ⟨stages, value, named, isMatch, found, isQuality, deposits, leaves⟩

/-- After each call that returns, the record of the result holds the artifacts of that call. Everything
else in it was stored there by an earlier call and is as it was before. A partial record holds nothing
else if the document has been published. -/
theorem record_of_history {before : Tree} {result : MatchResult} {final : Session}
    (history : History store calls before) (here : call.verifier.store = store)
    (ordinary : call.IsOrdinary) (starts : call.session.tree = before)
    (returned : call.run = (.ok result, final)) :
    ∃ (stages : Stages call.verifier call.request call.world call.session) (chain address : String)
      (quality : Quality),
      call.request.chain = .string chain ∧ result.address = some address ∧
      Quality.ofStatus? result.status = some quality ∧
      Renewed store quality chain address stages.contract stages.artifact result.constructorArgs
        before final.tree ∧
      ∀ place content, isInside (store.recordPlace quality chain address) place = true →
        before.file? place = some content →
        ∃ earlier ∈ calls, earlier.Stored quality chain address place content := by
  obtain ⟨stages, concluded⟩ := verify_eq_ok returned
  obtain ⟨address, status, middle, agrees, matched, rfl, kept, stored⟩ := conclude_eq_ok concluded
  have fits := fits_of_accept stages.accepts
  have segments : IsSegment stages.accepted.chain ∧ IsSegment address :=
    ⟨ordinary.segment _ fits.chain, (checksum_of_matchCode fits stages.finds matched).2⟩
  have sources := stages.sourcesStayInside ordinary.fetches ordinary.inside
  -- The tree before storing is the one before the call.
  have before' : stages.found.tree = before := (stages.tree_found ordinary.outside).trans starts
  have renewed := renewed_of_storeRecord segments sources (before' ▸ history.closed)
    (isAmong_of_matchCode fits stages.finds).args stored
  have recorded := recorded_of_storeRecord segments sources agrees
    (isAmong_of_matchCode fits stages.finds).args stored
  rw [before', ← kept, here] at renewed
  refine ⟨stages, _, address, _, fits.chain, matched, recorded.status, renewed, ?_⟩
  intro place content inside held
  obtain ⟨earlier, listed, same, ordinary', _, _, _, stored⟩ :=
    history.stored (store.inside_root_of_record inside) held
  exact ⟨earlier, listed, record_of_stored ordinary' stored (same ▸ inside)⟩

namespace Sample

/-- A contract that was verified under another name of its source. -/
def renamed : Table String Json := [("b.sol", .string "contract A")]

def callFor (sources : Table String Json) (tree : Tree) : Call :=
  ⟨verifier, requestFor sources, world, Session.fresh tree⟩

/-- The repository after a first verification. -/
def firstTree : Tree :=
  [(["repo"], .directory), (["repo", "swarm"], .directory), (["repo", "swarm", "bzzr0"], .directory),
    (["repo", "swarm", "bzzr0", "01"], .file "metadata".toUTF8.toList),
    (["repo", "contracts"], .directory), (["repo", "contracts", "full_match"], .directory),
    (["repo", "contracts", "full_match", "1"], .directory), (recordOf .full, .directory),
    (recordOf .full ++ ["sources"], .directory),
    (sourceOf .full, .file "contract A".toUTF8.toList),
    (documentOf .full, .file "metadata".toUTF8.toList)]

theorem isOrdinary_callFor {sources : Table String Json}
    (inside : ∀ path ∈ sources.keys, Store.StaysInside (sanitizePath path)) (tree : Tree) :
    (callFor sources tree).IsOrdinary := by
  refine ⟨leavesTree, Fetcher.completes_own, ?_, ?_⟩
  · intro chain named
    cases named
    decide
  · intro path listed
    exact inside path (by simpa [callFor, requestFor, request, Contract.paths, Table.keys] using listed)

theorem isOrdinary_first : (callFor request.contract.sources []).IsOrdinary :=
  isOrdinary_callFor (by decide +kernel) []

theorem stored_first : (storing request.contract.sources []).2.tree = firstTree := by
  simp only [storing, storeRecord, saveDocument, published, requestFor, request, saveSources,
    Store.save, Store.saveAt]
  unfold Store.write Store.deletePartial
  simp only [Path.hasNul_eq]
  decide +kernel

theorem stored_again :
    (storing renamed firstTree).1.toOption = some .exact ∧
      (storing renamed firstTree).2.tree.file? (sourceOf .full)
        = some "contract A".toUTF8.toList := by
  simp only [storing, storeRecord, saveDocument, published, requestFor, request, renamed,
    saveSources, Store.save, Store.saveAt]
  unfold Store.write Store.deletePartial
  simp only [Path.hasNul_eq]
  decide +kernel

theorem history_first : History verifier.store [callFor request.contract.sources []] firstTree := by
  have closed : Tree.IsClosed [] := Tree.isClosed_of_keys nofun
  have empty (place : Place) : Tree.file? [] place = none := by
    rw [Tree.file?, Tree.node?]
    split_ifs
    · rfl
    · rfl
  obtain ⟨final, returned, tree⟩ := verify_of_stored stored_known.1
  have left : (callFor request.contract.sources []).run.2.tree = firstTree := by
    rw [← stored_first, ← tree]
    exact congrArg (fun run => run.2.tree) returned
  rw [← left]
  exact .next (.start closed fun place _ => empty place) rfl isOrdinary_first rfl

end Sample

/-- The second call of a history keeps the source of the first one, which it does not have. -/
theorem record_of_history_second_call :
    History Sample.verifier.store [Sample.callFor Sample.request.contract.sources []]
      Sample.firstTree ∧
    (Sample.callFor Sample.renamed Sample.firstTree).IsOrdinary ∧
    ∃ final, (Sample.callFor Sample.renamed Sample.firstTree).run = (.ok Sample.result, final) ∧
      ∃ (stages : Stages Sample.verifier (Sample.requestFor Sample.renamed) Sample.world
          (Session.fresh Sample.firstTree)) (chain address : String) (quality : Quality),
        (Sample.requestFor Sample.renamed).chain = .string chain ∧
        Sample.result.address = some address ∧
        Quality.ofStatus? Sample.result.status = some quality ∧
        Renewed Sample.verifier.store quality chain address stages.contract stages.artifact
          Sample.result.constructorArgs Sample.firstTree final.tree ∧
        ∀ place content,
          isInside (Sample.verifier.store.recordPlace quality chain address) place = true →
          Sample.firstTree.file? place = some content →
          ∃ earlier ∈ [Sample.callFor Sample.request.contract.sources []],
            earlier.Stored quality chain address place content := by
  obtain ⟨final, returned, -⟩ := Sample.verify_of_stored Sample.stored_again.1
  have ordinary : (Sample.callFor Sample.renamed Sample.firstTree).IsOrdinary :=
    Sample.isOrdinary_callFor (by decide +kernel) _
  exact ⟨Sample.history_first, ordinary, final, returned,
    record_of_history Sample.history_first rfl ordinary rfl returned⟩

/-- A source of the first of two calls is still in the full record after the second one, which does not
have it. -/
theorem earlier_source_survives :
    ∃ first second,
      verify Sample.verifier Sample.request Sample.world (Session.fresh [])
        = (.ok Sample.result, first) ∧
      verify Sample.verifier (Sample.requestFor Sample.renamed) Sample.world
        (Session.fresh first.tree) = (.ok Sample.result, second) ∧
      Sample.result.status = .exact ∧
      isInside (Sample.verifier.store.recordPlace .full "1" Sample.address)
        (Sample.sourceOf .full) = true ∧
      second.tree.file? (Sample.sourceOf .full) = some "contract A".toUTF8.toList ∧
      ¬ IsArtifact Sample.verifier.store .full "1" Sample.address
        (Sample.requestFor Sample.renamed).contract Sample.result.constructorArgs
        (Sample.sourceOf .full) := by
  obtain ⟨first, returned, tree⟩ := Sample.verify_of_stored Sample.stored_known.1
  rw [Sample.stored_first] at tree
  obtain ⟨stored, survives⟩ := Sample.stored_again
  obtain ⟨second, returned', tree'⟩ := Sample.verify_of_stored stored
  rw [← tree'] at survives
  refine ⟨first, second, returned, tree ▸ returned', rfl, by decide, survives, fun isArtifact => ?_⟩
  -- None of the artifacts of the second call has the place of the source.
  generalize place : Sample.sourceOf .full = artifact at isArtifact
  cases isArtifact with
  | metadata => exact absurd place (by decide)
  | arguments given => cases given
  | source listed =>
    rw [List.mem_singleton.mp listed] at place
    exact absurd place (by decide +kernel)

end Verification

end SourceAttest
