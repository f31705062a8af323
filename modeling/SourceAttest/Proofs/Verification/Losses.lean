import SourceAttest.Proofs.Repository.SourceNames
import SourceAttest.Proofs.Verification.Success

/-!
# What a verification can lose

Nothing is undone when storing fails, so a file may be lost or replaced on the way. The main result
is `files_of_verify`: a file that was there before is lost only with the partial record of a match
whose document has been written, and it is replaced only by what the match stores in its place. A text
without an encoding ends the verification, and leaves an empty file there.
-/
namespace SourceAttest

/-- A run has failed at a text that has no encoding. -/
def EndsUnencoded {α : Type} (outcome : Except Fault α) : Prop :=
  ∃ fault, outcome = .error fault ∧ fault.kind = .encoding

theorem EndsUnencoded.of_error {α β : Type} {fault : Fault}
    (ends : EndsUnencoded (.error fault : Except Fault α)) :
    EndsUnencoded (.error fault : Except Fault β) := by
  obtain ⟨_, ⟨⟩, kind⟩ := ends
  exact ⟨fault, rfl, kind⟩

theorem not_endsUnencoded {α : Type} (value : α) : ¬ EndsUnencoded (.ok value) := by
  rintro ⟨_, ⟨⟩, -⟩

/-- What a value leaves in the file that it is written to: its text, or nothing if the text has no
encoding, at which the run has ended. -/
inductive Leaves (ended : Prop) : Json → List UInt8 → Prop
  | text (text : String) : Leaves ended (.string text) text.toUTF8.toList
  | nothing (unencoded : ended) (text : UnpairedText) : Leaves ended (.unpaired text) []

theorem Leaves.mono {ended other : Prop} {value : Json} {content : List UInt8}
    (leaves : Leaves ended value content) (also : ended → other) : Leaves other value content := by
  cases leaves with
  | text text => exact .text text
  | nothing unencoded text => exact .nothing (also unencoded) text

/-- Each file is as before, or was dropped, or has what a value has left that is written in its place. -/
structure Tree.Revises (writes : Place → Json → Prop) (drops : Place → Prop) (ended : Prop)
    (before after : Tree) : Prop where
  each : ∀ place, after.file? place = before.file? place ∨
    (drops place ∧ after.file? place = none) ∨
    ∃ value content, writes place value ∧ Leaves ended value content ∧
      after.file? place = some content

namespace Tree.Revises

variable {writes : Place → Json → Prop} {drops : Place → Prop} {ended other : Prop}
  {before middle after : Tree}

theorem refl (tree : Tree) : Revises writes drops ended tree tree := ⟨fun _ => .inl rfl⟩

theorem mono (revises : Revises writes drops ended before after) (also : ended → other) :
    Revises writes drops other before after := by
  constructor
  intro place
  rcases revises.each place with same | dropped | ⟨value, content, written, leaves, holds⟩
  · exact .inl same
  · exact .inr (.inl dropped)
  · exact .inr (.inr ⟨value, content, written, leaves.mono also, holds⟩)

theorem trans (first : Revises writes drops ended before middle)
    (second : Revises writes drops ended middle after) :
    Revises writes drops ended before after := by
  constructor
  intro place
  rcases second.each place with same | changed
  · -- What the first step left at a place is still there.
    rw [same]
    exact first.each place
  · exact .inr changed

/-- A write replaces one file or none, whether it returns or fails. -/
theorem of_write {store : Store} {path : Path} {value : Json} (tree : Tree)
    (permitted : writes (path.resolved store.here) value) :
    Revises writes drops (EndsUnencoded (store.write path (.value value) tree).1) tree
      (store.write path (.value value) tree).2 := by
  constructor
  intro place
  by_cases here : place = path.resolved store.here
  · subst here
    cases run : store.write path (.value value) tree with
    | mk outcome after =>
      cases outcome with
      | ok result =>
        obtain ⟨text, rfl, holds⟩ := Store.holdsText_of_write run
        exact .inr (.inr ⟨_, _, permitted, .text text, holds⟩)
      | error fault =>
        rcases Store.cases_of_failed_write run with ⟨-, grows⟩ | ⟨text, isText, rfl, writes⟩
        · exact .inl (grows.file?_eq _)
        · cases isText
          exact .inr (.inr ⟨_, _, permitted, .nothing ⟨_, rfl, rfl⟩ text, writes.file?_self⟩)
  · exact .inl (store.file?_of_write path (.value value) tree here)

end Tree.Revises

namespace Action

variable {α β : Type} {writes : Place → Json → Prop} {drops : Place → Prop}
  {world : World} {session : Session}

variable (writes drops world session) in
/-- A run of an action has revised the tree, whether it has returned or failed. -/
def Revises (action : Action α) : Prop :=
  Tree.Revises writes drops (EndsUnencoded (action world session).1) session.tree
    (action world session).2.tree

/-- A run that revises the tree, and then another one from where the first has returned. -/
theorem revises_bind {action : Action α} {next : α → Action β}
    (first : action.Revises writes drops world session)
    (second : ∀ value middle, action world session = (.ok value, middle) →
      (next value).Revises writes drops world middle) :
    (action >>= next).Revises writes drops world session := by
  unfold Revises at first ⊢
  cases run : action world session with
  | mk outcome middle =>
    rw [run] at first
    cases outcome with
    | error fault =>
      rw [bind_of_error run]
      exact first.mono .of_error
    | ok value =>
      rw [bind_of_ok run]
      exact (first.mono fun ends => absurd ends (not_endsUnencoded value)).trans
        (second value middle run)

theorem revises_of_keepsTree {action : Action α} (keeps : action.KeepsTree) :
    action.Revises writes drops world session := by
  rw [Revises, keeps.same]
  exact .refl _

theorem revises_write {store : Store} {path : Path} {value : Json}
    (permitted : writes (path.resolved store.here) value) :
    (onTree (store.write path (.value value))).Revises writes drops world session :=
  Tree.Revises.of_write session.tree permitted

end Action

namespace Verification

open SourceAttest.Action SourceAttest.Tree

/-- The status under which a match is recorded: without a published document it is partial. -/
def recordedStatus (runtime : Json) (matched : MatchStatus) : MatchStatus :=
  match ContentHash.ofValue? runtime with
  | .ok (some _) => matched
  | _ => .partly

section

variable (store : Store) (chain address : String) (contract : Contract) (artifact : CompiledArtifact)

/-- The quality under which a match is recorded. -/
def recordedQuality (artifact : CompiledArtifact) (matched : MatchStatus) : Quality :=
  qualityOf (recordedStatus artifact.runtime matched)

/-- What storing a match writes, and where. -/
inductive Deposits (verdict : Verdict) : Place → Json → Prop
  | document {hash : ContentHash} (published : ContentHash.ofValue? artifact.runtime = .ok (some hash)) :
      Deposits verdict (store.documentPlace hash) artifact.metadata
  | source {path : String} {content : Json} (listed : (path, content) ∈ contract.sources) :
      Deposits verdict
        (store.sourcePlace (recordedQuality artifact verdict.status) chain address path) content
  | metadata :
      Deposits verdict
        (store.filePlace (recordedQuality artifact verdict.status) chain address "metadata.json")
        artifact.metadata
  | arguments {args : String} (given : verdict.constructorArgs = some args) (notEmpty : args ≠ "") :
      Deposits verdict
        (store.filePlace (recordedQuality artifact verdict.status) chain address
          "constructor-args.txt") (.string args)

/-- The places that storing a match may empty: those inside the partial record, and only once the
document has been written. -/
def Discards (before : Tree) (place : Place) : Prop :=
  isInside ((Store.recordDirectory store.root .partly chain address).resolved store.here) place = true ∧
    ∃ hash path, ContentHash.ofValue? artifact.runtime = .ok (some hash) ∧
      (store.saveAt hash.path (.value artifact.metadata) before).1 = .ok path

end

section

variable {store : Store} {logger : Logger} {chain address : String} {contract : Contract}
  {artifact : CompiledArtifact} {verdict : Verdict} {world : World} {session : Session}

theorem revises_saveSources {writes : Place → Json → Prop} {drops : Place → Prop} (quality : Quality)
    {sources : List (String × Json)}
    (permitted : ∀ path content, (path, content) ∈ sources →
      writes (store.sourcePlace quality chain address path) content) :
    (saveSources store quality chain address sources).Revises writes drops world session := by
  induction sources generalizing session with
  | nil => exact revises_of_keepsTree (.pure _)
  | cons source rest ih =>
    obtain ⟨path, content⟩ := source
    apply revises_bind
    · apply revises_write
      exact permitted path content List.mem_cons_self
    · intro _ middle _
      exact ih fun other text member => permitted other text (List.mem_cons_of_mem _ member)

theorem revises_deletePartial (segment : IsSegment address) {before written : Tree}
    {hash : ContentHash} {path : Path}
    (published : ContentHash.ofValue? artifact.runtime = .ok (some hash))
    (saved : (store.saveAt hash.path (.value artifact.metadata) before).1 = .ok path) (ended : Prop) :
    Tree.Revises (Deposits store chain address contract artifact verdict)
      (Discards store chain address artifact before) ended written
      (store.deletePartial chain address written).2 := by
  have clears := store.clears_of_deletePartial chain address written
    (store.resolved_recordDirectory_ne_nil chain segment)
  constructor
  intro place
  cases inside : isInside _ place with
  | false => exact .inl (clears.file?_of_outside inside)
  | true =>
    rcases clears.each place with same | ⟨_, gone, _⟩
    · exact .inl (file?_of_node? same)
    · exact .inr (.inl ⟨⟨inside, hash, path, published, saved⟩, by rw [file?, gone]⟩)

theorem revises_saveDocument (segment : IsSegment address) :
    (saveDocument store logger chain address verdict.status artifact).Revises
      (Deposits store chain address contract artifact verdict)
      (Discards store chain address artifact session.tree) world session := by
  unfold saveDocument
  apply revises_bind
  · exact revises_of_keepsTree (.ofShape _)
  intro document middle read
  obtain ⟨published, rfl⟩ := ofShape_eq_ok.mp read
  cases document with
  | none => exact revises_of_keepsTree (.bind (.report ..) fun _ => .pure _)
  | some hash =>
    apply revises_bind
    · apply revises_write
      exact .document published
    intro path _ saved
    obtain ⟨written, wrote, rfl⟩ := onTree_eq_ok.mp saved
    apply revises_bind
    · rw [Action.Revises, tree_of_onTree]
      exact revises_deletePartial segment published (by rw [wrote]) _
    · exact fun _ _ _ => revises_of_keepsTree (.pure _)

theorem status_of_saveDocument {status : MatchStatus} {final : Session}
    (returned : saveDocument store logger chain address verdict.status artifact world session
      = (.ok status, final)) : status = recordedStatus artifact.runtime verdict.status := by
  rw [recordedStatus]
  rcases saveDocument_eq_ok returned with ⟨_, _, _, published, same, _⟩ | ⟨missing, same, _⟩
  · rw [published, same]
  · rw [missing, same]

/-- Once the sources are saved, storing writes the other files of the record, up to wherever it may
fail. -/
theorem revises_of_sourced {writes : Place → Json → Prop} {drops : Place → Prop}
    {status : MatchStatus} {middle last : Session}
    (documented : saveDocument store logger chain address verdict.status artifact world session
      = (.ok status, middle))
    (sourced : saveSources store (qualityOf status) chain address contract.sources world middle
      = (.ok (), last))
    (metadata : writes (store.filePlace (qualityOf status) chain address "metadata.json")
      artifact.metadata)
    (arguments : ∀ args, verdict.constructorArgs = some args → args ≠ "" →
      writes (store.filePlace (qualityOf status) chain address "constructor-args.txt")
        (.string args)) :
    Tree.Revises writes drops
      (EndsUnencoded (storeRecord store logger chain address contract artifact verdict world session).1)
      last.tree
      (storeRecord store logger chain address contract artifact verdict world session).2.tree := by
  rw [storeRecord, bind_of_ok documented]
  dsimp only
  rw [← qualityOf, bind_of_ok sourced]
  apply revises_bind
  · apply revises_write
    exact metadata
  intro _ _ _
  cases given : verdict.constructorArgs with
  | none => exact revises_of_keepsTree (.pure _)
  | some args =>
    dsimp only
    split
    next notEmpty =>
      apply revises_bind
      · apply revises_write
        exact arguments args given notEmpty
      · exact fun _ _ _ => revises_of_keepsTree (.pure _)
    · exact revises_of_keepsTree (.pure _)

/-- Once the document is saved, storing writes the files of the record. -/
theorem revises_of_documented {writes : Place → Json → Prop} {drops : Place → Prop}
    {status : MatchStatus} {middle : Session}
    (documented : saveDocument store logger chain address verdict.status artifact world session
      = (.ok status, middle))
    (source : ∀ path content, (path, content) ∈ contract.sources →
      writes (store.sourcePlace (qualityOf status) chain address path) content)
    (metadata : writes (store.filePlace (qualityOf status) chain address "metadata.json")
      artifact.metadata)
    (arguments : ∀ args, verdict.constructorArgs = some args → args ≠ "" →
      writes (store.filePlace (qualityOf status) chain address "constructor-args.txt")
        (.string args)) :
    Tree.Revises writes drops
      (EndsUnencoded (storeRecord store logger chain address contract artifact verdict world session).1)
      middle.tree
      (storeRecord store logger chain address contract artifact verdict world session).2.tree := by
  have sources : (saveSources store (qualityOf status) chain address contract.sources).Revises writes
      drops world middle := revises_saveSources _ source
  rw [Action.Revises] at sources
  cases sourced : saveSources store (qualityOf status) chain address contract.sources world middle with
  | mk outcome last =>
    rw [sourced] at sources
    cases outcome with
    | error fault =>
      rw [storeRecord, bind_of_ok documented]
      dsimp only
      rw [← qualityOf, bind_of_error sourced]
      exact sources.mono .of_error
    | ok =>
      exact (sources.mono fun ends => absurd ends (not_endsUnencoded ())).trans
        (revises_of_sourced documented sourced metadata arguments)

/-- Storing, up to wherever it may fail. -/
theorem revises_storeRecord (store : Store) (logger : Logger) (chain : String)
    (segment : IsSegment address) (contract : Contract) (artifact : CompiledArtifact)
    (verdict : Verdict) (world : World) (session : Session) :
    (storeRecord store logger chain address contract artifact verdict).Revises
      (Deposits store chain address contract artifact verdict)
      (Discards store chain address artifact session.tree) world session := by
  have document : (saveDocument store logger chain address verdict.status artifact).Revises
      (Deposits store chain address contract artifact verdict)
      (Discards store chain address artifact session.tree) world session :=
    revises_saveDocument segment
  rw [Action.Revises] at document ⊢
  cases documented : saveDocument store logger chain address verdict.status artifact world session with
  | mk outcome middle =>
    rw [documented] at document
    cases outcome with
    | error fault =>
      rw [storeRecord, bind_of_error documented]
      exact document.mono .of_error
    | ok status =>
      refine (document.mono fun ends => absurd ends (not_endsUnencoded status)).trans
        (revises_of_documented documented ?_ ?_ ?_)
      all_goals rw [status_of_saveDocument documented]
      · exact fun path content listed => .source listed
      · exact .metadata
      · exact fun args given notEmpty => .arguments given notEmpty

/-- A text without an encoding ends a verification as it ends storing the match. -/
theorem endsUnencoded_conclude {verifier : Verifier} {accepted : Accepted} {matched : MatchResult}
    (named : matched.address = some address) (agrees : matched.status ≠ .none)
    (ends : EndsUnencoded (storeRecord verifier.store logger accepted.chain address contract artifact
      ⟨matched.status, matched.constructorArgs⟩ world session).1) :
    EndsUnencoded (conclude verifier logger accepted contract artifact matched world session).1 := by
  obtain ⟨fault, failed, kind⟩ := ends
  obtain ⟨found, status, args, message⟩ := matched
  cases named
  have stores : (storeOrRefuse verifier logger accepted address contract artifact ⟨status, args⟩ world
      session).1 = .error fault := by
    rw [storeOrRefuse, bind_of_ok (attempt_run ..), failed]
    dsimp only
    rw [kind, if_neg (by decide)]
    rfl
  refine ⟨fault, ?_, kind⟩
  cases status with
  | none => exact absurd rfl agrees
  | _ => exact congrArg Prod.fst (bind_of_error (Prod.ext stores rfl))

theorem storeOrRefuse_of_failed (verifier : Verifier) (accepted : Accepted) {fault : Fault}
    {final : Session}
    (failed : storeRecord verifier.store logger accepted.chain address contract artifact verdict
      world session = (.error fault, final)) (kind : fault.kind = .persistence) :
    ∃ last, storeOrRefuse verifier logger accepted address contract artifact verdict world session
        = (.error (.ofContract contract.name fault), last) ∧ last.tree = final.tree := by
  rw [storeOrRefuse, bind_of_ok (attempt_eq_ok.mpr failed)]
  dsimp only
  rw [if_pos kind]
  exact ⟨_, rfl, rfl⟩

end

/-- A verification leaves the tree alone, or it stores a match as far as that goes. -/
theorem revises_of_verify {verifier : Verifier} (outside : verifier.LeavesTree)
    (request : VerificationRequest) (world : World) (session : Session) :
    (verify verifier request world session).2.tree = session.tree ∨
    ∃ (stages : Stages verifier request world session) (address : String),
      stages.matched.address = some address ∧ stages.matched.status ≠ .none ∧ IsSegment address ∧
      (verify verifier request).Revises
        (Deposits verifier.store stages.accepted.chain address stages.contract stages.artifact
          ⟨stages.matched.status, stages.matched.constructorArgs⟩)
        (Discards verifier.store stages.accepted.chain address stages.artifact session.tree) world
        session := by
  rcases tree_of_verify outside request world session with
    kept | ⟨stages, address, isMatch, found, stored⟩
  · exact .inl kept
  · obtain ⟨-, segment⟩ :=
      checksum_of_matchCode (fits_of_accept stages.accepts) stages.finds isMatch
    have revises := revises_storeRecord verifier.store (loggerOf verifier stages.number)
      stages.accepted.chain segment stages.contract stages.artifact
      ⟨stages.matched.status, stages.matched.constructorArgs⟩ world stages.found
    rw [Action.Revises, stages.tree_found outside, ← stored] at revises
    refine .inr ⟨stages, address, isMatch, found, segment, revises.mono fun ends => ?_⟩
    rw [verify_of_stages stages rfl]
    exact endsUnencoded_conclude isMatch found ends

/-- What a verification does to the files that were there before, whether it returns or fails. Each
one is still there with the same content, unless the code has matched and the file is in the way of
what is stored: it belonged to the partial record, which goes once the document has been written, or
it now holds what is stored in its place. It is empty only if that is a text without an encoding, with
which the verification has failed. -/
theorem files_of_verify {verifier : Verifier} (outside : verifier.LeavesTree)
    (request : VerificationRequest) (world : World) (session : Session) {place : Place}
    {content : List UInt8} (held : session.tree.file? place = some content) :
    (verify verifier request world session).2.tree.file? place = some content ∨
    ∃ (stages : Stages verifier request world session) (address : String),
      stages.matched.address = some address ∧ stages.matched.status ≠ .none ∧
      (Discards verifier.store stages.accepted.chain address stages.artifact session.tree place ∧
          (verify verifier request world session).2.tree.file? place = none ∨
        ∃ value left,
          Deposits verifier.store stages.accepted.chain address stages.contract stages.artifact
            ⟨stages.matched.status, stages.matched.constructorArgs⟩ place value ∧
          Leaves (EndsUnencoded (verify verifier request world session).1) value left ∧
          (verify verifier request world session).2.tree.file? place = some left) := by
  rcases revises_of_verify outside request world session with
    kept | ⟨stages, address, isMatch, found, -, revises⟩
  · left
    rw [kept, held]
  · rcases revises.each place with same | changed
    · left
      rw [same, held]
    · exact .inr ⟨stages, address, isMatch, found, changed⟩

namespace Sample

/-- Two sources that cannot both be stored: one is to be a directory of the other. -/
def clashing : Table String Json := [("a.sol", .string "new"), ("a.sol/b.sol", .string "new")]

def recordOf (quality : Quality) : Place := ["repo", "contracts", quality.directory, "1", address]

def documentOf (quality : Quality) : Place := recordOf quality ++ ["metadata.json"]

def sourceOf (quality : Quality) : Place := recordOf quality ++ ["sources", "a.sol"]

/-- A repository with a partial record and a full one of the same contract. -/
def stored : Tree :=
  [(["repo"], .directory), (["repo", "contracts"], .directory),
    (["repo", "contracts", "partial_match"], .directory),
    (["repo", "contracts", "partial_match", "1"], .directory), (recordOf .partly, .directory),
    (documentOf .partly, .file "old".toUTF8.toList),
    (["repo", "contracts", "full_match"], .directory),
    (["repo", "contracts", "full_match", "1"], .directory), (recordOf .full, .directory),
    (recordOf .full ++ ["sources"], .directory), (sourceOf .full, .file "old".toUTF8.toList)]

def faultKind? : Except Fault MatchStatus → Option FaultKind
  | .ok _ => none
  | .error fault => some fault.kind

theorem verify_of_failed {sources : Table String Json} {tree : Tree} {fault : Fault}
    (failed : (storing sources tree).1 = .error fault) (kind : fault.kind = .persistence) :
    ∃ final, verify verifier (requestFor sources) world (Session.fresh tree)
        = (.error (.ofContract request.contract.name fault), final) ∧
      final.tree = (storing sources tree).2.tree := by
  have run : storing sources tree = (.error fault, (storing sources tree).2) :=
    Prod.ext failed rfl
  obtain ⟨last, refused, same⟩ := storeOrRefuse_of_failed verifier
    ⟨"1", request.addresses, [.string address]⟩ run kind
  rw [verify_run]
  exact ⟨last, bind_of_error refused, same⟩

theorem held_partly : stored.file? (documentOf .partly) = some "old".toUTF8.toList := by
  decide +kernel

theorem held_full : stored.file? (sourceOf .full) = some "old".toUTF8.toList := by
  decide +kernel

end Sample

/-- The file of a partial record when two sources clash. -/
theorem files_of_verify_partial_record :
    Sample.verifier.LeavesTree ∧
    (Session.fresh Sample.stored).tree.file? (Sample.documentOf .partly)
      = some "old".toUTF8.toList ∧
    ((verify Sample.verifier (Sample.requestFor Sample.clashing) Sample.world
        (Session.fresh Sample.stored)).2.tree.file? (Sample.documentOf .partly)
          = some "old".toUTF8.toList ∨
      ∃ (stages : Stages Sample.verifier (Sample.requestFor Sample.clashing) Sample.world
          (Session.fresh Sample.stored)) (address : String),
        stages.matched.address = some address ∧ stages.matched.status ≠ .none ∧
        (Discards Sample.verifier.store stages.accepted.chain address stages.artifact Sample.stored
            (Sample.documentOf .partly) ∧
          (verify Sample.verifier (Sample.requestFor Sample.clashing) Sample.world
            (Session.fresh Sample.stored)).2.tree.file? (Sample.documentOf .partly) = none ∨
        ∃ value left,
          Deposits Sample.verifier.store stages.accepted.chain address stages.contract
            stages.artifact ⟨stages.matched.status, stages.matched.constructorArgs⟩
            (Sample.documentOf .partly) value ∧
          Leaves (EndsUnencoded (verify Sample.verifier (Sample.requestFor Sample.clashing)
            Sample.world (Session.fresh Sample.stored)).1) value left ∧
          (verify Sample.verifier (Sample.requestFor Sample.clashing) Sample.world
            (Session.fresh Sample.stored)).2.tree.file? (Sample.documentOf .partly) = some left)) := by
  exact ⟨Sample.leavesTree, Sample.held_partly,
    files_of_verify Sample.leavesTree (Sample.requestFor Sample.clashing) Sample.world
      (Session.fresh Sample.stored) Sample.held_partly⟩

/-- Storing that fails half-way has removed the partial record and has replaced a source of the full
record. -/
theorem partial_record_lost :
    ∃ fault final,
      verify Sample.verifier (Sample.requestFor Sample.clashing) Sample.world
        (Session.fresh Sample.stored) = (.error fault, final) ∧
      fault.kind = .persistence ∧
      Sample.stored.file? (Sample.documentOf .partly) = some "old".toUTF8.toList ∧
      final.tree.file? (Sample.documentOf .partly) = none ∧
      Sample.stored.file? (Sample.sourceOf .full) = some "old".toUTF8.toList ∧
      final.tree.file? (Sample.sourceOf .full) = some "new".toUTF8.toList := by
  obtain ⟨failed, gone, replaced⟩ :
      Sample.faultKind? (Sample.storing Sample.clashing Sample.stored).1 = some .persistence ∧
      (Sample.storing Sample.clashing Sample.stored).2.tree.file? (Sample.documentOf .partly) = none ∧
      (Sample.storing Sample.clashing Sample.stored).2.tree.file? (Sample.sourceOf .full)
        = some "new".toUTF8.toList := by
    simp only [Sample.storing, storeRecord, saveDocument, Sample.published, Sample.requestFor,
      Sample.clashing, saveSources, Store.save, Store.saveAt]
    unfold Store.write Store.deletePartial
    simp only [Path.hasNul_eq]
    decide +kernel
  cases outcome : (Sample.storing Sample.clashing Sample.stored).1 with
  | ok status =>
    rw [outcome] at failed
    cases failed
  | error fault =>
    rw [outcome] at failed
    have kind : fault.kind = .persistence := Option.some.inj failed
    obtain ⟨final, run, tree⟩ := Sample.verify_of_failed outcome kind
    rw [← tree] at gone replaced
    exact ⟨_, final, run, kind, Sample.held_partly, gone, Sample.held_full, replaced⟩

end Verification

end SourceAttest
