import SourceAttest.Proofs.Limits
import SourceAttest.Proofs.Network.Answers
import SourceAttest.Proofs.Verification.ReadOnly

/-!
# Which faults come from where

A verification tells by the kind of its fault which stage has refused: the request was not accepted,
its chain is not registered, its contract was not compiled, or its code does not match. Everything
else that goes wrong, in matching as in storing, is of another kind.
-/
namespace SourceAttest

open SourceAttest.Action

/-- The kinds of faults by which a verification tells the stage that has refused. -/
def FaultKind.ofStages : List FaultKind := [.validation, .chainNotFound, .compilation, .noMatch]

/-- A fault that is not the refusal of a stage. -/
def Fault.IsIncidental (fault : Fault) : Prop := fault.kind ∉ FaultKind.ofStages

/-- A fault of matching or storing. -/
def Fault.IsLate (fault : Fault) : Prop := fault.IsIncidental ∨ fault.kind = .noMatch

theorem Fault.isIncidental_of_kind {fault : Fault} (kind : FaultKind) (same : fault.kind = kind)
    (apart : kind ∉ FaultKind.ofStages) : fault.IsIncidental := by
  rwa [IsIncidental, same]

theorem Fault.IsLate.kind_not_mem {fault : Fault} (late : fault.IsLate) :
    fault.kind ∉ [FaultKind.validation, .chainNotFound, .compilation] := by
  rcases late with incidental | kind
  · intro member
    exact incidental (List.mem_append_left [FaultKind.noMatch] member)
  · rw [kind]
    decide

/-- The kinds of faults that happen while codes are matched: of nodes, of addresses, of values of the
wrong shape, and that there are no creation data. -/
def FaultKind.ofMatching : List FaultKind :=
  [.rpc, .depth, .value, .creationDataNotFound] ++ FaultKind.ofShapes

/-- A limit on faults that leaves room for all that happens while codes are matched. -/
def Fault.Admits (limit : Fault → Prop) : Prop :=
  ∀ fault : Fault, fault.kind ∈ FaultKind.ofMatching → limit fault

theorem Fault.admits_isIncidental : Fault.Admits Fault.IsIncidental := by
  have apart : ∀ kind ∈ FaultKind.ofMatching, kind ∉ FaultKind.ofStages := by decide
  exact fun fault => apart fault.kind

theorem Fault.Admits.shape {limit : Fault → Prop} (admits : Admits limit) (why : ShapeFault) :
    limit (.shape why) :=
  admits (.shape why) (List.mem_append_right _ why.kind_mem)

theorem ShapeFault.isIncidental (why : ShapeFault) : (Fault.shape why).IsIncidental :=
  Fault.admits_isIncidental.shape why

/-! ### Nodes and creation data -/

namespace Rpc

variable {limit : Fault → Prop} (admits : Fault.Admits limit)

include admits

theorem failsOnly_call (endpoint : Endpoint) (method params timeout : Json) :
    (call endpoint method params timeout).FailsOnly limit := by
  refine .bind .nextCallNumber fun number => .bind (.send _) fun reply => .ofExcept fun fault failed => ?_
  have among : ∀ kind ∈ [FaultKind.rpc, .depth, .type], kind ∈ FaultKind.ofMatching := by decide
  exact admits fault (among fault.kind (kind_of_answer failed))

theorem failsOnly_codeAt (endpoint : Endpoint) (address block : Json) :
    (codeAt endpoint address block).FailsOnly limit := by
  refine .bind (failsOnly_call admits ..) fun code => ?_
  split
  · exact .pure _
  · exact .bind (.ofShape admits.shape) fun _ => .pure _

end Rpc

/-- The library's own search for creation data fails only by not finding any. -/
theorem CreationData.failsOnly_resolve (logger : Logger) (chain : Chain) (address : Json) :
    (resolve logger chain address).FailsOnly (·.kind = .creationDataNotFound) := by
  unfold resolve
  induction configured chain with
  | nil => exact .bind (.report ..) fun _ => .fail rfl
  | cons strategy rest ih =>
    refine .bind (.report ..) fun _ => .bind (.attempt _) fun outcome => ?_
    split
    · exact .pure _
    · exact .bind (.report ..) fun _ => ih

theorem Resolver.failsOnly_own (logger : Logger) (chain : Chain) (address : String) :
    (own logger chain address).FailsOnly (·.kind = .creationDataNotFound) :=
  .bind (CreationData.failsOnly_resolve ..) fun _ => .pure _

/-! ### Comparing and matching -/

section

variable {limit : Fault → Prop}

theorem failsOnly_creationDataFor {fetch : Action (Option String)} (limited : fetch.FailsOnly limit)
    (known : Option String) : (creationDataFor known fetch).FailsOnly limit := by
  have fetched : (creationDataFor.fetched fetch).FailsOnly limit := by
    refine limited.attempt_bind (fun _ => .pure _) fun fault may => ?_
    dsimp only
    split
    · exact .pure _
    · exact .fail may
  unfold creationDataFor
  split
  · split
    · exact fetched
    · exact .pure _
  · exact fetched

variable (admits : Fault.Admits limit)

include admits

theorem failsOnly_compareBytecodes (deployed creationData runtime creation : Option String)
    {fetch : Action (Option String)} (limited : fetch.FailsOnly limit) :
    (compareBytecodes deployed creationData runtime creation fetch).FailsOnly limit := by
  unfold compareBytecodes
  split
  · exact .pure _
  · split
    · exact .pure _
    · refine .bind (.ofShape admits.shape) fun decided => ?_
      split
      · exact .pure _
      · refine .bind (failsOnly_creationDataFor limited _) fun data => ?_
        split
        · exact .pure _
        · split
          · exact .pure _
          · exact .ofShape admits.shape

theorem failsOnly_compareValues (deployed creationData runtime creation : Json)
    {fetch : Action (Option String)} (limited : fetch.FailsOnly limit) :
    (compareValues deployed creationData runtime creation fetch).FailsOnly limit := by
  refine .bind (.ofShape admits.shape) fun deployed => ?_
  split
  · exact .pure _
  · refine .bind (.ofShape admits.shape) fun runtime => .bind (.ofShape admits.shape) fun creation => ?_
    split
    · exact failsOnly_compareBytecodes admits _ _ _ _ limited
    · split
      · exact failsOnly_compareBytecodes admits _ _ _ _ limited
      · exact failsOnly_compareBytecodes admits _ _ _ _ (.fail (admits.shape _))

theorem Address.limit_of_checksumValue {value : Json} {fault : Fault}
    (failed : checksumValue value = .error fault) : limit fault := by
  have value' {fault : Fault} (kind : fault.kind = .value) : limit fault := by
    apply admits fault
    rw [kind]
    decide
  have fromInt {value : Json} {n : Int} {fault : Fault} (failed : checksumInt value n = .error fault) :
      limit fault := by
    unfold checksumInt at failed
    split at failed
    · split at failed
      · cases failed
      · cases failed
        exact value' rfl
    · cases failed
      exact value' rfl
  have fromText {text : String} {fault : Fault} (failed : checksum text = .error fault) :
      limit fault := by
    unfold checksum at failed
    dsimp only at failed
    split at failed
    · cases failed
      exact value' rfl
    · split at failed
      · cases failed
      · cases failed
        exact value' rfl
  cases value with
  | string text => exact fromText failed
  | unpaired text => exact fromText failed
  | int n => exact fromInt failed
  | bool b => exact fromInt failed
  | _ =>
    cases failed
    exact admits.shape _

namespace Matching

theorem failsOnly_deployedCode (logger : Logger) (chain : Chain) (address : String) :
    (deployedCode logger chain address).FailsOnly limit := by
  have asked (node : Endpoint) : (Rpc.currentCode node (.string address)).FailsOnly limit :=
    Rpc.failsOnly_codeAt admits ..
  refine (FailsOnly.bind (.ofShape admits.shape) asked).attempt_bind (fun _ => .pure _)
    fun fault may => ?_
  dsimp only
  split
  · exact .bind (.report ..) fun _ => .pure _
  · exact .fail may

/-- The faults of a comparison stay in its trial, so nothing is asked of the resolver. -/
theorem failsOnly_tryEach (logger : Logger) (resolver : Resolver) (chain : Chain)
    (compiled : Compiled) (single : Bool) (message : Option String) (candidates : List Json) :
    (tryEach logger resolver chain compiled single message candidates).FailsOnly limit := by
  have tried (address : String) :
      (tryCandidate logger resolver chain compiled address).FailsOnly limit := by
    refine .bind (.report ..) fun _ => .bind (failsOnly_deployedCode admits ..) fun deployed =>
      .bind (.attempt _) fun outcome => ?_
    split
    · exact .bind (.report ..) fun _ => .pure _
    · split
      · exact .pure _
      · exact .pure _
  induction candidates generalizing message with
  | nil => exact .pure _
  | cons candidate rest ih =>
    refine .bind (.ofExcept fun fault failed => Address.limit_of_checksumValue admits failed)
      fun address => .bind (tried address) fun outcome => ?_
    split
    · exact .pure _
    · exact ih _

end Matching

end

/-! ### Storing -/

namespace Artifact

variable {artifact : Artifact} {fault : Fault}

theorem eq_shape_of_refusal? (refused : artifact.refusal? = some fault) : ∃ why, fault = .shape why := by
  unfold refusal? at refused
  split at refused
  · cases refused
  · cases refused
  · cases refused
  · cases refused
    exact ⟨_, rfl⟩

theorem eq_shape_of_bytes? (unreadable : artifact.bytes? = .error fault) :
    ∃ why, fault = .shape why := by
  unfold bytes? at unreadable
  split at unreadable
  · cases unreadable
  · cases unreadable
    exact ⟨_, rfl⟩
  · cases unreadable
    exact ⟨_, rfl⟩
  · cases unreadable

end Artifact

namespace Store

theorem isIncidental_of_write {store : Store} {path : Path} {artifact : Artifact} {tree : Tree}
    {fault : Fault} (failed : (store.write path artifact tree).1 = .error fault) :
    fault.IsIncidental := by
  have ofWriting (path : String) (why : FileFault) : (Fault.notWritten path why).IsIncidental :=
    Fault.isIncidental_of_kind .persistence rfl (by decide)
  have ofNull : Fault.nullInPath.IsIncidental :=
    Fault.isIncidental_of_kind .value rfl (by decide)
  unfold write at failed
  split at failed
  · cases failed
    exact ofNull
  · split at failed
    · cases failed
      exact ofWriting _ _
    · split at failed
      next refused =>
        cases failed
        obtain ⟨why, rfl⟩ := Artifact.eq_shape_of_refusal? refused
        exact ShapeFault.isIncidental why
      · split at failed
        · cases failed
          exact ofNull
        · split at failed
          · cases failed
            exact ofWriting _ _
          · split at failed
            next unreadable =>
              cases failed
              obtain ⟨why, rfl⟩ := Artifact.eq_shape_of_bytes? unreadable
              exact ShapeFault.isIncidental why
            · cases failed

theorem isIncidental_of_deletePartial {store : Store} {chain address : String} {tree : Tree}
    {fault : Fault} (failed : (store.deletePartial chain address tree).1 = .error fault) :
    fault.IsIncidental := by
  unfold deletePartial at failed
  dsimp only at failed
  split at failed
  · cases failed
    exact Fault.isIncidental_of_kind .value rfl (by decide)
  · split at failed
    · cases failed
    · split at failed
      · cases failed
      · cases failed
        exact Fault.isIncidental_of_kind .persistence rfl (by decide)

end Store

namespace Verification

variable {verifier : Verifier} {logger : Logger} {request : VerificationRequest}
  {accepted : Accepted} {artifact : CompiledArtifact}

theorem failsOnly_storeRecord (store : Store) (chain address : String) (contract : Contract)
    (verdict : Verdict) :
    (storeRecord store logger chain address contract artifact verdict).FailsOnly
      Fault.IsIncidental := by
  have saves (target : StorageTarget) (content : Artifact) :
      (Action.onTree (store.save target content)).FailsOnly Fault.IsIncidental :=
    .onTree fun _ _ failed => Store.isIncidental_of_write failed
  have documented : (saveDocument store logger chain address verdict.status artifact).FailsOnly
      Fault.IsIncidental := by
    refine .bind (.ofShape ShapeFault.isIncidental) fun hash => ?_
    split
    · exact .bind (.onTree fun _ _ failed => Store.isIncidental_of_write failed) fun _ =>
        .bind (.onTree fun _ _ failed => Store.isIncidental_of_deletePartial failed) fun _ => .pure _
    · exact .bind (.report ..) fun _ => .pure _
  have sourced (quality : Quality) (sources : List (String × Json)) :
      (saveSources store quality chain address sources).FailsOnly Fault.IsIncidental := by
    induction sources with
    | nil => exact .pure _
    | cons entry rest ih => exact .bind (saves _ _) fun _ => ih
  refine .bind documented fun status => .bind (sourced ..) fun _ => .bind (saves _ _) fun _ => ?_
  split
  · dsimp only
    split
    · exact .bind (saves _ _) fun _ => .pure _
    · exact .pure _
  · exact .pure _

theorem failsOnly_storeOrRefuse (address : String) (contract : Contract) (verdict : Verdict) :
    (storeOrRefuse verifier logger accepted address contract artifact verdict).FailsOnly
      Fault.IsIncidental := by
  refine (failsOnly_storeRecord ..).attempt_bind (fun _ => .pure _) fun fault incidental => ?_
  dsimp only
  split
  -- A fault of the contract is of the same kind.
  · exact .bind (.report ..) fun _ => .fail incidental
  · exact .fail incidental

section

variable {limit : Fault → Prop} (admits : Fault.Admits limit)
  (limited : ∀ chain address, (verifier.resolver logger chain address).FailsOnly limit)

include admits limited

theorem failsOnly_creationDataOnChain (chain address : String) :
    (creationDataOnChain verifier logger chain address).FailsOnly limit := by
  unfold creationDataOnChain
  split
  · exact limited ..
  · have among : FaultKind.creationDataNotFound ∈ FaultKind.ofMatching := by decide
    exact .fail (admits _ among)

/-- Code that is known of one address is compared like the code that a node tells. -/
theorem failsOnly_compareKnown_of_one (one : accepted.candidates.length = 1) (code : Json) :
    (compareKnown verifier logger request accepted code artifact).FailsOnly limit := by
  rw [compareKnown, if_neg (not_not_intro one)]
  exact .bind (.ofShape admits.shape) fun candidate =>
    .bind (.ofExcept fun fault failed => Address.limit_of_checksumValue admits failed) fun address =>
      .bind (failsOnly_compareValues admits _ _ _ _ (failsOnly_creationDataOnChain admits limited ..))
        fun _ => .pure _

end

theorem failsOnly_compareKnown
    (limited : ∀ chain address, (verifier.resolver logger chain address).FailsOnly Fault.IsIncidental)
    (code : Json) :
    (compareKnown verifier logger request accepted code artifact).FailsOnly Fault.IsLate := by
  by_cases one : accepted.candidates.length = 1
  · exact (failsOnly_compareKnown_of_one Fault.admits_isIncidental limited one code).mono fun _ => .inl
  · rw [compareKnown, if_pos one]
    exact .bind (.report ..) fun _ => .fail (.inr rfl)

theorem failsOnly_matchCode
    (limited : ∀ chain address, (verifier.resolver logger chain address).FailsOnly Fault.IsIncidental)
    (chain : Option Chain) :
    (matchCode verifier logger request accepted chain artifact).FailsOnly Fault.IsLate := by
  unfold matchCode
  split
  · exact failsOnly_compareKnown limited _
  · exact (Matching.failsOnly_tryEach Fault.admits_isIncidental ..).mono fun _ => .inl
  · exact .pure _

/-- A match may still fail to be stored, but not as if there were none. -/
theorem failsOnly_conclude_of_match (contract : Contract) {result : MatchResult} {address : String}
    (found : result.status ≠ .none) (named : result.address = some address) :
    (conclude verifier logger accepted contract artifact result).FailsOnly Fault.IsIncidental := by
  obtain ⟨_, status, args, message⟩ := result
  cases named
  cases status with
  | none => exact absurd rfl found
  -- Both kinds of match go on in the same way.
  | _ => exact .bind (failsOnly_storeOrRefuse ..) fun _ => .bind (.report ..) fun _ => .pure _

theorem failsOnly_conclude (contract : Contract) (result : MatchResult) :
    (conclude verifier logger accepted contract artifact result).FailsOnly Fault.IsLate := by
  have noMatch : (conclude.noMatch logger accepted contract result).FailsOnly Fault.IsLate :=
    .bind (.report ..) fun _ => .fail (.inr rfl)
  unfold conclude
  split
  · exact noMatch
  · exact noMatch
  · exact .bind ((failsOnly_storeOrRefuse ..).mono fun _ => .inl) fun _ =>
      .bind (.report ..) fun _ => .pure _

end Verification

end SourceAttest
