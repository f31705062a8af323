import Mathlib.Data.List.Forall2
import SourceAttest.Proofs.Address
import SourceAttest.Proofs.Verification.Success

/-!
# Spellings of addresses

Two requests whose addresses differ only in their letters and markers are verified alike. The addresses
as they were submitted are told in reports, each one right before a failure; whatever else is done with
an address is done with its checksummed form. The main result is `verify_of_spellings`.
-/
namespace SourceAttest

open SourceAttest.Action

/-! ### Runs that end alike -/

/-- Two sessions that differ at most in the events reported. -/
structure Session.SameButEvents (first second : Session) : Prop where
  requests : first.requests = second.requests
  rpcCalls : first.rpcCalls = second.rpcCalls
  lookups : first.lookups = second.lookups
  runs : first.runs = second.runs
  verifications : first.verifications = second.verifications
  tree : first.tree = second.tree

theorem Session.SameButEvents.refl (session : Session) : session.SameButEvents session :=
  ⟨rfl, rfl, rfl, rfl, rfl, rfl⟩

/-- From every session the two actions run the same, or fail with the same fault and sessions that
differ at most in the events reported. -/
structure Action.EndsLike {α : Type} (world : World) (action other : Action α) : Prop where
  same : ∀ session, action world session = other world session ∨
    ∃ fault, (action world session).1 = .error fault ∧ (other world session).1 = .error fault ∧
      (action world session).2.SameButEvents (other world session).2

namespace Action.EndsLike

variable {α β : Type} {world : World}

theorem refl (action : Action α) : action.EndsLike world action := ⟨fun _ => .inl rfl⟩

theorem bind {action other : Action α} {next next' : α → Action β}
    (before : action.EndsLike world other) (after : ∀ value, (next value).EndsLike world (next' value)) :
    (action >>= next).EndsLike world (other >>= next') := by
  constructor
  intro session
  rcases before.same session with same | ⟨fault, failed, failed', sessions⟩
  · cases run : action world session with
    | mk outcome middle =>
      have run' := same.symm.trans run
      cases outcome with
      | error fault => exact .inl ((bind_of_error run).trans (bind_of_error run').symm)
      | ok value =>
        rw [bind_of_ok run, bind_of_ok run']
        exact (after value).same middle
  -- A failure ends both, so nothing comes after the events that differ.
  · have run : action world session = (.error fault, (action world session).2) := Prod.ext failed rfl
    have run' : other world session = (.error fault, (other world session).2) := Prod.ext failed' rfl
    right
    rw [bind_of_error run, bind_of_error run']
    exact ⟨fault, rfl, rfl, sessions⟩

/-- Two failures with one fault that come right after different reports. -/
theorem report_fail (logger : Logger) (level : Level) (text : String) (fields fields' : Table String Json)
    (fault : Fault) :
    (logger.report level text fields >>= fun _ => (Action.fail fault : Action α)).EndsLike world
      (logger.report level text fields' >>= fun _ => Action.fail fault) :=
  ⟨fun _ => .inr ⟨fault, rfl, rfl, rfl, rfl, rfl, rfl, rfl, rfl⟩⟩

theorem outcome_eq {action other : Action α} (ends : action.EndsLike world other) (session : Session) :
    (action world session).1 = (other world session).1 ∧
      (action world session).2.SameButEvents (other world session).2 := by
  rcases ends.same session with same | ⟨fault, failed, failed', sessions⟩
  · rw [same]
    exact ⟨rfl, .refl _⟩
  · exact ⟨failed.trans failed'.symm, sessions⟩

end Action.EndsLike

/-- A request for these addresses. -/
def VerificationRequest.forAddresses (request : VerificationRequest) (texts : List String) :
    VerificationRequest :=
  { request with addresses := .array (texts.map .string) }

namespace Verification

/-! ### The stages of a verification -/

/-- What a request for these addresses is accepted as. -/
def acceptedFor (chain : String) (texts : List String) : Accepted :=
  ⟨chain, .array (texts.map .string), texts.map .string⟩

theorem accept_forAddresses (request : VerificationRequest) {texts : List String}
    (valid : ∀ text ∈ texts, Address.isAddress text = true) :
    accept (request.forAddresses texts)
      = if texts = [] then .error (.request .addressMissing)
        else
          match request.chain with
          | .string chain =>
            if chain = "" then .error (.request .chainMissing) else .ok (acceptedFor chain texts)
          | _ => .error (.request .chainMissing) := by
  have noNull : ((texts.map Json.string).any isNull) = false := by
    rw [List.any_eq_false]
    intro candidate listed
    obtain ⟨text, -, rfl⟩ := List.mem_map.mp listed
    exact Bool.false_ne_true
  have noBad : badAddress? (texts.map Json.string) = none := by
    rw [badAddress?, List.find?_eq_none]
    intro candidate listed
    obtain ⟨text, isText, rfl⟩ := List.mem_map.mp listed
    simp [valid text isText]
  cases texts with
  | nil => rfl
  | cons text rest =>
    rw [if_neg (List.cons_ne_nil _ _)]
    simp only [accept, VerificationRequest.forAddresses, Json.isTruthy, Json.items, noNull, noBad]
    rfl

section Stages

variable {texts texts' : List String} (same : List.Forall₂ Address.SameAddress texts texts')

include same

theorem valid_of_same :
    (∀ text ∈ texts, Address.isAddress text = true) ∧ ∀ text ∈ texts', Address.isAddress text = true := by
  induction same with
  | nil => exact ⟨fun _ member => absurd member List.not_mem_nil,
      fun _ member => absurd member List.not_mem_nil⟩
  | cons first others ih =>
    obtain ⟨bytes, spells, spells'⟩ := first
    exact ⟨List.forall_mem_cons.mpr ⟨spells.valid, ih.1⟩, List.forall_mem_cons.mpr ⟨spells'.valid, ih.2⟩⟩

theorem checksums_eq :
    (texts.map Json.string).map Address.checksumValue
      = (texts'.map Json.string).map Address.checksumValue := by
  induction same with
  | nil => rfl
  | cons first others ih =>
    exact congrArg₂ List.cons (Address.checksum_congr first) ih

omit same in
theorem tryEach_congr (logger : Logger) (resolver : Resolver) (chain : Chain)
    (compiled : Matching.Compiled) (single : Bool) (message : Option String)
    {candidates candidates' : List Json}
    (same : candidates.map Address.checksumValue = candidates'.map Address.checksumValue) :
    Matching.tryEach logger resolver chain compiled single message candidates
      = Matching.tryEach logger resolver chain compiled single message candidates' := by
  induction candidates generalizing candidates' message with
  | nil =>
    cases candidates' with
    | nil => rfl
    | cons other rest => cases same
  | cons candidate rest ih =>
    cases candidates' with
    | nil => cases same
    | cons other rest' =>
      obtain ⟨first, others⟩ := List.cons.inj same
      have later (message : Option String) := ih message others
      simp only [Matching.tryEach, first, later]

variable (verifier : Verifier) (logger : Logger) (request : VerificationRequest) (chain : String)
  (world : World)

omit same in
theorem refuse_endsLike {α : Type} (text : String) (fields fields' : List (String × Json))
    (contract : Contract) (fault : Fault) :
    (refuse logger text fields contract fault : Action α).EndsLike world
      (refuse logger text fields' contract fault) :=
  .report_fail ..

omit same in
theorem chainOf_endsLike (accepted other : Accepted) (chains : accepted.chain = other.chain) :
    (chainOf verifier logger (request.forAddresses texts) accepted).EndsLike world
      (chainOf verifier logger (request.forAddresses texts') other) := by
  unfold chainOf
  change Action.EndsLike world (if (knownCode? request).isSome then _ else _)
    (if (knownCode? request).isSome then _ else _)
  split
  · exact .refl _
  · rw [chains]
    split
    · exact .refl _
    · exact refuse_endsLike ..

omit same in
theorem compileOrRefuse_endsLike (contract : Contract) (accepted other : Accepted) :
    (compileOrRefuse verifier logger contract accepted).EndsLike world
      (compileOrRefuse verifier logger contract other) := by
  refine .bind (.refl _) fun outcome => ?_
  cases outcome with
  | ok result => exact .refl _
  | error fault =>
    dsimp only
    split
    · exact refuse_endsLike ..
    · exact .refl _

theorem compareKnown_endsLike (code : Json) (artifact : CompiledArtifact) :
    (compareKnown verifier logger (request.forAddresses texts) (acceptedFor chain texts) code
      artifact).EndsLike world
      (compareKnown verifier logger (request.forAddresses texts') (acceptedFor chain texts') code
        artifact) := by
  have sizes := same.length_eq
  by_cases single : texts.length = 1
  · obtain ⟨text, rfl⟩ := List.length_eq_one_iff.mp single
    obtain ⟨text', rfl⟩ := List.length_eq_one_iff.mp (sizes.symm.trans single)
    have checksums : Address.checksumValue (.string text) = Address.checksumValue (.string text') :=
      Address.checksum_congr (List.forall₂_cons.mp same).1
    have first (text : String) :
        (acceptedFor chain [text]).addresses.select (.int 0) = .ok (.string text) := rfl
    -- The one address is asked for by its place, and then only its checksummed form is used.
    have one (text : String) : ¬ (acceptedFor chain [text]).candidates.length ≠ 1 :=
      not_not_intro rfl
    unfold compareKnown
    rw [if_neg (one text), if_neg (one text'), first, first, ofShape_ok_bind, ofShape_ok_bind, checksums]
    exact .refl _
  · have many : (acceptedFor chain texts).candidates.length ≠ 1 := by
      rwa [acceptedFor, List.length_map]
    have many' : (acceptedFor chain texts').candidates.length ≠ 1 := by
      rwa [acceptedFor, List.length_map, ← sizes]
    rw [compareKnown, compareKnown, if_pos many, if_pos many']
    exact .report_fail ..

theorem matchCode_endsLike (found : Option Chain) (artifact : CompiledArtifact) :
    (matchCode verifier logger (request.forAddresses texts) (acceptedFor chain texts) found
      artifact).EndsLike world
      (matchCode verifier logger (request.forAddresses texts') (acceptedFor chain texts') found
        artifact) := by
  have firstMatch (chain' : Chain) : Matching.firstMatch logger verifier.resolver chain'
      ⟨artifact.runtime, artifact.creation⟩ (acceptedFor chain texts).candidates
    = Matching.firstMatch logger verifier.resolver chain' ⟨artifact.runtime, artifact.creation⟩
        (acceptedFor chain texts').candidates := by
    have sizes : (acceptedFor chain texts).candidates.length
        = (acceptedFor chain texts').candidates.length := by
      simp only [acceptedFor, List.length_map, same.length_eq]
    rw [Matching.firstMatch, Matching.firstMatch, sizes]
    exact tryEach_congr logger verifier.resolver chain' _ _ _ (checksums_eq same)
  have known (texts : List String) : knownCode? (request.forAddresses texts) = knownCode? request := rfl
  unfold matchCode
  simp only [known]
  cases knownCode? request with
  | some code => exact compareKnown_endsLike same ..
  | none =>
    cases found with
    | some found =>
      dsimp only
      rw [firstMatch]
      exact .refl _
    | none => exact .refl _

omit same in
theorem conclude_endsLike (accepted other : Accepted) (chains : accepted.chain = other.chain)
    (contract : Contract) (artifact : CompiledArtifact) (result : MatchResult) :
    (conclude verifier logger accepted contract artifact result).EndsLike world
      (conclude verifier logger other contract artifact result) := by
  have noMatch : (conclude.noMatch logger accepted contract result).EndsLike world
      (conclude.noMatch logger other contract result) := .report_fail ..
  have stored (status : MatchStatus) (address : String) :
      storeOrRefuse verifier logger accepted address contract artifact ⟨status, result.constructorArgs⟩
        = storeOrRefuse verifier logger other address contract artifact
            ⟨status, result.constructorArgs⟩ := by
    simp only [storeOrRefuse, chains]
  unfold conclude
  split
  · exact noMatch
  · exact noMatch
  · rw [stored, chains]
    exact .refl _

/-- Nothing but the reports depends on how the addresses are spelled. -/
theorem verifyAccepted_endsLike :
    (verifyAccepted verifier (request.forAddresses texts) (acceptedFor chain texts)).EndsLike world
      (verifyAccepted verifier (request.forAddresses texts') (acceptedFor chain texts')) := by
  refine .bind (.refl _) fun number => ?_
  refine .bind (chainOf_endsLike _ _ _ _ _ _ rfl) fun found => ?_
  refine .bind (compileOrRefuse_endsLike ..) fun ⟨contract, artifact⟩ => ?_
  refine .bind (matchCode_endsLike same ..) fun result => ?_
  exact conclude_endsLike _ _ _ (acceptedFor chain texts) (acceptedFor chain texts') rfl ..

end Stages

end Verification

/-- However addresses are spelled, a verification comes to the same result or to the same fault, makes
the same calls and compiler runs, and leaves the same files. The resolver may be one that records what it
is asked for, so it is asked for the same addresses. Every address that passes validation has a
checksummed form. -/
theorem Verification.verify_of_spellings (verifier : Verifier) (request : VerificationRequest)
    {texts texts' : List String} (same : List.Forall₂ Address.SameAddress texts texts') (world : World)
    (session : Session) :
    let first := verify verifier (request.forAddresses texts) world session
    let second := verify verifier (request.forAddresses texts') world session
    first.1 = second.1 ∧ first.2.SameButEvents second.2 ∧
      ∀ text, Address.isAddress text = true → ∃ address, Address.checksum text = .ok address := by
  have accepts := accept_forAddresses request (valid_of_same same).1
  have accepts' := accept_forAddresses request (valid_of_same same).2
  have ends : (verify verifier (request.forAddresses texts)).EndsLike world
      (verify verifier (request.forAddresses texts')) := by
    have empty : texts = [] ↔ texts' = [] := by
      rw [← List.length_eq_zero_iff, ← List.length_eq_zero_iff, same.length_eq]
    unfold verify
    rw [accepts, accepts']
    simp only [empty]
    split_ifs with none
    · exact .refl _
    · cases request.chain with
      | string chain =>
        dsimp only
        split_ifs
        · exact .refl _
        · exact verifyAccepted_endsLike same ..
      | _ => exact .refl _
  obtain ⟨outcomes, sessions⟩ := ends.outcome_eq session
  refine ⟨outcomes, sessions, fun text valid => ?_⟩
  obtain ⟨bytes, -, -, checksummed⟩ := Address.spells_of_isAddress valid
  exact ⟨_, checksummed⟩

/-- An address with its checksum, and the same one in small letters and without a marker. -/
theorem Verification.verify_of_spellings_of_one :
    let text := "0x5B38Da6a701c568545dCfcB03FcB875f56beddC4"
    let other := "5b38da6a701c568545dcfcb03fcb875f56beddc4"
    List.Forall₂ Address.SameAddress [text] [other] ∧
    ∀ session,
      (verify Sample.verifier (Sample.request.forAddresses [text]) Sample.world session).1
        = (verify Sample.verifier (Sample.request.forAddresses [other]) Sample.world session).1 := by
  have same : Address.SameAddress "0x5B38Da6a701c568545dCfcB03FcB875f56beddC4"
      "5b38da6a701c568545dcfcb03fcb875f56beddc4" := by
    refine ⟨[0x5B, 0x38, 0xDA, 0x6A, 0x70, 0x1C, 0x56, 0x85, 0x45, 0xDC, 0xFC, 0xB0, 0x3F, 0xCB, 0x87,
      0x5F, 0x56, 0xBE, 0xDD, 0xC4], ⟨?_, ?_⟩, ⟨?_, ?_⟩⟩
    · decide +kernel
    · decide +kernel
    · decide +kernel
    · decide +kernel
  have all := List.Forall₂.cons same List.Forall₂.nil
  exact ⟨all, fun session => (verify_of_spellings Sample.verifier Sample.request all Sample.world session).1⟩

end SourceAttest
