import Mathlib.Tactic.SplitIfs
import SourceAttest.Proofs.Action
import SourceAttest.Verification

/-!
# What a match is about

A match names a candidate in its checksummed form, and its constructor arguments are never empty.
The main result is `Verification.isAmong_of_matchCode`, which holds for code from the chain and for
known code alike.
-/
namespace SourceAttest

open SourceAttest.Action

variable {world : World} {session final : Session}

/-! ### Constructor arguments -/

theorem argsBehind_ne_empty (skipped : Nat) (data : String) : argsBehind skipped data ≠ some "" := by
  unfold argsBehind
  split
  · simp
  · intro empty
    have chars := congrArg String.toList (Option.some.inj empty)
    simp at chars

private theorem args_ne_empty_of_fixed {verdict : Verdict}
    (fixed : verdict = .noMatch ∨ verdict = .partly ∨ verdict = .exact) :
    verdict.constructorArgs ≠ some "" := by
  rcases fixed with rfl | rfl | rfl
  · decide
  · decide
  · decide

theorem args_ne_empty_of_compareCreation {data : String} {creation : Option String}
    {verdict : Verdict} (returned : compareCreation data creation = .ok verdict) :
    verdict.constructorArgs ≠ some "" := by
  unfold compareCreation at returned
  split at returned
  · cases returned
  · split_ifs at returned
    · cases returned
      exact argsBehind_ne_empty _ _
    · cases returned
      exact args_ne_empty_of_fixed (.inr (.inl rfl))
    · cases returned
      exact args_ne_empty_of_fixed (.inl rfl)

theorem args_ne_empty_of_compareRuntime {deployed : String} {runtime : Option String}
    {verdict : Verdict} (returned : compareRuntime deployed runtime = .ok (some verdict)) :
    verdict.constructorArgs ≠ some "" := by
  unfold compareRuntime at returned
  split_ifs at returned
  · cases returned
    exact args_ne_empty_of_fixed (.inr (.inr rfl))
  · split at returned
    · cases returned
    · dsimp only at returned
      split_ifs at returned
      · cases returned
        exact args_ne_empty_of_fixed (.inr (.inl rfl))
      · cases returned
        exact args_ne_empty_of_fixed (.inl rfl)
      · cases returned

theorem args_ne_empty_of_compareBytecodes {deployed known runtime creation : Option String}
    {fetch : Action (Option String)} {verdict : Verdict}
    (returned : compareBytecodes deployed known runtime creation fetch world session
      = (.ok verdict, final)) :
    verdict.constructorArgs ≠ some "" := by
  -- Three branches end in no match at once.
  have noMatch {session : Session}
      (returned : (pure .noMatch : Action Verdict) world session = (.ok verdict, final)) :
      verdict.constructorArgs ≠ some "" :=
    args_ne_empty_of_fixed (.inl (pure_eq_ok.mp returned).1.symm)
  cases deployed with
  | none => exact noMatch returned
  | some deployed =>
    simp only [compareBytecodes, Option.map_some] at returned
    split at returned
    · exact noMatch returned
    · obtain ⟨decided, _, tried, returned⟩ := bind_eq_ok.mp returned
      obtain ⟨byCodes, rfl⟩ := ofShape_eq_ok.mp tried
      split at returned
      · obtain ⟨rfl, rfl⟩ := pure_eq_ok.mp returned
        exact args_ne_empty_of_compareRuntime byCodes
      · obtain ⟨found, _, _, returned⟩ := bind_eq_ok.mp returned
        cases found with
        | none => exact noMatch returned
        | some data =>
          simp only [Option.map_some] at returned
          split at returned
          · exact noMatch returned
          · exact args_ne_empty_of_compareCreation (ofShape_eq_ok.mp returned).1

theorem args_ne_empty_of_compareValues {deployed known runtime creation : Json}
    {fetch : Action (Option String)} {verdict : Verdict}
    (returned : compareValues deployed known runtime creation fetch world session
      = (.ok verdict, final)) :
    verdict.constructorArgs ≠ some "" := by
  obtain ⟨_, _, _, returned⟩ := bind_eq_ok.mp returned
  split at returned
  · exact args_ne_empty_of_fixed (.inl (pure_eq_ok.mp returned).1.symm)
  · obtain ⟨_, _, _, returned⟩ := bind_eq_ok.mp returned
    obtain ⟨_, _, _, returned⟩ := bind_eq_ok.mp returned
    split at returned
    · exact args_ne_empty_of_compareBytecodes returned
    · cases read : Bytecode.ofJson known with
      | ok data =>
        rw [read] at returned
        exact args_ne_empty_of_compareBytecodes returned
      | error why =>
        rw [read] at returned
        exact args_ne_empty_of_compareBytecodes returned

/-! ### Candidates -/

/-- A match is about one of the candidates, and its constructor arguments are not empty. -/
structure MatchResult.IsAmong (candidates : List Json) (result : MatchResult) : Prop where
  address : ∀ address, result.address = some address →
    ∃ candidate ∈ candidates, Address.checksumValue candidate = .ok address
  args : result.constructorArgs ≠ some ""

namespace Matching

variable {logger : Logger} {resolver : Resolver} {chain : Chain} {compiled : Compiled}

/-- A candidate that matches: the code that its node told, if it did, has been compared, and the
comparison has come to a match. -/
structure Found (logger : Logger) (resolver : Resolver) (chain : Chain) (compiled : Compiled)
    (world : World) (address : String) (verdict : Verdict) (before final : Session) : Prop where
  compares : ∃ events code asked,
    deployedCode logger chain address world { before with events := before.events ++ events }
      = (.ok code, asked) ∧
    compareValues (code.elim .null .string) .null compiled.runtime compiled.creation
      (resolver logger chain address) world asked = (.ok verdict, final)
  isMatch : verdict.status ≠ .none

theorem tryCandidate_eq_ok {address : String} {result : MatchResult}
    (returned : tryCandidate logger resolver chain compiled address world session
      = (.ok (.ok result), final)) :
    ∃ verdict, Found logger resolver chain compiled world address verdict session final ∧
      result = ⟨some address, verdict.status, verdict.constructorArgs, none⟩ := by
  obtain ⟨_, _, announced, run⟩ := bind_eq_ok.mp returned
  cases announced
  obtain ⟨code, asked, tells, tried⟩ := bind_eq_ok.mp run
  obtain ⟨outcome, _, compared, ended⟩ := bind_eq_ok.mp tried
  split at ended
  · obtain ⟨_, _, _, ended⟩ := bind_eq_ok.mp ended
    cases (pure_eq_ok.mp ended).1
  · split at ended
    · cases (pure_eq_ok.mp ended).1
    next verdict isMatch =>
      obtain ⟨same, rfl⟩ := pure_eq_ok.mp ended
      cases same
      exact ⟨verdict, ⟨⟨_, code, asked, tells, attempt_eq_ok.mp compared⟩, isMatch⟩, rfl⟩

/-- Candidates that have been tried in turn, all in vain. -/
inductive Passes (logger : Logger) (resolver : Resolver) (chain : Chain) (compiled : Compiled)
    (world : World) : List Json → Session → Session → Prop
  | none (session : Session) : Passes logger resolver chain compiled world [] session session
  | next {candidate : Json} {rest : List Json} {address reason : String}
      {before after final : Session} (checks : Address.checksumValue candidate = .ok address)
      (fails : tryCandidate logger resolver chain compiled address world before
        = (.ok (.error reason), after))
      (others : Passes logger resolver chain compiled world rest after final) :
      Passes logger resolver chain compiled world (candidate :: rest) before final

/-- A match is the first: the candidates before it have been tried in vain. -/
theorem tryEach_eq_ok {single : Bool} {message : Option String} {candidates : List Json}
    {result : MatchResult}
    (returned : tryEach logger resolver chain compiled single message candidates world session
      = (.ok result, final)) (isMatch : result.status ≠ .none) :
    ∃ earlier candidate later address verdict before,
      candidates = earlier ++ candidate :: later ∧
      Passes logger resolver chain compiled world earlier session before ∧
      Address.checksumValue candidate = .ok address ∧
      Found logger resolver chain compiled world address verdict before final ∧
      result = ⟨some address, verdict.status, verdict.constructorArgs, none⟩ := by
  induction candidates generalizing message session with
  | nil =>
    cases (pure_eq_ok.mp returned).1
    exact absurd rfl isMatch
  | cons candidate rest ih =>
    obtain ⟨address, _, checked, returned⟩ := bind_eq_ok.mp returned
    obtain ⟨checks, rfl⟩ := ofExcept_eq_ok.mp checked
    obtain ⟨tried, after, outcome, returned⟩ := bind_eq_ok.mp returned
    split at returned
    · obtain ⟨rfl, rfl⟩ := pure_eq_ok.mp returned
      obtain ⟨verdict, found, named⟩ := tryCandidate_eq_ok outcome
      exact ⟨[], candidate, rest, address, verdict, _, rfl, .none _, checks, found, named⟩
    · obtain ⟨earlier, other, later, address', verdict, before, rfl, passes, checks', found, named⟩ :=
        ih returned
      exact ⟨candidate :: earlier, other, later, address', verdict, before, rfl,
        .next checks outcome passes, checks', found, named⟩

theorem isAmong_of_tryEach {single : Bool} {message : Option String} {candidates : List Json}
    {result : MatchResult}
    (returned : tryEach logger resolver chain compiled single message candidates world session
      = (.ok result, final)) :
    result.IsAmong candidates := by
  induction candidates generalizing message session with
  | nil =>
    cases (pure_eq_ok.mp returned).1
    exact ⟨nofun, nofun⟩
  | cons candidate rest ih =>
    obtain ⟨address, _, checked, returned⟩ := bind_eq_ok.mp returned
    obtain ⟨tried, _, outcome, returned⟩ := bind_eq_ok.mp returned
    split at returned
    · cases (pure_eq_ok.mp returned).1
      obtain ⟨verdict, ⟨⟨_, _, _, _, compared⟩, _⟩, rfl⟩ := tryCandidate_eq_ok outcome
      refine ⟨fun other same => ⟨candidate, List.mem_cons_self, ?_⟩,
        args_ne_empty_of_compareValues compared⟩
      rw [(ofExcept_eq_ok.mp checked).1, Option.some.inj same]
    · obtain ⟨found, args⟩ := ih returned
      refine ⟨fun other same => ?_, args⟩
      obtain ⟨listed, member, checked⟩ := found other same
      exact ⟨listed, List.mem_cons_of_mem _ member, checked⟩

end Matching

theorem Json.mem_items_of_select {value item : Json} {place : Int} {items : List Json}
    (listed : value.items = .ok items) (selected : value.select (.int place) = .ok item) :
    item ∈ items := by
  -- Lists and texts number their items in the same way.
  have fromList (kind : String) (all : List Json) (selected : itemAt kind all (.int place) = .ok item) :
      item ∈ all := by
    unfold itemAt at selected
    split at selected
    · cases selected
    · split at selected
      · cases selected
      · split at selected
        next found => cases selected; exact List.mem_of_getElem? found
        · cases selected
  unfold select at selected
  unfold Json.items at listed
  cases value with
  | array all =>
    cases listed
    exact fromList "list" _ selected
  | string text =>
    cases listed
    exact fromList "str" _ selected
  | unpaired text =>
    cases listed
    exact fromList "str" _ selected
  | object members => cases selected
  | _ => cases listed

namespace Verification

variable {verifier : Verifier} {logger : Logger} {request : VerificationRequest}
  {accepted : Accepted}

/-- What an accepted request is like. -/
structure Accepted.Fits (request : VerificationRequest) (accepted : Accepted) : Prop where
  chain : request.chain = .string accepted.chain
  addresses : accepted.addresses = request.addresses
  items : request.addresses.items = .ok accepted.candidates
  texts : ∀ candidate ∈ accepted.candidates, ∃ text, candidate = .string text

theorem fits_of_accept (returned : accept request = .ok accepted) : accepted.Fits request := by
  unfold accept at returned
  split at returned
  · cases returned
  split at returned
  · cases returned
  next candidates listed =>
    split at returned
    · cases returned
    split at returned
    · cases returned
    next allAddresses =>
      split at returned
      next chain named =>
        split at returned
        · cases returned
        · cases returned
          refine ⟨named, rfl, listed, ?_⟩
          intro candidate member
          -- A candidate that is no text would have been found to be no address.
          have isAddress := List.find?_eq_none.mp allAddresses candidate member
          cases candidate with
          | string text => exact ⟨text, rfl⟩
          | _ => exact absurd rfl isAddress
      · cases returned

/-- Known code is compared once, for the only candidate. -/
theorem compareKnown_eq_ok {code : Json} {artifact : CompiledArtifact} {matched : MatchResult}
    (returned : compareKnown verifier logger request accepted code artifact world session
      = (.ok matched, final)) :
    ∃ candidate address verdict, accepted.candidates.length = 1 ∧
      accepted.addresses.select (.int 0) = .ok candidate ∧
      Address.checksumValue candidate = .ok address ∧
      compareValues code request.creationData artifact.runtime artifact.creation
        (creationDataOnChain verifier logger accepted.chain address) world session
        = (.ok verdict, final) ∧
      matched = ⟨some address, verdict.status, verdict.constructorArgs, none⟩ := by
  unfold compareKnown at returned
  split at returned
  · obtain ⟨_, _, _, returned⟩ := bind_eq_ok.mp returned
    exact absurd returned fail_ne_ok
  next single =>
    obtain ⟨candidate, _, selected, returned⟩ := bind_eq_ok.mp returned
    obtain ⟨selects, rfl⟩ := ofShape_eq_ok.mp selected
    obtain ⟨address, _, checked, returned⟩ := bind_eq_ok.mp returned
    obtain ⟨checks, rfl⟩ := ofExcept_eq_ok.mp checked
    obtain ⟨verdict, _, compared, returned⟩ := bind_eq_ok.mp returned
    obtain ⟨rfl, rfl⟩ := pure_eq_ok.mp returned
    exact ⟨candidate, address, verdict, Decidable.not_not.mp single, selects, checks, compared, rfl⟩

/-- The candidate that is asked for by its place is one of the candidates. -/
theorem mem_candidates_of_select {candidate : Json} (fits : accepted.Fits request)
    (selected : accepted.addresses.select (.int 0) = .ok candidate) :
    candidate ∈ accepted.candidates := by
  have listed := fits.items
  rw [← fits.addresses] at listed
  exact Json.mem_items_of_select listed selected

theorem isAmong_of_compareKnown {code : Json} {artifact : CompiledArtifact} {result : MatchResult}
    (fits : accepted.Fits request)
    (returned : compareKnown verifier logger request accepted code artifact world session
      = (.ok result, final)) :
    result.IsAmong accepted.candidates := by
  obtain ⟨candidate, address, verdict, -, selected, checked, compared, rfl⟩ :=
    compareKnown_eq_ok returned
  refine ⟨fun other same => ⟨candidate, mem_candidates_of_select fits selected, ?_⟩,
    args_ne_empty_of_compareValues compared⟩
  rw [checked, Option.some.inj same]

/-- Whatever code a request is about, a match is about one of its candidates. -/
theorem isAmong_of_matchCode {chain : Option Chain} {artifact : CompiledArtifact}
    {result : MatchResult} (fits : accepted.Fits request)
    (returned : matchCode verifier logger request accepted chain artifact world session
      = (.ok result, final)) :
    result.IsAmong accepted.candidates := by
  unfold matchCode at returned
  cases known : knownCode? request with
  | some code =>
    rw [known] at returned
    exact isAmong_of_compareKnown fits returned
  | none =>
    rw [known] at returned
    cases chain with
    | some chain => exact Matching.isAmong_of_tryEach returned
    | none =>
      cases (pure_eq_ok.mp returned).1
      exact ⟨nofun, nofun⟩

end Verification

end SourceAttest
