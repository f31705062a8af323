import SourceAttest.Proofs.Compiler.Faults
import SourceAttest.Proofs.Json.RoundTrip
import SourceAttest.Proofs.Verification.Faults
import SourceAttest.Proofs.Verification.Reports
import SourceAttest.Proofs.Verification.Unregistered
import SourceAttest.Proofs.Verification.VerifyingAgain

/-!
# Every outcome is on record

A verification ends with a report of its outcome: of the contract and its status if it returns, or of
the fault if it is one that the verification itself has named. A request that is not even accepted leaves
no report. The main result is `outcome_is_recorded`.
-/
namespace SourceAttest

open SourceAttest.Action

/-- The kinds of faults that a verification reports before it fails with them. -/
def FaultKind.ofRecord : List FaultKind := [.chainNotFound, .compilation, .noMatch, .persistence]

/-- A fault that is passed on as it is: neither one that is reported nor one of an invalid request. -/
def Fault.IsPassedOn (fault : Fault) : Prop := fault.kind ∉ FaultKind.validation :: FaultKind.ofRecord

theorem Fault.admits_isPassedOn : Fault.Admits Fault.IsPassedOn := by
  have apart : ∀ kind ∈ FaultKind.ofMatching, kind ∉ FaultKind.validation :: FaultKind.ofRecord := by
    decide
  exact fun fault => apart fault.kind

theorem ShapeFault.isPassedOn (why : ShapeFault) : (Fault.shape why).IsPassedOn :=
  Fault.admits_isPassedOn.shape why

theorem Fault.IsOfCompiling.isPassedOn {fault : Fault} (ofCompiling : fault.IsOfCompiling)
    (other : fault.kind ≠ .compilation) : fault.IsPassedOn := by
  rcases ofCompiling with ⟨why, rfl⟩ | ⟨why, rfl⟩ | ⟨why, rfl⟩
  · exact absurd rfl other
  · exact why.isPassedOn
  · have among : ∀ kind ∈ [FaultKind.depth, .value], kind ∈ FaultKind.ofMatching := by decide
    refine Fault.admits_isPassedOn _ (among _ ?_)
    cases why <;> simp [Fault.kind]

theorem Fault.IsIncidental.isPassedOn {fault : Fault} (incidental : fault.IsIncidental)
    (other : fault.kind ≠ .persistence) : fault.IsPassedOn := by
  have known : ∀ kind ∈ FaultKind.validation :: FaultKind.ofRecord,
      kind ∈ FaultKind.ofStages ∨ kind = .persistence := by decide
  intro member
  rcases known _ member with ofStage | same
  · exact incidental ofStage
  · exact other same

theorem Fetcher.failsOnly_own (logger : Logger) (contract : Contract) :
    (own logger contract).FailsOnly Fault.IsOfCompiling :=
  .bind (.ask _) fun _ => Contract.failsOnly_complete ..

/-! ### Records -/

/-- Since the first session events have been reported, and this one was the last. -/
def Session.Closes (last : Event) (before after : Session) : Prop :=
  ∃ earlier, after.events = before.events ++ (earlier ++ [last])

theorem Session.Reports.closes {logger : Logger} {last : Event} {before middle after : Session}
    (early : before.Reports logger middle) (closes : middle.Closes last after) :
    before.Closes last after := by
  obtain ⟨reported, isMiddle, -⟩ := early
  obtain ⟨later, isAfter⟩ := closes
  refine ⟨reported ++ later, ?_⟩
  rw [isAfter, isMiddle, List.append_assoc, List.append_assoc]

namespace Verification

/-- A fault of a request is on record: an error on the chain of the request has been reported last, and
the message of the fault begins with the name of the contract. -/
structure Refused (request : VerificationRequest) (fault : Fault) (before after : Session) : Prop where
  closes : ∃ last : Event, before.Closes last after ∧ last.level = .error ∧
    Table.get? "chain" last.fields = some request.chain
  named : ∃ rest, fault.message = "Contract name: " ++ request.contract.name.plain ++ ". " ++ rest

/-- An action accounts for its faults. None of them blames the form of the request, and those of the
kinds of record are on record. -/
structure Accounts {α : Type} (request : VerificationRequest) (action : Action α) : Prop where
  valid : action.FailsOnly (·.kind ≠ .validation)
  refuses : ∀ {world session fault final}, action world session = (.error fault, final) →
    fault.kind ∈ FaultKind.ofRecord → Refused request fault session final

section

variable {α β : Type} {request : VerificationRequest} {logger : Logger}

theorem Refused.after {fault : Fault} {before middle after : Session}
    (refused : Refused request fault middle after) (early : before.Reports logger middle) :
    Refused request fault before after := by
  obtain ⟨⟨last, closes, rest⟩, named⟩ := refused
  exact ⟨⟨last, early.closes closes, rest⟩, named⟩

namespace Accounts

theorem of_passedOn {action : Action α} (passesOn : action.FailsOnly Fault.IsPassedOn) :
    Accounts request action where
  valid := passesOn.mono fun _ passedOn kind => passedOn (kind ▸ List.mem_cons_self)
  refuses run member :=
    absurd (List.mem_cons_of_mem _ member) (passesOn.faults (congrArg Prod.fst run))

/-- A fault of the contract that is reported on the chain of the request is accounted for. -/
theorem of_report {text : String} {fields : Table String Json} {why : Fault}
    (onChain : Table.get? "chain" fields = some request.chain) (kind : why.kind ≠ .validation) :
    Accounts request (logger.error text fields >>= fun _ =>
      (Action.fail (.ofContract request.contract.name why) : Action α)) := by
  refine ⟨.bind (.report ..) fun _ => .fail kind, fun run _ => ?_⟩
  cases run
  exact ⟨⟨_, ⟨[], rfl⟩, rfl, onChain⟩, why.message, rfl⟩

theorem bind_of {action : Action α} {next : α → Action β} (reports : action.ReportsAs logger)
    (first : Accounts request action)
    (second : ∀ value, (∃ world session, (action world session).1 = .ok value) →
      Accounts request (next value)) : Accounts request (action >>= next) where
  valid := first.valid.bind_of fun value reached => (second value reached).valid
  refuses run member := by
    -- What the first part has reported stands before the last event of the second one.
    rcases bind_cases run with ⟨why, same, fails⟩ | ⟨value, middle, returned, run⟩
    · cases same
      exact first.refuses fails member
    · exact ((second value ⟨_, _, congrArg Prod.fst returned⟩).refuses run member).after
        (reports.reports_eq returned)

/-- What is done about a fault accounts for it, if it does so for all faults that the action may have. -/
theorem attempt_bind {action : Action α} {next : Except Fault α → Action β} {allowed : Fault → Prop}
    (reports : action.ReportsAs logger) (limited : action.FailsOnly allowed)
    (returned : ∀ value, Accounts request (next (.ok value)))
    (failed : ∀ fault, allowed fault → Accounts request (next (.error fault))) :
    Accounts request (action.attempt >>= next) := by
  have never : action.attempt.FailsOnly Fault.IsPassedOn := .attempt action
  refine bind_of reports.attempt (of_passedOn never) fun outcome reached => ?_
  obtain ⟨world, session, run⟩ := reached
  rw [attempt_run] at run
  cases outcome with
  | ok value => exact returned value
  | error fault => exact failed fault (limited.faults (Except.ok.inj run))

end Accounts

end

/-! ### Stages -/

section

variable {verifier : Verifier} {request : VerificationRequest} {accepted : Accepted} {logger : Logger}
  {artifact : CompiledArtifact} {world : World} {session final : Session}

/-- A request that is not accepted is invalid, or its addresses have another shape. -/
theorem kind_not_mem_of_accept {fault : Fault} (refused : accept request = .error fault) :
    fault.kind ∉ FaultKind.ofRecord := by
  cases items : request.addresses.items with
  | ok candidates =>
    rw [kind_of_accept (fun _ => ⟨candidates, items⟩) refused]
    decide
  | error why =>
    -- Addresses that count as absent are missing, and others have to be listed before anything else.
    rw [accept, items] at refused
    split at refused
    · cases refused
      decide
    · cases refused
      exact fun member => why.isPassedOn (List.mem_cons_of_mem _ member)

section

variable (fits : accepted.Fits request)

include fits

theorem get?_subject (later : List (String × Json)) :
    Table.get? "chain" (subject accepted ++ later) = some request.chain := by
  rw [fits.chain]
  rfl

theorem accounts_chainOf : Accounts request (chainOf verifier logger request accepted) := by
  unfold chainOf
  split
  · exact .of_passedOn (.pure _)
  · split
    · exact .of_passedOn (.pure _)
    next fault missing =>
      have kind : fault.kind = .chainNotFound := by
        rw [ChainRegistry.chain] at missing
        split at missing
        next unread => cases unread
        · cases missing
        · cases missing
          rfl
      refine .of_report (get?_subject fits _) ?_
      rw [kind]
      decide

theorem accounts_compileOrRefuse {path : Option String} (fetcher : verifier.fetch = Fetcher.own)
    (compiler : verifier.recompile = Compiler.recompile path) :
    Accounts request (compileOrRefuse verifier logger request.contract accepted) := by
  have fetches : (completed verifier logger request.contract).FailsOnly Fault.IsOfCompiling := by
    unfold completed
    split
    · exact .pure _
    · exact fetcher ▸ Fetcher.failsOnly_own ..
  have limited : (compiled verifier logger request.contract).FailsOnly Fault.IsOfCompiling := by
    refine .bind fetches fun _ => ?_
    rw [compiler]
    exact .bind (Compiler.failsOnly_recompile ..) fun _ => .pure _
  have reports : (compiled verifier logger request.contract).ReportsAs logger :=
    reportsAs_compiled (fun _ => fetcher ▸ Fetcher.reportsAs_own ..)
      (fun _ _ => compiler ▸ (Compiler.asksAs_recompile ..).reportsAs) _
  refine .attempt_bind reports limited (fun _ => .of_passedOn (.pure _)) fun fault ofCompiling => ?_
  dsimp only
  split
  next kind =>
    refine .of_report (get?_subject fits _) ?_
    rw [kind]
    decide
  next other => exact .of_passedOn (.fail (ofCompiling.isPassedOn other))

theorem accounts_matchCode (own : verifier.resolver = Resolver.own) (chain : Option Chain) :
    Accounts request (matchCode verifier logger request accepted chain artifact) := by
  have limited (chain : Chain) (address : String) :
      (verifier.resolver logger chain address).FailsOnly Fault.IsPassedOn := by
    rw [own]
    refine (Resolver.failsOnly_own ..).mono fun fault missing => Fault.admits_isPassedOn _ ?_
    rw [missing]
    decide
  unfold matchCode
  -- Whatever goes wrong in comparing is passed on. Only known code of several addresses is refused.
  split
  next code _ =>
    by_cases one : accepted.candidates.length = 1
    · exact .of_passedOn (failsOnly_compareKnown_of_one Fault.admits_isPassedOn limited one code)
    · rw [compareKnown, if_pos one]
      refine .of_report ?_ (by decide)
      rw [fits.chain]
      rfl
  · exact .of_passedOn (Matching.failsOnly_tryEach Fault.admits_isPassedOn ..)
  · exact .of_passedOn (.pure _)

theorem accounts_conclude {contract : Contract} (named : contract.name = request.contract.name)
    (matched : MatchResult) :
    Accounts request (conclude verifier logger accepted contract artifact matched) := by
  have noMatch : Accounts request (conclude.noMatch logger accepted contract matched) := by
    rw [conclude.noMatch, named]
    exact .of_report (get?_subject fits []) fun same => by cases same
  have stores (address : String) (verdict : Verdict) : Accounts request
      (storeOrRefuse verifier logger accepted address contract artifact verdict) := by
    refine .attempt_bind (reportsAs_storeRecord ..) (failsOnly_storeRecord ..)
      (fun _ => .of_passedOn (.pure _)) fun fault incidental => ?_
    dsimp only
    -- A file that cannot be written is reported; a value that makes no file is passed on.
    split
    next kind =>
      rw [refuse, named]
      refine .of_report ?_ ?_
      · rw [fits.chain]
        rfl
      · rw [kind]
        decide
    next other => exact .of_passedOn (.fail (incidental.isPassedOn other))
  unfold conclude
  split
  · exact noMatch
  · exact noMatch
  · exact .bind_of (reportsAs_storeOrRefuse ..) (stores ..) fun _ _ =>
      .of_passedOn (.bind (.report ..) fun _ => .pure _)

end

/-- A stored match is reported last, with the status that it has been stored with. -/
theorem closes_of_conclude {contract : Contract} {matched result : MatchResult}
    (returned : conclude verifier logger accepted contract artifact matched world session
      = (.ok result, final)) :
    ∃ address, result.address = some address ∧
      session.Closes ⟨.info, logger, "Verified contract", [place, ("chain", .string accepted.chain),
        ("address", .string address), ("status", .string result.status.text)]⟩ final := by
  obtain ⟨address, status, args, message⟩ := matched
  cases address with
  | none =>
    cases status with
    | _ => exact absurd returned noMatch_ne_ok
  | some address =>
    cases status with
    | none => exact absurd returned noMatch_ne_ok
    -- Both kinds of match go on in the same way.
    | _ =>
      obtain ⟨recorded, middle, stored, returned⟩ := bind_eq_ok.mp returned
      cases returned
      exact ⟨address, rfl, ((reportsAs_storeOrRefuse ..).reports_eq stored).closes ⟨[], rfl⟩⟩

end

/-! ### Outcomes -/

/-- How the outcome of a verification is on record. -/
structure OnRecord (verifier : Verifier) (request : VerificationRequest) (before after : Session)
    (outcome : Except Fault MatchResult) : Prop where
  /-- All events of the verification carry its number. -/
  own : before.Reports (nextLogger verifier before) after
  verified : ∀ result, outcome = .ok result → ∃ address, result.address = some address ∧
    before.Closes ⟨.info, nextLogger verifier before, "Verified contract", [place,
      ("chain", request.chain), ("address", .string address),
      ("status", .string result.status.text)]⟩ after
  refused : ∀ fault, outcome = .error fault → fault.kind ∈ FaultKind.ofRecord →
    Refused request fault before after
  invalid : ∀ fault, outcome = .error fault → fault.kind = .validation →
    after.events = before.events

section

variable {verifier : Verifier} {request : VerificationRequest} {world : World}
  {session middle final : Session} {path : Option String}

/-- Nothing is reported of a request that is not accepted. -/
theorem onRecord_of_refusal {fault : Fault} (refuses : accept request = .error fault) :
    OnRecord verifier request session session (.error fault) where
  own := .of_same rfl
  verified _ returned := by cases returned
  refused _ same member := by
    cases same
    exact absurd member (kind_not_mem_of_accept refuses)
  invalid _ _ _ := rfl

/-- An action that accounts for its faults ends the verification with one of them. -/
theorem onRecord_of_fault {α : Type} {action : Action α} {fault : Fault}
    (early : session.Reports (nextLogger verifier session) middle)
    (reports : action.ReportsAs (nextLogger verifier session)) (accounts : Accounts request action)
    (fails : action world middle = (.error fault, final)) :
    OnRecord verifier request session final (.error fault) where
  own := early.trans (reports.reports_eq fails)
  verified _ returned := by cases returned
  refused _ same member := by
    cases same
    exact (accounts.refuses fails member).after early
  invalid _ same kind := by
    cases same
    exact absurd kind (accounts.valid.faults (congrArg Prod.fst fails))

theorem onRecord_of_result {result : MatchResult} {address : String}
    (own : session.Reports (nextLogger verifier session) final)
    (named : result.address = some address)
    (closes : session.Closes ⟨.info, nextLogger verifier session, "Verified contract", [place,
      ("chain", request.chain), ("address", .string address),
      ("status", .string result.status.text)]⟩ final) :
    OnRecord verifier request session final (.ok result) where
  own := own
  verified _ same := by
    cases same
    exact ⟨address, named, closes⟩
  refused _ failed := by cases failed
  invalid _ failed := by cases failed

/-- Every outcome of a verification is on record, whatever the world answers. All that is reported
carries the number of the verification. If it returns, the last event tells the address and the status;
if it fails for want of a chain, in compiling, for want of a match or in storing, the last event is an
error on the chain of the request, and the message names the contract. Nothing is reported of an invalid
request. -/
theorem outcome_is_recorded {outcome : Except Fault MatchResult}
    (own : verifier.resolver = Resolver.own) (fetcher : verifier.fetch = Fetcher.own)
    (compiler : verifier.recompile = Compiler.recompile path)
    (run : verify verifier request world session = (outcome, final)) :
    OnRecord verifier request session final outcome := by
  have fetches {logger : Logger} (contract : Contract) :
      (verifier.fetch logger contract).ReportsAs logger := fetcher ▸ Fetcher.reportsAs_own ..
  have compiles {logger : Logger} (metadata sources : Json) :
      (verifier.recompile logger metadata sources).ReportsAs logger :=
    compiler ▸ (Compiler.asksAs_recompile ..).reportsAs
  have resolves {logger : Logger} (chain : Chain) (address : String) :
      (verifier.resolver logger chain address).ReportsAs logger :=
    own ▸ Resolver.reportsAs_own ..
  have begins : session.Reports (nextLogger verifier session) (begun session) := .of_same rfl
  -- Whichever stage ends the verification, the reports of the earlier ones come first.
  cases exits_of_verify run with
  | refused refuses => exact onRecord_of_refusal refuses
  | unsupported accepts fails =>
    have fits := fits_of_accept accepts
    exact onRecord_of_fault begins (reportsAs_chainOf ..) (accounts_chainOf fits) fails
  | uncompiled accepts finds fails =>
    have fits := fits_of_accept accepts
    have early := begins.trans ((reportsAs_chainOf ..).reports_eq finds)
    exact onRecord_of_fault early (reportsAs_compileOrRefuse fetches compiles ..)
      (accounts_compileOrRefuse fits fetcher compiler) fails
  | unmatched accepts finds compiled fails =>
    have fits := fits_of_accept accepts
    have early := (begins.trans ((reportsAs_chainOf ..).reports_eq finds)).trans
      ((reportsAs_compileOrRefuse fetches compiles ..).reports_eq compiled)
    exact onRecord_of_fault early (reportsAs_matchCode resolves ..)
      (accounts_matchCode fits own _) fails
  | concluded stages concludes =>
    obtain ⟨accepted, number, chain, contract, artifact, matched, begun, resolved, compiled, found,
      accepts, numbers, finds, isCompiled, matches'⟩ := stages
    cases numbers
    have fits := fits_of_accept accepts
    have early := ((begins.trans ((reportsAs_chainOf ..).reports_eq finds)).trans
      ((reportsAs_compileOrRefuse fetches compiles ..).reports_eq isCompiled)).trans
      ((reportsAs_matchCode resolves ..).reports_eq matches')
    cases outcome with
    | error fault =>
      have completes := completes_of_compileOrRefuse (fetcher ▸ Fetcher.completes_own) isCompiled
      exact onRecord_of_fault early (reportsAs_conclude ..)
        (accounts_conclude fits completes.name matched) concludes
    | ok result =>
      obtain ⟨address, named, closes⟩ := closes_of_conclude concludes
      have closing := early.closes closes
      rw [← fits.chain] at closing
      exact onRecord_of_result (early.trans ((reportsAs_conclude ..).reports_eq concludes)) named closing

end

/-! ### Two runs -/

namespace Sample

/-- A verifier with the compiler and the search for creation data of the library. -/
def wired : Verifier :=
  { verifier with recompile := Compiler.recompile none, resolver := Resolver.own }

/-- A contract without sources, whose document names its target. -/
def targeted : VerificationRequest :=
  { request with
    contract := ⟨.string "A", "a.sol",
      .object [("settings", .object [("compilationTarget", .object [("a.sol", .string "A")])])], [], []⟩ }

def accepted : Accepted := ⟨"1", request.addresses, [.string address]⟩

def uncompiled : Fault := .ofContract (.string "A") (.compilation (.compilerNotFound "solc"))

/-- What a compiler writes of the target. -/
def output : Json := .object [("contracts", .object [("a.sol", .object [("A", .object [
  ("evm", .object [
    ("deployedBytecode", .object [("object", .string "6001a165627a7a723041010009")]),
    ("bytecode", .object [("object", .string "")])]),
  ("metadata", .string "metadata")])])])]

/-- A world with a compiler. -/
def supplied : World := { world with compiler := fun _ => .finished output.write }

theorem read_output : Json.read output.write = .ok output := by
  have exact : Json.Exact output := by simp [output, Table.keys]
  exact (Json.renders_write exact).read (by decide)

theorem recompile_targeted (logger : Logger) (session : Session) :
    ∃ compiled, Compiler.recompile none logger targeted.contract.metadata (.object []) supplied session
      = (.ok artifact, compiled) := by
  have target : Contract.target (.compilation .targetNotSingle) targeted.contract.metadata
      = .ok ("a.sol", .string "A") := rfl
  obtain ⟨input, made⟩ : ∃ input,
      Compiler.standardInput targeted.contract.metadata (.object []) = .ok input := ⟨_, rfl⟩
  have finished : supplied.compiler ⟨Compiler.choose none supplied.environment, input.write⟩
      = .finished output.write := rfl
  have offered : Compiler.artifactOf "a.sol" (.string "A") output = .ok artifact := rfl
  have returned : (Compiler.recompile none logger targeted.contract.metadata (.object []) supplied
      session).1 = .ok artifact := by
    rw [Compiler.recompile_run target made, finished, Compiler.runOutcome,
      Compiler.outputOf_of_read read_output]
    exact offered
  cases run : Compiler.recompile none logger targeted.contract.metadata (.object []) supplied session with
  | mk outcome compiled =>
    rw [run] at returned
    exact ⟨compiled, congrArg (·, compiled) returned⟩

theorem compileOrRefuse_targeted (logger : Logger) (session : Session) :
    ∃ compiled, compileOrRefuse wired logger targeted.contract accepted supplied session
        = (.ok (targeted.contract, artifact), compiled) ∧ compiled.tree = session.tree := by
  obtain ⟨compiled, recompiles⟩ := recompile_targeted logger session
  have completes : completed wired logger targeted.contract supplied session
      = (.ok targeted.contract, session) := rfl
  exact ⟨compiled, compileOrRefuse_of_completed completes recompiles,
    (Compiler.onlyAsks_recompile none ..).keepsTree.tree_eq recompiles⟩

theorem matchCode_targeted (logger : Logger) (session : Session) :
    matchCode wired logger targeted accepted none artifact supplied session = (.ok result, session) :=
  bind_eq_ok.mpr ⟨.string address, _, rfl, bind_eq_ok.mpr ⟨address, _,
    ofExcept_eq_ok.mpr ⟨checksum_address, rfl⟩, bind_eq_ok.mpr ⟨⟨.exact, none⟩, _, rfl, rfl⟩⟩⟩

theorem stored_targeted : (storing [] []).1.toOption = some .exact := by
  simp only [storing, storeRecord, saveDocument, published, requestFor, request, saveSources,
    Store.save, Store.saveAt]
  unfold Store.write Store.deletePartial
  simp only [Path.hasNul_eq]
  decide +kernel

/-- What is stored depends on the tree alone. -/
theorem conclude_targeted (logger : Logger) {session : Session} (empty : session.tree = []) :
    ∃ final, conclude wired logger accepted targeted.contract artifact result supplied session
      = (.ok result, final) := by
  have run : storing [] [] = (.ok .exact, _) := eq_ok_of_toOption stored_targeted
  obtain ⟨document, read, -, stores⟩ := stores_of_storeRecord run
  have stores' : (planOf wired.store "1" address targeted.contract artifact ⟨.exact, none⟩
      document).Stores wired.store session.tree (storing [] []).2.tree := by
    rw [empty]
    exact stores
  obtain ⟨middle, stored, -⟩ := storeRecord_of_stores logger supplied read stores'
  have status : recordedStatus artifact.runtime .exact = .exact := by
    rw [recordedStatus, published]
  rw [status] at stored
  have isMatch : result.status ≠ .none := by decide
  obtain ⟨final, concludes, -⟩ : ∃ final,
      conclude wired logger accepted targeted.contract artifact result supplied session
        = (.ok result, final) ∧ final.tree = middle.tree := conclude_of_stored isMatch rfl stored
  exact ⟨final, concludes⟩

theorem verify_targeted :
    ∃ final, verify wired targeted supplied (Session.fresh []) = (.ok result, final) := by
  have accepts : accept targeted = .ok accepted := rfl
  have known : chainOf wired (loggerOf wired 1) targeted accepted supplied (begun (Session.fresh []))
      = (.ok none, begun (Session.fresh [])) := rfl
  obtain ⟨compiled, compiles, kept⟩ :=
    compileOrRefuse_targeted (loggerOf wired 1) (begun (Session.fresh []))
  obtain ⟨final, concludes⟩ := conclude_targeted (loggerOf wired 1) kept
  refine ⟨final, ?_⟩
  rw [verify, accepts]
  exact (bind_of_ok (nextVerification_run ..)).trans <| (bind_of_ok known).trans <|
    (bind_of_ok compiles).trans <| (bind_of_ok (matchCode_targeted ..)).trans concludes

end Sample

/-- With a compiler the contract is verified, and the last event says so. Without one, the last event is
of that fault. -/
theorem outcome_is_recorded_with_and_without_compiler :
    (∃ final, verify Sample.wired Sample.targeted Sample.supplied (Session.fresh [])
        = (.ok Sample.result, final) ∧
      (Session.fresh []).Reports (loggerOf Sample.wired 1) final ∧
      (Session.fresh []).Closes ⟨.info, loggerOf Sample.wired 1, "Verified contract", [place,
        ("chain", .string "1"), ("address", .string Sample.address),
        ("status", .string MatchStatus.exact.text)]⟩ final) ∧
    ∃ final, verify Sample.wired Sample.targeted Sample.world (Session.fresh [])
        = (.error Sample.uncompiled, final) ∧
      Refused Sample.targeted Sample.uncompiled (Session.fresh []) final := by
  constructor
  · obtain ⟨final, run⟩ := Sample.verify_targeted
    have recorded := outcome_is_recorded rfl rfl rfl run
    obtain ⟨address, named, closes⟩ := recorded.verified _ rfl
    cases named
    exact ⟨final, run, recorded.own, closes⟩
  · have run : verify Sample.wired Sample.targeted Sample.world (Session.fresh [])
        = (.error Sample.uncompiled,
          (verify Sample.wired Sample.targeted Sample.world (Session.fresh [])).2) := rfl
    have recorded := outcome_is_recorded rfl rfl rfl run
    exact ⟨_, run, recorded.refused _ rfl (by decide)⟩

end Verification

end SourceAttest
