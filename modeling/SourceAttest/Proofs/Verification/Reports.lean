import SourceAttest.Proofs.Comparison.Lookup
import SourceAttest.Proofs.Verification.ReadOnly

/-!
# Who reports

A verification hands its logger to everything it does, so whatever is reported on the way is reported
with the number of the verification. The main result is `reportsAs_conclude`, the last one of a family:
each stage of a verification reports by the logger it is given and by no other, provided that the
functions supplied to the verifier do.
-/
namespace SourceAttest

open SourceAttest.Action

/-- Since the first session events have been reported, all of them by this logger. -/
def Session.Reports (logger : Logger) (before after : Session) : Prop :=
  ∃ reported, after.events = before.events ++ reported ∧ ∀ event ∈ reported, event.logger = logger

namespace Session.Reports

variable {logger : Logger} {before middle after : Session}

theorem of_same (events : after.events = before.events) : Reports logger before after :=
  ⟨[], by rw [events, List.append_nil], fun _ member => absurd member List.not_mem_nil⟩

theorem trans (first : Reports logger before middle) (second : Reports logger middle after) :
    Reports logger before after := by
  obtain ⟨reported, isMiddle, all⟩ := first
  obtain ⟨reported', isAfter, all'⟩ := second
  refine ⟨reported ++ reported', by rw [isAfter, isMiddle, List.append_assoc], ?_⟩
  exact List.forall_mem_append.mpr ⟨all, all'⟩

end Session.Reports

/-- Whatever comes of an action, it reports by one logger and no other. -/
structure Action.ReportsAs {α : Type} (logger : Logger) (action : Action α) : Prop where
  reports : ∀ (world : World) (session : Session), session.Reports logger (action world session).2

namespace Action.ReportsAs

variable {α β : Type} {logger : Logger}

theorem reports_eq {action : Action α} {world : World} {session final : Session}
    {outcome : Except Fault α} (reportsAs : action.ReportsAs logger)
    (run : action world session = (outcome, final)) : session.Reports logger final := by
  have reported := reportsAs.reports world session
  rwa [run] at reported

theorem pure (value : α) : (Pure.pure value : Action α).ReportsAs logger :=
  ⟨fun _ _ => .of_same rfl⟩

theorem fail (fault : Fault) : (Action.fail fault : Action α).ReportsAs logger :=
  ⟨fun _ _ => .of_same rfl⟩

theorem bind {action : Action α} {next : α → Action β} (first : action.ReportsAs logger)
    (second : ∀ value, (next value).ReportsAs logger) : (action >>= next).ReportsAs logger := by
  constructor
  intro world session
  cases run : action world session with
  | mk outcome middle =>
    have reported := first.reports_eq run
    cases outcome with
    | error fault =>
      rw [bind_of_error run]
      exact reported
    | ok value =>
      rw [bind_of_ok run]
      exact reported.trans ((second value).reports world middle)

theorem attempt {action : Action α} (reportsAs : action.ReportsAs logger) :
    action.attempt.ReportsAs logger := by
  constructor
  intro world session
  rw [attempt_run]
  exact reportsAs.reports world session

theorem ofExcept (outcome : Except Fault α) : (Action.ofExcept outcome).ReportsAs logger := by
  cases outcome
  · exact fail _
  · exact pure _

theorem ofShape (outcome : Except ShapeFault α) : (Action.ofShape outcome).ReportsAs logger := by
  cases outcome
  · exact fail _
  · exact pure _

theorem report (level : Level) (text : String) (fields : Table String Json) :
    (logger.report level text fields).ReportsAs logger := by
  constructor
  intro world session
  exact ⟨[⟨level, logger, text, fields⟩], rfl, List.forall_mem_singleton.mpr rfl⟩

theorem onTree (step : Tree → Except Fault α × Tree) : (Action.onTree step).ReportsAs logger :=
  ⟨fun _ _ => .of_same rfl⟩

end Action.ReportsAs

theorem Action.AsksAs.reportsAs {α : Type} {logger : Logger} {action : Action α}
    (asks : action.AsksAs logger) : action.ReportsAs logger := by
  -- Questions to the outside leave the events as they are, whatever the answer is.
  induction asks with
  | pure value => exact .pure value
  | fail fault => exact .fail fault
  | bind first second reports reports' => exact .bind reports reports'
  | attempt asks reports => exact reports.attempt
  | report level text fields => exact .report level text fields
  | call endpoint method params timeout =>
    constructor
    intro world session
    rw [Rpc.call_run]
    exact .of_same rfl
  | _ => exact ⟨fun _ _ => .of_same rfl⟩

/-! ### Matching -/

section

variable {logger : Logger}

/-- A comparison reports nothing but what the search for creation data does. -/
theorem reportsAs_compareValues (deployed creationData runtime creation : Json)
    {fetch : Action (Option String)} (fetches : fetch.ReportsAs logger) :
    (compareValues deployed creationData runtime creation fetch).ReportsAs logger := by
  constructor
  intro world session
  rcases compareValues_cases deployed creationData runtime creation with
    ⟨outcome, decides⟩ | ⟨code, compiled, created, -, -, -, -, -, looksUp⟩
  · rw [decides fetch world session]
    exact .of_same rfl
  · rw [looksUp fetch world session]
    exact fetches.reports world session

theorem Resolver.reportsAs_own (logger : Logger) (chain : Chain) (address : String) :
    (own logger chain address).ReportsAs logger :=
  ((CreationData.asksAs_resolve ..).map some).reportsAs

theorem Fetcher.reportsAs_own (logger : Logger) (contract : Contract) :
    (own logger contract).ReportsAs logger :=
  .bind (AsksAs.ask _).reportsAs fun _ => (Contract.asksAs_complete ..).reportsAs

namespace Matching

theorem reportsAs_deployedCode (logger : Logger) (chain : Chain) (address : String) :
    (deployedCode logger chain address).ReportsAs logger := by
  have asked (node : Endpoint) : (Rpc.currentCode node (.string address)).ReportsAs logger :=
    ((Rpc.asksSilently_codeAt ..).asksAs logger).reportsAs
  refine .bind (ReportsAs.bind (.ofShape _) asked).attempt fun outcome => ?_
  split
  · exact .pure _
  · split
    · exact .bind (.report ..) fun _ => .pure _
    · exact .fail _

variable {resolver : Resolver}
  (resolves : ∀ chain address, (resolver logger chain address).ReportsAs logger)

include resolves

theorem reportsAs_tryCandidate (chain : Chain) (compiled : Compiled) (address : String) :
    (tryCandidate logger resolver chain compiled address).ReportsAs logger := by
  refine .bind (.report ..) fun _ => .bind (reportsAs_deployedCode ..) fun deployed =>
    .bind (reportsAs_compareValues _ _ _ _ (resolves ..)).attempt fun outcome => ?_
  split
  · exact .bind (.report ..) fun _ => .pure _
  · split
    · exact .pure _
    · exact .pure _

theorem reportsAs_tryEach (chain : Chain) (compiled : Compiled) (single : Bool)
    (message : Option String) (candidates : List Json) :
    (tryEach logger resolver chain compiled single message candidates).ReportsAs logger := by
  induction candidates generalizing message with
  | nil => exact .pure _
  | cons candidate rest ih =>
    refine .bind (.ofExcept _) fun address =>
      .bind (reportsAs_tryCandidate resolves ..) fun outcome => ?_
    split
    · exact .pure _
    · exact ih _

end Matching

end

/-! ### Stages -/

namespace Verification

variable {verifier : Verifier} {logger : Logger}

theorem reportsAs_refuse {α : Type} (text : String) (fields : List (String × Json))
    (contract : Contract) (fault : Fault) :
    (refuse logger text fields contract fault : Action α).ReportsAs logger :=
  .bind (.report ..) fun _ => .fail _

theorem reportsAs_chainOf (request : VerificationRequest) (accepted : Accepted) :
    (chainOf verifier logger request accepted).ReportsAs logger := by
  unfold chainOf
  split
  · exact .pure _
  · split
    · exact .pure _
    · exact reportsAs_refuse ..

section

variable
  (fetches : ∀ contract, (verifier.fetch logger contract).ReportsAs logger)
  (compiles : ∀ metadata sources, (verifier.recompile logger metadata sources).ReportsAs logger)

include fetches compiles

theorem reportsAs_compiled (contract : Contract) :
    (compiled verifier logger contract).ReportsAs logger := by
  refine .bind ?_ fun _ => .bind (compiles ..) fun _ => .pure _
  unfold completed
  split
  · exact .pure _
  · exact fetches contract

theorem reportsAs_compileOrRefuse (contract : Contract) (accepted : Accepted) :
    (compileOrRefuse verifier logger contract accepted).ReportsAs logger := by
  refine .bind (reportsAs_compiled fetches compiles contract).attempt fun outcome => ?_
  split
  · exact .pure _
  · split
    · exact reportsAs_refuse ..
    · exact .fail _

end

section

variable (resolves : ∀ chain address, (verifier.resolver logger chain address).ReportsAs logger)

include resolves

theorem reportsAs_compareKnown (request : VerificationRequest) (accepted : Accepted) (code : Json)
    (artifact : CompiledArtifact) :
    (compareKnown verifier logger request accepted code artifact).ReportsAs logger := by
  have fetches (address : String) :
      (creationDataOnChain verifier logger accepted.chain address).ReportsAs logger := by
    unfold creationDataOnChain
    split
    · exact resolves ..
    · exact .fail _
  unfold compareKnown
  split
  · exact .bind (.report ..) fun _ => .fail _
  · exact .bind (.ofShape _) fun _ => .bind (.ofExcept _) fun address =>
      .bind (reportsAs_compareValues _ _ _ _ (fetches address)) fun _ => .pure _

theorem reportsAs_matchCode (request : VerificationRequest) (accepted : Accepted)
    (chain : Option Chain) (artifact : CompiledArtifact) :
    (matchCode verifier logger request accepted chain artifact).ReportsAs logger := by
  unfold matchCode
  split
  · exact reportsAs_compareKnown resolves ..
  · exact Matching.reportsAs_tryEach resolves ..
  · exact .pure _

end

theorem reportsAs_saveDocument (store : Store) (chain address : String) (status : MatchStatus)
    (artifact : CompiledArtifact) :
    (saveDocument store logger chain address status artifact).ReportsAs logger := by
  refine .bind (.ofShape _) fun hash => ?_
  split
  · exact .bind (.onTree _) fun _ => .bind (.onTree _) fun _ => .pure _
  · exact .bind (.report ..) fun _ => .pure _

theorem reportsAs_saveSources (store : Store) (quality : Quality) (chain address : String)
    (sources : List (String × Json)) :
    (saveSources store quality chain address sources).ReportsAs logger := by
  induction sources with
  | nil => exact .pure _
  | cons entry rest ih => exact .bind (.onTree _) fun _ => ih

theorem reportsAs_storeRecord (store : Store) (chain address : String) (contract : Contract)
    (artifact : CompiledArtifact) (verdict : Verdict) :
    (storeRecord store logger chain address contract artifact verdict).ReportsAs logger := by
  refine .bind (reportsAs_saveDocument ..) fun status => .bind (reportsAs_saveSources ..) fun _ =>
    .bind (.onTree _) fun _ => ?_
  split
  · dsimp only
    split
    · exact .bind (.onTree _) fun _ => .pure _
    · exact .pure _
  · exact .pure _

theorem reportsAs_storeOrRefuse (accepted : Accepted) (address : String) (contract : Contract)
    (artifact : CompiledArtifact) (verdict : Verdict) :
    (storeOrRefuse verifier logger accepted address contract artifact verdict).ReportsAs logger := by
  refine .bind (reportsAs_storeRecord ..).attempt fun outcome => ?_
  split
  · exact .pure _
  · split
    · exact reportsAs_refuse ..
    · exact .fail _

theorem reportsAs_conclude (accepted : Accepted) (contract : Contract) (artifact : CompiledArtifact)
    (result : MatchResult) :
    (conclude verifier logger accepted contract artifact result).ReportsAs logger := by
  have noMatch : (conclude.noMatch logger accepted contract result).ReportsAs logger :=
    .bind (.report ..) fun _ => .fail _
  unfold conclude
  split
  · exact noMatch
  · exact noMatch
  · exact .bind (reportsAs_storeOrRefuse ..) fun _ => .bind (.report ..) fun _ => .pure _

end Verification

end SourceAttest
