import SourceAttest.Proofs.Comparison.Lookup
import SourceAttest.Proofs.Matching
import SourceAttest.Proofs.Verification.ReadOnly

/-!
# Actions that accord

Two actions accord in a world if they come to the same outcome, whenever each of them is run. What
only asks accords with itself on a steady network, and which logger reports makes no difference. So a
contract that is completed again is the same, and code that is matched again matches the same way
(`Contract.complete_accords`, `Matching.firstMatch_accords`).
-/
namespace SourceAttest

open SourceAttest.Action

/-- Two actions that come to the same outcome, whatever has happened before each of them. -/
structure Action.Accords {α : Type} (world : World) (action other : Action α) : Prop where
  same : ∀ first second, (action world first).1 = (other world second).1

namespace Action.Accords

variable {α β : Type} {world : World} {first second final : Session}

theorem run_eq {action other : Action α} {outcome : Except Fault α} (accords : action.Accords world other)
    (run : action world first = (outcome, final)) (second : Session) :
    ∃ last, other world second = (outcome, last) := by
  have same := accords.same first second
  rw [run] at same
  exact ⟨(other world second).2, Prod.ext same.symm rfl⟩

theorem pure (value : α) : (Pure.pure value : Action α).Accords world (Pure.pure value) :=
  ⟨fun _ _ => rfl⟩

theorem fail (fault : Fault) : (Action.fail fault : Action α).Accords world (Action.fail fault) :=
  ⟨fun _ _ => rfl⟩

theorem bind {action other : Action α} {next next' : α → Action β}
    (before : action.Accords world other) (after : ∀ value, (next value).Accords world (next' value)) :
    (action >>= next).Accords world (other >>= next') := by
  constructor
  intro first second
  cases run : action world first with
  | mk outcome middle =>
    obtain ⟨last, run'⟩ := before.run_eq run second
    cases outcome with
    | error fault => rw [bind_of_error run, bind_of_error run']
    | ok value =>
      rw [bind_of_ok run, bind_of_ok run']
      exact (after value).same middle last

theorem attempt {action other : Action α} (accords : action.Accords world other) :
    action.attempt.Accords world other.attempt := by
  constructor
  intro first second
  rw [attempt_run, attempt_run, accords.same first second]

theorem ofExcept (outcome : Except Fault α) :
    (Action.ofExcept outcome).Accords world (Action.ofExcept outcome) := by
  cases outcome
  · exact fail _
  · exact pure _

theorem ofShape (outcome : Except ShapeFault α) :
    (Action.ofShape outcome).Accords world (Action.ofShape outcome) := by
  cases outcome
  · exact fail _
  · exact pure _

theorem report (logger other : Logger) (level : Level) (text : String) (fields : Table String Json) :
    (logger.report level text fields).Accords world (other.report level text fields) :=
  ⟨fun _ _ => rfl⟩

theorem map {action other : Action α} (accords : action.Accords world other) (f : α → β) :
    (f <$> action).Accords world (f <$> other) :=
  bind accords fun _ => pure _

end Action.Accords

/-- On a steady network, what only asks comes to the same whenever it is run. -/
theorem Action.OnlyAsks.accords {α : Type} {world : World} (steady : world.network.IsSteady)
    {action : Action α} (asks : action.OnlyAsks) : action.Accords world action := by
  induction asks with
  | pure value => exact .pure value
  | fail fault => exact .fail fault
  | bind first second accords accords' => exact .bind accords accords'
  | attempt asks accords => exact accords.attempt
  | report logger level text fields => exact .report ..
  | ask question => exact ⟨fun _ _ => rfl⟩
  | send request =>
    exact ⟨fun first second => congrArg Except.ok (steady.forgets first.requests second.requests _)⟩
  | call endpoint method params timeout =>
    constructor
    intro first second
    rw [Rpc.call_run, Rpc.call_run, steady.forgets first.requests second.requests,
      steady.unnumbered _ _ _ _ _ (first.rpcCalls + 1) (second.rpcCalls + 1)]
  | compile job => exact ⟨fun _ _ => rfl⟩

variable {world : World}

/-! ### Sources, creation data and the compiler -/

section Steady

variable (steady : world.network.IsSteady) (logger other : Logger)

include steady

namespace Contract

theorem fetchSource_accords (gateways : Gateways) (path hash : String) (urls : List Json) :
    (fetchSource gateways logger path hash urls).Accords world
      (fetchSource gateways other path hash urls) := by
  induction urls with
  | nil => exact .pure _
  | cons listed rest ih =>
    refine .bind (.ofShape _) fun url => .bind (.ofShape _) fun resolved => ?_
    cases resolved with
    | none => exact ih
    | some url =>
      refine .bind ((OnlyAsks.send _).accords steady) fun reply => ?_
      cases reply.accepted (.string url) with
      | error reason => exact .bind (.report ..) fun _ => ih
      | ok content =>
        dsimp only
        split
        · exact .bind (.report ..) fun _ => .pure _
        · exact .bind (.report ..) fun _ => ih

theorem fetchEach_accords (gateways : Gateways) (missing : List (String × MissingSource))
    (contract : Contract) :
    (fetchEach gateways logger missing contract).Accords world
      (fetchEach gateways other missing contract) := by
  induction missing generalizing contract with
  | nil => exact .pure _
  | cons entry rest ih =>
    refine .bind (fetchSource_accords steady logger other ..).attempt fun outcome => ?_
    rcases outcome with fault | _ | content
    · exact .pure _
    · exact ih _
    · exact ih _

/-- A contract that is completed again comes out the same, whoever reports. -/
theorem complete_accords (gateways : Gateways) (contract : Contract) :
    (contract.complete gateways logger).Accords world (contract.complete gateways other) := by
  have fetched : (fetchMissing gateways logger contract).Accords world
      (fetchMissing gateways other contract) := by
    refine .bind (fetchEach_accords steady logger other ..) fun ⟨_, fault⟩ => ?_
    cases fault with
    | some fault => exact .pure _
    | none =>
      dsimp only
      split
      · exact .pure _
      · exact .pure _
  unfold complete
  split
  · exact .pure _
  · refine .bind fetched fun ⟨_, fault⟩ => ?_
    cases fault with
    | none => exact .pure _
    | some fault => exact .fail _

end Contract

theorem Fetcher.own_accords (contract : Contract) :
    (own logger contract).Accords world (own other contract) :=
  .bind ⟨fun _ _ => rfl⟩ fun _ => Contract.complete_accords steady ..

theorem CreationData.tryEach_accords (chain : Chain) (address : Json) (strategies : List Strategy) :
    (tryEach logger chain address strategies).Accords world
      (tryEach other chain address strategies) := by
  induction strategies with
  | nil => exact .bind (.report ..) fun _ => .fail _
  | cons strategy rest ih =>
    have found := ((asksSilently_findBy strategy chain address).onlyAsks.accords steady).attempt
    refine .bind (.report ..) fun _ => .bind found fun outcome => ?_
    cases outcome with
    | ok data => exact .pure _
    | error fault => exact .bind (.report ..) fun _ => ih

theorem Resolver.own_accords (chain : Chain) (address : String) :
    (own logger chain address).Accords world (own other chain address) :=
  (CreationData.tryEach_accords steady ..).map some

omit steady in
theorem Compiler.recompile_accords (path : Option String) (metadata sources : Json) :
    (recompile path logger metadata sources).Accords world (recompile path other metadata sources) :=
  .bind ⟨fun _ _ => rfl⟩ fun _ => .bind (.ofExcept _) fun _ => .bind (.ofShape _) fun _ =>
    .bind (.report ..) fun _ => .bind (.ofExcept _) fun _ => .bind ⟨fun _ _ => rfl⟩ fun _ =>
      .bind (.ofExcept _) fun _ => .ofExcept _

end Steady

/-! ### Comparing and matching -/

theorem compareValues_accords (deployed known runtime creation : Json)
    {fetch fetch' : Action (Option String)} (accords : fetch.Accords world fetch') :
    (compareValues deployed known runtime creation fetch).Accords world
      (compareValues deployed known runtime creation fetch') := by
  constructor
  intro first second
  rcases compareValues_cases deployed known runtime creation with
    ⟨outcome, decides⟩ | ⟨_, _, created, _, _, _, _, _, looksUp⟩
  · rw [decides, decides]
  · rw [looksUp, looksUp, accords.same first second]

/-- What a verifier is supplied with answers by what it is asked alone. -/
structure Verifier.IsFixed (verifier : Verifier) (world : World) : Prop where
  recompile : ∀ logger other metadata sources,
    (verifier.recompile logger metadata sources).Accords world
      (verifier.recompile other metadata sources)
  fetch : ∀ logger other contract,
    (verifier.fetch logger contract).Accords world (verifier.fetch other contract)
  resolver : ∀ logger other chain address,
    (verifier.resolver logger chain address).Accords world (verifier.resolver other chain address)

/-- On a steady network, the library's own compiler run and searches for sources and creation data do
so. -/
theorem Verifier.isFixed_of_own {verifier : Verifier} {path : Option String}
    (steady : world.network.IsSteady) (compiles : verifier.recompile = Compiler.recompile path)
    (fetches : verifier.fetch = Fetcher.own) (resolves : verifier.resolver = Resolver.own) :
    verifier.IsFixed world := by
  constructor
  · rw [compiles]
    exact fun logger other => Compiler.recompile_accords logger other path
  · rw [fetches]
    exact Fetcher.own_accords steady
  · rw [resolves]
    exact Resolver.own_accords steady

namespace Matching

variable (steady : world.network.IsSteady) {resolver : Resolver}
  (fixed : ∀ logger other chain address,
    (resolver logger chain address).Accords world (resolver other chain address))
  (logger other : Logger) (chain : Chain) (compiled : Compiled)

include steady

theorem deployedCode_accords (address : String) :
    (deployedCode logger chain address).Accords world (deployedCode other chain address) := by
  have asked : (ofShape chain.node >>= fun node => Rpc.currentCode node (.string address)).OnlyAsks :=
    .bind (.ofShape _) fun _ => (Rpc.asksSilently_codeAt ..).onlyAsks
  refine .bind (asked.accords steady).attempt fun outcome => ?_
  cases outcome with
  | ok code => exact .pure _
  | error fault =>
    dsimp only
    split
    · exact .bind (.report ..) fun _ => .pure _
    · exact .fail _

include fixed

theorem tryCandidate_accords (address : String) :
    (tryCandidate logger resolver chain compiled address).Accords world
      (tryCandidate other resolver chain compiled address) := by
  refine .bind (.report ..) fun _ => .bind (deployedCode_accords steady logger other ..) fun deployed =>
    .bind (compareValues_accords _ _ _ _ (fixed logger other chain address)).attempt fun outcome => ?_
  cases outcome with
  | error fault => exact .bind (.report ..) fun _ => .pure _
  | ok verdict =>
    dsimp only
    split
    · exact .pure _
    · exact .pure _

theorem tryEach_accords (single : Bool) (message : Option String) (candidates : List Json) :
    (tryEach logger resolver chain compiled single message candidates).Accords world
      (tryEach other resolver chain compiled single message candidates) := by
  induction candidates generalizing message with
  | nil => exact .pure _
  | cons candidate rest ih =>
    refine .bind (.ofExcept _) fun address =>
      .bind (tryCandidate_accords steady fixed logger other ..) fun outcome => ?_
    cases outcome with
    | ok result => exact .pure _
    | error reason => exact ih _

/-- Code that is matched again matches the same candidate in the same way. -/
theorem firstMatch_accords (candidates : List Json) :
    (firstMatch logger resolver chain compiled candidates).Accords world
      (firstMatch other resolver chain compiled candidates) :=
  tryEach_accords steady fixed ..

end Matching

end SourceAttest
