import SourceAttest.Compiler.Recompile
import SourceAttest.Contract.Fetch
import SourceAttest.CreationData.Resolve
import SourceAttest.Proofs.Alike
import SourceAttest.Proofs.Network.Rpc

/-!
# Actions that only ask

An action that is put together from questions to the outside and from reports leaves the file tree
alone. On a network whose answers do not depend on the past it comes to the same whenever it is run.
Looking for creation data, completing a contract and recompiling it are such actions, and what they
report they report by the logger they are given. Each single way to creation data asks in silence: it
adds its calls to the session and reports nothing.
-/
namespace SourceAttest

open SourceAttest.Action

/-- An action that is put together from values, faults, reports and questions to the outside. -/
inductive Action.OnlyAsks : {α : Type} → Action α → Prop
  | pure {α : Type} (value : α) : OnlyAsks (Pure.pure value : Action α)
  | fail {α : Type} (fault : Fault) : OnlyAsks (Action.fail fault : Action α)
  | bind {α β : Type} {action : Action α} {next : α → Action β} (first : OnlyAsks action)
      (second : ∀ value, OnlyAsks (next value)) : OnlyAsks (action >>= next)
  | attempt {α : Type} {action : Action α} (asks : OnlyAsks action) : OnlyAsks action.attempt
  | report (logger : Logger) (level : Level) (text : String) (fields : Table String Json) :
      OnlyAsks (logger.report level text fields)
  | ask {α : Type} (question : World → α) : OnlyAsks (Action.ask question)
  | send (request : HttpRequest) : OnlyAsks (Action.send request)
  | call (endpoint : Endpoint) (method params timeout : Json) :
      OnlyAsks (Rpc.call endpoint method params timeout)
  | compile (job : CompilerRun) : OnlyAsks (Action.compile job)

/-- An action that only asks, and whose reports all come from one logger. -/
inductive Action.AsksAs (logger : Logger) : {α : Type} → Action α → Prop
  | pure {α : Type} (value : α) : AsksAs logger (Pure.pure value : Action α)
  | fail {α : Type} (fault : Fault) : AsksAs logger (Action.fail fault : Action α)
  | bind {α β : Type} {action : Action α} {next : α → Action β} (first : AsksAs logger action)
      (second : ∀ value, AsksAs logger (next value)) : AsksAs logger (action >>= next)
  | attempt {α : Type} {action : Action α} (asks : AsksAs logger action) : AsksAs logger action.attempt
  | report (level : Level) (text : String) (fields : Table String Json) :
      AsksAs logger (logger.report level text fields)
  | ask {α : Type} (question : World → α) : AsksAs logger (Action.ask question)
  | send (request : HttpRequest) : AsksAs logger (Action.send request)
  | call (endpoint : Endpoint) (method params timeout : Json) :
      AsksAs logger (Rpc.call endpoint method params timeout)
  | compile (job : CompilerRun) : AsksAs logger (Action.compile job)

/-- An action that is put together from values, faults and questions to the outside, without reports. -/
inductive Action.AsksSilently : {α : Type} → Action α → Prop
  | pure {α : Type} (value : α) : AsksSilently (Pure.pure value : Action α)
  | fail {α : Type} (fault : Fault) : AsksSilently (Action.fail fault : Action α)
  | bind {α β : Type} {action : Action α} {next : α → Action β} (first : AsksSilently action)
      (second : ∀ value, AsksSilently (next value)) : AsksSilently (action >>= next)
  | attempt {α : Type} {action : Action α} (asks : AsksSilently action) : AsksSilently action.attempt
  | send (request : HttpRequest) : AsksSilently (Action.send request)
  | call (endpoint : Endpoint) (method params timeout : Json) :
      AsksSilently (Rpc.call endpoint method params timeout)

/-- The answers of a network are the same whatever was asked before and however calls are numbered. -/
structure Network.IsSteady (network : Network) : Prop where
  forgets : ∀ before before' request, network before request = network before' request
  unnumbered : ∀ before endpoint method params timeout number number',
    network before (Rpc.requestOf endpoint method params timeout number)
      = network before (Rpc.requestOf endpoint method params timeout number')

namespace Action.OnlyAsks

variable {α β : Type}

theorem ofExcept (outcome : Except Fault α) : (Action.ofExcept outcome).OnlyAsks := by
  cases outcome
  · exact fail _
  · exact pure _

theorem ofShape (outcome : Except ShapeFault α) : (Action.ofShape outcome).OnlyAsks := by
  cases outcome
  · exact fail _
  · exact pure _

theorem map {action : Action α} (asks : action.OnlyAsks) (f : α → β) : (f <$> action).OnlyAsks :=
  bind asks fun _ => pure _

theorem keepsTree {action : Action α} (asks : action.OnlyAsks) : action.KeepsTree := by
  induction asks with
  | pure value => exact .pure value
  | fail fault => exact .fail fault
  | bind first second keeps keeps' => exact .bind keeps keeps'
  | attempt asks keeps => exact keeps.attempt
  | report logger level text fields => exact .report ..
  | ask question => exact .ask question
  | send request => exact .send request
  | call endpoint method params timeout =>
    exact .bind .nextCallNumber fun _ => .bind (.send _) fun _ => .ofExcept _
  | compile job => exact .compile job

theorem ignoresCalls {world : World} (steady : world.network.IsSteady) {action : Action α}
    (asks : action.OnlyAsks) : action.IgnoresCalls world := by
  induction asks with
  | pure value => exact .pure value
  | fail fault => exact .fail fault
  | bind first second ignores ignores' => exact .bind ignores ignores'
  | attempt asks ignores => exact ignores.attempt
  | report logger level text fields => exact .report ..
  | ask question => exact ⟨fun alike => ⟨rfl, alike⟩⟩
  | send request =>
    refine ⟨fun {first second} alike => ⟨?_, alike.lookups, alike.runs, alike.verifications, alike.tree⟩⟩
    exact congrArg Except.ok (steady.forgets first.requests second.requests request)
  | call endpoint method params timeout =>
    constructor
    intro first second alike
    rw [Rpc.call_run, Rpc.call_run, steady.forgets first.requests second.requests,
      steady.unnumbered _ _ _ _ _ (first.rpcCalls + 1) (second.rpcCalls + 1)]
    exact ⟨rfl, alike.lookups, alike.runs, alike.verifications, alike.tree⟩
  | compile job =>
    refine ⟨fun {first second} alike => ⟨rfl, alike.lookups, ?_, alike.verifications, alike.tree⟩⟩
    exact congrArg (· ++ [job]) alike.runs

end Action.OnlyAsks

namespace Action.AsksAs

variable {α β : Type} {logger : Logger}

theorem ofExcept (outcome : Except Fault α) : (Action.ofExcept outcome).AsksAs logger := by
  cases outcome
  · exact fail _
  · exact pure _

theorem ofShape (outcome : Except ShapeFault α) : (Action.ofShape outcome).AsksAs logger := by
  cases outcome
  · exact fail _
  · exact pure _

theorem map {action : Action α} (asks : action.AsksAs logger) (f : α → β) :
    (f <$> action).AsksAs logger :=
  bind asks fun _ => pure _

theorem onlyAsks {action : Action α} (asks : action.AsksAs logger) : action.OnlyAsks := by
  induction asks with
  | pure value => exact .pure value
  | fail fault => exact .fail fault
  | bind first second asks asks' => exact .bind asks asks'
  | attempt asks asks' => exact asks'.attempt
  | report level text fields => exact .report ..
  | ask question => exact .ask question
  | send request => exact .send request
  | call endpoint method params timeout => exact .call ..
  | compile job => exact .compile job

end Action.AsksAs

namespace Action.AsksSilently

variable {α β : Type}

theorem ofExcept (outcome : Except Fault α) : (Action.ofExcept outcome).AsksSilently := by
  cases outcome
  · exact fail _
  · exact pure _

theorem ofShape (outcome : Except ShapeFault α) : (Action.ofShape outcome).AsksSilently := by
  cases outcome
  · exact fail _
  · exact pure _

theorem asksAs {action : Action α} (asks : action.AsksSilently) (logger : Logger) :
    action.AsksAs logger := by
  induction asks with
  | pure value => exact .pure value
  | fail fault => exact .fail fault
  | bind first second asks asks' => exact .bind asks asks'
  | attempt asks asks' => exact asks'.attempt
  | send request => exact .send request
  | call endpoint method params timeout => exact .call ..

/-- Which logger it would be that reports does not matter. -/
theorem onlyAsks {action : Action α} (asks : action.AsksSilently) : action.OnlyAsks :=
  (asks.asksAs ⟨none, none⟩).onlyAsks

/-- Whatever comes of it, such an action adds calls to the session and reports nothing. -/
theorem adds_calls {action : Action α} (asks : action.AsksSilently) (world : World)
    (session : Session) :
    (∃ calls, (action world session).2.requests = session.requests ++ calls) ∧
      (action world session).2.events = session.events := by
  induction asks generalizing session with
  | pure value => exact ⟨⟨[], (List.append_nil _).symm⟩, rfl⟩
  | fail fault => exact ⟨⟨[], (List.append_nil _).symm⟩, rfl⟩
  | @bind _ _ action next first second adds adds' =>
    cases run : action world session with
    | mk outcome middle =>
      obtain ⟨⟨calls, sent⟩, kept⟩ := adds session
      rw [run] at sent kept
      cases outcome with
      | error fault =>
        rw [bind_of_error run]
        exact ⟨⟨calls, sent⟩, kept⟩
      | ok value =>
        -- The calls of the second part come behind those of the first one.
        obtain ⟨⟨more, sent'⟩, kept'⟩ := adds' value middle
        rw [bind_of_ok run]
        exact ⟨⟨calls ++ more, by rw [sent', sent, List.append_assoc]⟩, kept'.trans kept⟩
  | attempt asks adds => exact adds session
  | send request => exact ⟨⟨[request], rfl⟩, rfl⟩
  | call endpoint method params timeout =>
    rw [Rpc.call_run]
    exact ⟨⟨_, rfl⟩, rfl⟩

end Action.AsksSilently

/-! ### Nodes and creation data -/

namespace Rpc

theorem asksSilently_codeAt (endpoint : Endpoint) (address block : Json) :
    (codeAt endpoint address block).AsksSilently := by
  refine .bind (.call ..) fun code => ?_
  split
  · exact .pure _
  · exact .bind (.ofShape _) fun _ => .pure _

theorem asksSilently_blockNumber (endpoint : Endpoint) : (blockNumber endpoint).AsksSilently := by
  refine .bind (.call ..) fun answer => ?_
  split
  · split
    · exact .pure _
    · exact .fail _
  · exact .fail _
  · exact .fail _

theorem asksSilently_block (endpoint : Endpoint) (number full : Json) :
    (block endpoint number full).AsksSilently := by
  refine .bind (.call ..) fun answer => ?_
  split
  · exact .fail _
  · exact .pure _

theorem asksSilently_transaction (endpoint : Endpoint) (hash : Json) :
    (transaction endpoint hash).AsksSilently := by
  refine .bind (.call ..) fun answer => ?_
  split
  · exact .fail _
  · exact .pure _

end Rpc

namespace CreationData

theorem asksSilently_withNodeFaults {α : Type} {action : Action α} (asks : action.AsksSilently) :
    (withNodeFaults action).AsksSilently := by
  refine .bind asks.attempt fun outcome => ?_
  split
  · exact .pure _
  · exact .fail _

theorem asksSilently_transactionInput (chain : Chain) (hash : Json) :
    (transactionInput chain hash).AsksSilently := by
  refine .bind (.ofShape _) fun node => .bind (Rpc.asksSilently_transaction ..) fun transaction =>
    .bind (.ofShape _) fun input => ?_
  split
  · exact .fail _
  · exact .bind (.ofShape _) fun _ => .pure _

theorem asksSilently_scrape (chain : Chain) (address : Json) : (scrape chain address).AsksSilently := by
  refine .bind (.ofShape _) fun url => .bind (.send _) fun reply => ?_
  split
  · exact .fail _
  · exact .bind (.ofExcept _) fun _ =>
      asksSilently_withNodeFaults (asksSilently_transactionInput ..)

theorem asksSilently_graphql (chain : Chain) (address : Json) : (graphql chain address).AsksSilently :=
  .bind (.send _) fun _ => .bind (.ofExcept _) fun _ => .bind (.ofExcept _) fun _ =>
    asksSilently_withNodeFaults (asksSilently_transactionInput ..)

theorem asksSilently_hasCodeAt (endpoint : Endpoint) (address : Json) (block : Int) :
    (hasCodeAt endpoint address block).AsksSilently :=
  .bind (Rpc.asksSilently_codeAt ..) fun _ => .pure _

theorem asksSilently_searchRange {probe : Nat → Action Bool} (asks : ∀ block, (probe block).AsksSilently)
    (low high : Nat) : (searchRange probe low high).AsksSilently := by
  -- The induction follows the halving of the range.
  induction low, high using searchRange.induct with
  | case1 low high more mid lower upper =>
    rw [searchRange, if_pos more]
    refine .bind (asks _) fun found => ?_
    split
    · exact lower
    · exact upper
  | case2 low high done =>
    rw [searchRange, if_neg done]
    exact .pure _

theorem asksSilently_findCreationBlock (endpoint : Endpoint) (address : Json) :
    (findCreationBlock endpoint address).AsksSilently := by
  refine .bind (Rpc.asksSilently_blockNumber _) fun latest =>
    .bind (asksSilently_hasCodeAt ..) fun found => ?_
  split
  · exact asksSilently_searchRange (fun _ => asksSilently_hasCodeAt ..) _ _
  · exact .fail _

theorem asksSilently_creationInBlock (endpoint : Endpoint) (address : Json) (block : Nat)
    (transactions : List Json) :
    (creationInBlock endpoint address block transactions).AsksSilently := by
  induction transactions with
  | nil =>
    rw [creationInBlock.eq_def]
    exact .fail _
  | cons transaction rest ih =>
    -- The two ways to a candidate lead to the same action.
    have candidate (members : List (String × Json)) :
        (creationInBlock.candidate endpoint address block members rest).AsksSilently := by
      rw [creationInBlock.candidate]
      refine .bind (.ofShape _) fun hash => .bind (.call ..) fun receipt =>
        .bind (.ofShape _) fun named => ?_
      split
      · refine .bind (.ofShape _) fun input => ?_
        split
        · exact .bind (.ofShape _) fun _ => .pure _
        · exact .fail _
      · exact ih
    rw [creationInBlock.eq_def]
    split
    · exact .fail _
    next members others listed =>
      cases listed
      split
      · exact candidate _
      · exact candidate _
      · exact ih
    · exact .fail _

theorem asksSilently_archive (chain : Chain) (address : Json) : (archive chain address).AsksSilently := by
  apply asksSilently_withNodeFaults
  exact .bind (asksSilently_findCreationBlock ..) fun _ => .bind (Rpc.asksSilently_block ..) fun _ =>
    .bind (.ofShape _) fun _ => asksSilently_creationInBlock ..

theorem asksSilently_findBy (strategy : Strategy) (chain : Chain) (address : Json) :
    (findBy strategy chain address).AsksSilently := by
  cases strategy with
  | scrape => exact asksSilently_scrape ..
  | graphql => exact asksSilently_graphql ..
  | archive => exact asksSilently_archive ..

theorem asksAs_tryEach (logger : Logger) (chain : Chain) (address : Json)
    (strategies : List Strategy) : (tryEach logger chain address strategies).AsksAs logger := by
  induction strategies with
  | nil => exact .bind (.report ..) fun _ => .fail _
  | cons strategy rest ih =>
    -- Each way to the data asks, and the next one does so where it stopped.
    refine .bind (.report ..) fun _ =>
      .bind ((asksSilently_findBy strategy chain address).asksAs logger).attempt fun outcome => ?_
    split
    · exact .pure _
    · exact .bind (.report ..) fun _ => ih

theorem asksAs_resolve (logger : Logger) (chain : Chain) (address : Json) :
    (resolve logger chain address).AsksAs logger :=
  asksAs_tryEach ..

theorem onlyAsks_resolve (logger : Logger) (chain : Chain) (address : Json) :
    (resolve logger chain address).OnlyAsks :=
  (asksAs_resolve ..).onlyAsks

end CreationData

/-! ### Sources and the compiler -/

namespace Contract

theorem asksAs_fetchSource (gateways : Gateways) (logger : Logger) (path hash : String)
    (urls : List Json) : (fetchSource gateways logger path hash urls).AsksAs logger := by
  induction urls with
  | nil => exact .pure _
  | cons listed rest ih =>
    refine .bind (.ofShape _) fun url => .bind (.ofShape _) fun resolved => ?_
    split
    · exact ih
    · refine .bind (.send _) fun reply => ?_
      split
      · exact .bind (.report ..) fun _ => ih
      · split
        · exact .bind (.report ..) fun _ => .pure _
        · exact .bind (.report ..) fun _ => ih

theorem asksAs_fetchEach (gateways : Gateways) (logger : Logger)
    (missing : List (String × MissingSource)) (contract : Contract) :
    (fetchEach gateways logger missing contract).AsksAs logger := by
  induction missing generalizing contract with
  | nil => exact .pure _
  | cons entry rest ih =>
    refine .bind (asksAs_fetchSource ..).attempt fun outcome => ?_
    split
    · exact .pure _
    · exact ih _
    · exact ih _

theorem asksAs_complete (gateways : Gateways) (logger : Logger) (contract : Contract) :
    (contract.complete gateways logger).AsksAs logger := by
  have fetched : (fetchMissing gateways logger contract).AsksAs logger := by
    refine .bind (asksAs_fetchEach ..) fun ⟨_, fault⟩ => ?_
    cases fault with
    | some fault => exact .pure _
    | none =>
      dsimp only
      split
      · exact .pure _
      · exact .pure _
  unfold complete
  split
  · exact .pure _
  · refine .bind fetched fun ⟨_, fault⟩ => ?_
    cases fault with
    | none => exact .pure _
    | some fault => exact .fail _

theorem onlyAsks_complete (gateways : Gateways) (logger : Logger) (contract : Contract) :
    (contract.complete gateways logger).OnlyAsks :=
  (asksAs_complete ..).onlyAsks

end Contract

theorem Compiler.asksAs_recompile (path : Option String) (logger : Logger)
    (metadata sources : Json) : (recompile path logger metadata sources).AsksAs logger :=
  .bind (.ask _) fun _ => .bind (.ofExcept _) fun _ => .bind (.ofShape _) fun _ =>
    .bind (.report ..) fun _ => .bind (.ofExcept _) fun _ => .bind (.compile _) fun _ =>
      .bind (.ofExcept _) fun _ => .ofExcept _

theorem Compiler.onlyAsks_recompile (path : Option String) (logger : Logger)
    (metadata sources : Json) : (recompile path logger metadata sources).OnlyAsks :=
  (asksAs_recompile ..).onlyAsks

end SourceAttest
