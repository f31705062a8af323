import SourceAttest.Chain.Registry
import SourceAttest.Proofs.Json.Depth
import SourceAttest.Proofs.Network.Answers

/-!
# Loading the registry

Which chains are registered is settled by the table and the project id before any node is probed.
Probing adds calls and reports to the session, one call for each probe and one warning for each that is
refused. It has no say in the registry, but it can prevent that there is one: a node whose answer is
nested too deeply ends the loading with a fault. The main result is `load_outcome`.
-/
namespace SourceAttest

open SourceAttest.Action

/-! ### Tables -/

/-- The settings of a chain as a table has them: a name, and endpoints at the provider, at least one. -/
inductive Chain.IsSettings : Json → Prop
  | object {members : List (String × Json)} {name : Json} {first : String} {others : List String}
      (named : Table.get? "name" members = some name)
      (listed : Table.get? "rpc" members = some (.array ((first :: others).map .string))) :
      Chain.IsSettings (.object members)

/-- A project id is a text, or there is none. -/
inductive Chain.IsProjectId : Json → Prop
  | none : IsProjectId .null
  | text (id : String) : IsProjectId (.string id)

namespace Chain

theorem ofSettings_of_named {members : List (String × Json)} {name : Json} (id : Json) (rpc : List Json)
    (named : Table.get? "name" members = some name) :
    ∃ chain, ofSettings id (.object members) rpc = .ok chain ∧ chain.rpc = rpc := by
  rw [ofSettings, Rpc.member_object named]
  simp only [Json.memberOr_object]
  exact ⟨_, rfl, rfl⟩

theorem mapM_replaced (new : String) (endpoints : List String) :
    (endpoints.map Json.string).mapM
        (fun template => (template.replaced providerMark (.string new)).map Json.string)
      = .ok (endpoints.map fun endpoint => .string (Text.replace providerMark new endpoint)) := by
  induction endpoints with
  | nil => rfl
  | cons endpoint rest ih =>
    rw [List.map_cons, List.mapM_cons, ih]
    rfl

theorem fullNode?_object (members : List (String × Json)) :
    fullNode? (.object members)
      = .ok (if ((Table.get? "fullnode" members).getD .null).isTruthy then
          some ((Table.get? "fullnode" members).getD .null) else none) := rfl

/-- Every template of a provider becomes an endpoint. -/
theorem providerEndpoints_of_listed {providerId : Json} {members : List (String × Json)} {first : String}
    {others : List String} (known : IsProjectId providerId)
    (listed : Table.get? "rpc" members = some (.array ((first :: others).map .string))) :
    ∃ endpoint rest, providerEndpoints providerId (.object members) = .ok (endpoint :: rest) := by
  have replaced : ∃ new, (if providerId.isTruthy then providerId else .string "") = .string new := by
    cases known with
    | none => exact ⟨"", rfl⟩
    | text id =>
      split
      · exact ⟨id, rfl⟩
      · exact ⟨"", rfl⟩
  obtain ⟨new, isText⟩ := replaced
  rw [providerEndpoints, Rpc.member_object listed, isText]
  exact ⟨_, _, mapM_replaced new (first :: others)⟩

end Chain

section

variable {providerId : Json} {table : ChainTable}

theorem loadChain_of_isSettings (mode : ChainMode) {settings : Json} (id : Json)
    (known : Chain.IsProjectId providerId) (valid : Chain.IsSettings settings) :
    ∃ loaded, loadChain mode providerId id settings = .ok loaded ∧
      ∀ chain ∈ loaded, chain.rpc ≠ [] := by
  obtain ⟨named, listed⟩ := valid
  cases mode with
  | provider =>
    obtain ⟨endpoint, rest, endpoints⟩ := Chain.providerEndpoints_of_listed known listed
    obtain ⟨chain, formed, nodes⟩ := Chain.ofSettings_of_named id (endpoint :: rest) named
    rw [loadChain, endpoints]
    refine ⟨some chain, ?_, ?_⟩
    · exact congrArg (fun outcome : Except ShapeFault Chain => outcome.map some) formed
    · rintro _ ⟨⟩
      rw [nodes]
      exact List.cons_ne_nil _ _
  | fullNode =>
    rw [loadChain, Chain.fullNode?_object]
    -- A chain without a node of its own is left out.
    split
    · obtain ⟨chain, formed, nodes⟩ := Chain.ofSettings_of_named id [_] named
      refine ⟨some chain, ?_, ?_⟩
      · exact congrArg (fun outcome : Except ShapeFault Chain => outcome.map some) formed
      · rintro _ ⟨⟩
        rw [nodes]
        exact List.cons_ne_nil _ _
    · refine ⟨none, rfl, ?_⟩
      rintro _ ⟨⟩

theorem loadChains_of_valid {mode : Json} {mode' : ChainMode} (isMode : ChainMode.ofJson? mode = some mode')
    (known : Chain.IsProjectId providerId) (valid : ∀ entry ∈ table, Chain.IsSettings entry.2) :
    ∃ chains, loadChains mode providerId table = .ok chains ∧
      ∀ chain ∈ chains, chain.rpc ≠ [] := by
  induction table with
  | nil => exact ⟨[], rfl, List.forall_mem_nil _⟩
  | cons entry rest ih =>
    obtain ⟨id, settings⟩ := entry
    obtain ⟨first, others⟩ := List.forall_mem_cons.mp valid
    obtain ⟨loaded, isLoaded, nodes⟩ := loadChain_of_isSettings mode' id known first
    obtain ⟨chains, areLoaded, nodes'⟩ := ih others
    refine ⟨loaded.toList ++ chains, ?_, ?_⟩
    · rw [loadChains, isMode]
      dsimp only
      rw [isLoaded, areLoaded]
      rfl
    · intro chain member
      rcases List.mem_append.mp member with here | later
      · exact nodes chain (Option.mem_toList.mp here)
      · exact nodes' chain later

/-- A self-hosted node is the same for every project. -/
theorem loadChains_fullNode (providerId : Json) (table : ChainTable) :
    loadChains (.string "fullnode") providerId table = loadChains (.string "fullnode") .null table := by
  have isMode : ChainMode.ofJson? (.string "fullnode") = some .fullNode := rfl
  induction table with
  | nil => rfl
  | cons entry rest ih =>
    obtain ⟨id, settings⟩ := entry
    rw [loadChains, loadChains, isMode, ih]
    rfl

end

/-! ### Probing -/

/-- What the loading of a registry looks at: a node is asked for its height and answers. -/
structure Probe where
  chain : Chain
  request : HttpRequest
  reply : HttpReply

/-- Whatever a network answers with success is an object, if it can be read as JSON. -/
def Network.AnswersWithObjects (network : Network) : Prop :=
  ∀ asked request phrase text body, network asked request = .answered 200 phrase text →
    Json.read text = .ok body → ∃ members, body = .object members

namespace ChainRegistry

/-- The chains that a table has for a project id: those of the provider, or those with a node of their
own if there is no project. -/
def chosen (providerId : Json) (table : ChainTable) : Except Fault (List Chain) :=
  if providerId.isTruthy then loadChains (.string "provider") providerId table
  else loadChains (.string "fullnode") .null table

/-- The chains that are probed: the first one of the provider, or all with a node of their own. -/
def probed (providerId : Json) (chains : List Chain) : List Chain :=
  if providerId.isTruthy then chains.take 1 else chains

def endpoint (chain : Chain) : Endpoint := chain.rpc.headD .null

/-- The call that probes a chain, given how many calls of nodes there were. -/
def probeRequest (chain : Chain) (count : Nat) : HttpRequest :=
  Rpc.requestOf (endpoint chain) (.string "eth_blockNumber") (.array []) defaultTimeout (count + 1)

/-- The probes of some chains one after another, given the calls so far and how many went to nodes. -/
def probes (network : Network) : List Chain → List HttpRequest → Nat → List Probe
  | [], _, _ => []
  | chain :: rest, asked, count =>
    ⟨chain, probeRequest chain count, network asked (probeRequest chain count)⟩ ::
      probes network rest (asked ++ [probeRequest chain count]) (count + 1)

/-- One warning for every probe that is refused, in their order, and none for one that delivers. -/
inductive Warns (warning : Chain → Event) : List Probe → List Event → Prop
  | nil : Warns warning [] []
  | reached {probe : Probe} {probes : List Probe} {warnings : List Event} {result : Json}
      (delivers : Rpc.Delivers probe.reply result) (later : Warns warning probes warnings) :
      Warns warning (probe :: probes) warnings
  | refused {probe : Probe} {probes : List Probe} {warnings : List Event} {why : RpcFault}
      (refuses : Rpc.Refuses (.string "eth_blockNumber") probe.reply why)
      (later : Warns warning probes warnings) :
      Warns warning (probe :: probes) (warning probe.chain :: warnings)

def providerWarning (logger : Logger) (chain : Chain) : Event :=
  ⟨.warning, logger, "Provider endpoint unreachable", [place, ("chain", chain.id)]⟩

def nodeWarning (logger : Logger) (chain : Chain) : Event :=
  ⟨.warning, logger, "Invalid endpoint for chain " ++ chain.name.plain,
    [place, ("endpoint", endpoint chain)]⟩

/-- The warning about a node that is out of reach. -/
def warningOf (options : Options) : Chain → Event :=
  if options.providerId.isTruthy then providerWarning options.logger else nodeWarning options.logger

/-- How probing comes to its end: all probes are made and those that are refused are warned of, or the
answer to one of them is nested too deeply. -/
inductive ProbingEnds (warning : Chain → Event) (made : List Probe) (session : Session) :
    Except Fault Unit × Session → Prop
  | through {reported : List Event} {final : Session}
      (warns : Warns warning made (reported.filter (·.level = .warning)))
      (called : final.requests = session.requests ++ made.map Probe.request)
      (told : final.events = session.events ++ reported) : ProbingEnds warning made session (.ok (), final)
  | deep {probe : Probe} {fault : Fault} {final : Session} (present : probe ∈ made)
      (strays : Rpc.Strays probe.reply .depth) (kind : fault.kind = .depth) :
      ProbingEnds warning made session (.error fault, final)

section

variable {world : World} {session : Session} {chain : Chain}

/-- The session after a probe. -/
def afterProbe (chain : Chain) (session : Session) : Session :=
  { session with
    requests := session.requests ++ [probeRequest chain session.rpcCalls]
    rpcCalls := session.rpcCalls + 1 }

theorem node_of_ne_nil (filled : chain.rpc ≠ []) : chain.node = .ok (endpoint chain) := by
  obtain ⟨first, others, nodes⟩ := List.exists_cons_of_ne_nil filled
  rw [Chain.node, endpoint, nodes]
  rfl

/-- The step: a node delivers and is reachable, it refuses and is not, or its answer is too deep. -/
theorem isReachable_cases (objects : world.network.AnswersWithObjects) (chain : Chain)
    (session : Session) {reply : HttpReply}
    (replied : world.network session.requests (probeRequest chain session.rpcCalls) = reply) :
    (∃ result, Rpc.Delivers reply result ∧ Rpc.isReachable (endpoint chain) defaultTimeout world session
      = (.ok true, afterProbe chain session)) ∨
    (∃ why, Rpc.Refuses (.string "eth_blockNumber") reply why ∧
      Rpc.isReachable (endpoint chain) defaultTimeout world session
        = (.ok false, afterProbe chain session)) ∨
    (Rpc.Strays reply .depth ∧ ∃ fault, fault.kind = .depth ∧
      Rpc.isReachable (endpoint chain) defaultTimeout world session
        = (.error fault, afterProbe chain session)) := by
  obtain ⟨reached, refused, strayed⟩ :=
    Rpc.isReachable_outcome (endpoint chain) defaultTimeout world session replied
  have after := Rpc.session_of_isReachable (endpoint chain) defaultTimeout world session
  rcases Rpc.cases_of_reply (.string "eth_blockNumber") reply with
    ⟨result, delivers⟩ | ⟨why, refuses⟩ | ⟨kind, strays⟩
  · exact .inl ⟨result, delivers, Prod.ext (reached result delivers) after⟩
  · exact .inr (.inl ⟨why, refuses, Prod.ext (refused why refuses) after⟩)
  · obtain ⟨fault, failed, isKind⟩ := strayed kind strays
    -- An object has a result and an error to look for, so nothing else can be wrong with it.
    have deep : kind = .depth := by
      cases strays with
      | tooDeep read => rfl
      | single read single =>
        obtain ⟨members, rfl⟩ := objects _ _ _ _ _ replied read
        cases single
      | mentioned read known mentions =>
        obtain ⟨members, rfl⟩ := objects _ _ _ _ _ replied read
        cases mentions
    subst deep
    exact .inr (.inr ⟨strays, fault, isKind, Prod.ext failed after⟩)

/-- The session after a report. -/
def afterReport (event : Event) (session : Session) : Session :=
  { session with events := session.events ++ [event] }

/-- The first probe of some chains. -/
def firstProbe (network : Network) (chain : Chain) (session : Session) : Probe :=
  ⟨chain, probeRequest chain session.rpcCalls,
    network session.requests (probeRequest chain session.rpcCalls)⟩

section

variable {warning : Chain → Event} {made : List Probe} {ended : Except Fault Unit × Session}

theorem ProbingEnds.reached {result : Json}
    (delivers : Rpc.Delivers (firstProbe world.network chain session).reply result)
    (later : ProbingEnds warning made (afterProbe chain session) ended) :
    ProbingEnds warning (firstProbe world.network chain session :: made) session ended := by
  cases later with
  | through warns called told =>
    refine .through (.reached delivers warns) ?_ told
    rw [called]
    exact List.append_assoc ..
  | deep present strays kind => exact .deep (.tail _ present) strays kind

theorem ProbingEnds.refused {why : RpcFault} (isWarning : (warning chain).level = .warning)
    (refuses : Rpc.Refuses (.string "eth_blockNumber") (firstProbe world.network chain session).reply why)
    (later : ProbingEnds warning made (afterReport (warning chain) (afterProbe chain session)) ended) :
    ProbingEnds warning (firstProbe world.network chain session :: made) session ended := by
  cases later with
  | @through reported final warns called told =>
    have filtered : (warning chain :: reported).filter (·.level = .warning)
        = warning chain :: reported.filter (·.level = .warning) :=
      List.filter_cons_of_pos (by simp [isWarning])
    have warns' : Warns warning (firstProbe world.network chain session :: made)
        ((warning chain :: reported).filter (·.level = .warning)) := by
      rw [filtered]
      exact .refused refuses warns
    refine .through warns' ?_ ?_
    · rw [called]
      exact List.append_assoc ..
    · rw [told]
      exact List.append_assoc ..
  | deep present strays kind => exact .deep (.tail _ present) strays kind

end

theorem ends_probeNodes (objects : world.network.AnswersWithObjects) (logger : Logger)
    {chains : List Chain} (nodes : ∀ chain ∈ chains, chain.rpc ≠ [])
    (session : Session) :
    ProbingEnds (nodeWarning logger) (probes world.network chains session.requests session.rpcCalls) session
      (probeNodes logger chains world session) := by
  induction chains generalizing session with
  | nil => exact .through .nil (List.append_nil _).symm (List.append_nil _).symm
  | cons chain rest ih =>
    obtain ⟨filled, nodes⟩ := List.forall_mem_cons.mp nodes
    rw [probeNodes, node_of_ne_nil filled, ofShape_ok_bind, probes]
    rcases isReachable_cases objects chain session rfl with
      ⟨result, delivers, run⟩ | ⟨why, refuses, run⟩ | ⟨strays, fault, kind, run⟩
    · rw [bind_of_ok run]
      exact .reached delivers (ih nodes (afterProbe chain session))
    · rw [bind_of_ok run]
      exact .refused rfl refuses
        (ih nodes (afterReport (nodeWarning logger chain) (afterProbe chain session)))
    · rw [bind_of_error run]
      exact .deep List.mem_cons_self strays kind

theorem ends_probeProvider (objects : world.network.AnswersWithObjects) (logger : Logger)
    {chains : List Chain} (nodes : ∀ chain ∈ chains, chain.rpc ≠ [])
    (session : Session) :
    ProbingEnds (providerWarning logger)
      (probes world.network (chains.take 1) session.requests session.rpcCalls) session
      (probeProvider logger chains world session) := by
  cases chains with
  | nil => exact .through .nil (List.append_nil _).symm (List.append_nil _).symm
  | cons chain rest =>
    obtain ⟨filled, -⟩ := List.forall_mem_cons.mp nodes
    -- The probe stands between two reports, and neither of them is a warning.
    let started : Event := ⟨.info, logger, "started checking providerPID", [place]⟩
    let finished : Event := ⟨.info, logger, "finished checking providerPID", [place]⟩
    have begins : logger.info "started checking providerPID" [place] world session
        = (.ok (), afterReport started session) := rfl
    rw [probeProvider, bind_of_ok begins, node_of_ne_nil filled, ofShape_ok_bind]
    rcases isReachable_cases objects chain (afterReport started session) rfl with
      ⟨result, delivers, run⟩ | ⟨why, refuses, run⟩ | ⟨strays, fault, kind, run⟩
    · rw [bind_of_ok run]
      have warns : Warns (providerWarning logger) [firstProbe world.network chain session]
          ([started, finished].filter (·.level = .warning)) := .reached delivers .nil
      exact .through warns rfl (List.append_assoc ..)
    · rw [bind_of_ok run]
      have warns : Warns (providerWarning logger) [firstProbe world.network chain session]
          ([started, providerWarning logger chain, finished].filter (·.level = .warning)) :=
        .refused refuses .nil
      refine .through warns rfl ?_
      exact (congrArg (· ++ [finished]) (List.append_assoc ..)).trans (List.append_assoc ..)
    · rw [bind_of_error run]
      exact .deep List.mem_cons_self strays kind

end

/-! ### Loading -/

/-- What is done for the nodes of the chains that are chosen. -/
def probing (options : Options) (chains : List Chain) : Action Unit :=
  if options.providerId.isTruthy then probeProvider options.logger chains
  else probeNodes options.logger chains

def finished (options : Options) (chains : List Chain) : Event :=
  ⟨.info, options.logger, "Finished loading chains",
    [place, ("numberOfChains", .int (ofChains chains).length)]⟩

section

variable {world : World} {session : Session} {options : Options} {chains : List Chain}

theorem ends_probing (objects : world.network.AnswersWithObjects) (options : Options)
    (nodes : ∀ chain ∈ chains, chain.rpc ≠ []) (session : Session) :
    ProbingEnds (warningOf options)
      (probes world.network (probed options.providerId chains) session.requests session.rpcCalls) session
      (probing options chains world session) := by
  unfold warningOf probed probing
  split
  · exact ends_probeProvider objects options.logger nodes session
  · exact ends_probeNodes objects options.logger nodes session

/-- Loading, once the chains are chosen. -/
theorem load_eq (options : Options) (checks : Bool)
    (isChosen : chosen options.providerId options.table = .ok chains) :
    load { options with offline := false, checkEndpoints := checks }
      = (if checks then probing options chains else pure ()) >>= fun _ =>
          Action.report (finished options chains) >>= fun _ => pure (ofChains chains) := by
  have loaded : loadChains (.string (if options.providerId.isTruthy then "provider" else "fullnode"))
      options.providerId options.table = .ok chains := by
    rw [chosen] at isChosen
    split at isChosen
    next project => rw [if_pos project, isChosen]
    next none => rw [if_neg none, loadChains_fullNode, isChosen]
  rw [load, if_neg Bool.false_ne_true, probing]
  -- The project id settles both which chains are loaded and which of them are probed.
  dsimp only
  rw [loaded, show ∀ next : List Chain → Action ChainRegistry,
    Action.ofExcept (.ok chains) >>= next = next chains from fun _ => rfl]
  split
  · split <;> rfl
  · rfl

theorem chosen_of_valid {providerId : Json} {table : ChainTable} (known : Chain.IsProjectId providerId)
    (valid : ∀ entry ∈ table, Chain.IsSettings entry.2) :
    ∃ chains, chosen providerId table = .ok chains ∧
      ∀ chain ∈ chains, chain.rpc ≠ [] := by
  unfold chosen
  split
  · exact loadChains_of_valid rfl known valid
  · exact loadChains_of_valid rfl .none valid

/-- What delivers or is refused can be read. -/
theorem Warns.readable {warning : Chain → Event} {made : List Probe} {warnings : List Event}
    (warns : Warns warning made warnings) : ∀ probe ∈ made, ¬Rpc.Strays probe.reply .depth := by
  induction warns with
  | nil => exact List.forall_mem_nil _
  | reached delivers _ ih => exact List.forall_mem_cons.mpr ⟨delivers.not_deep, ih⟩
  | refused refuses _ ih => exact List.forall_mem_cons.mpr ⟨refuses.not_deep, ih⟩

/-- The registry is the same with and without checks, if there is one with checks, and there is one
exactly if no probed node gives an answer that is nested too deeply. Then every chosen node is probed
once, in the order of the chains, and there is one warning for every probe that is refused and no other.
Offline there are no chains, no calls and no reports. -/
theorem load_outcome (options : Options) (known : Chain.IsProjectId options.providerId)
    (valid : ∀ entry ∈ options.table, Chain.IsSettings entry.2)
    (objects : world.network.AnswersWithObjects) (session : Session) :
    load { options with offline := true } world session = (.ok [], session) ∧
    ∃ chains made, chosen options.providerId options.table = .ok chains ∧
      made = probes world.network (probed options.providerId chains) session.requests
        session.rpcCalls ∧
      (∃ final, load { options with offline := false, checkEndpoints := false } world session
        = (.ok (ofChains chains), final) ∧ final.requests = session.requests) ∧
      ((∃ registry final, load { options with offline := false, checkEndpoints := true } world session
        = (.ok registry, final)) ↔ ∀ probe ∈ made, ¬Rpc.Strays probe.reply .depth) ∧
      (∀ registry final, load { options with offline := false, checkEndpoints := true } world session
          = (.ok registry, final) →
        registry = ofChains chains ∧ final.requests = session.requests ++ made.map Probe.request ∧
        ∃ reported, final.events = session.events ++ reported ∧
          Warns (warningOf options) made (reported.filter (·.level = .warning))) ∧
      ∀ fault final, load { options with offline := false, checkEndpoints := true } world session
        = (.error fault, final) → fault.kind = .depth := by
  obtain ⟨chains, isChosen, nodes⟩ := chosen_of_valid known valid
  refine ⟨rfl, chains, _, isChosen, rfl, ?_, ?_⟩
  · rw [load_eq options false isChosen]
    exact ⟨_, rfl, rfl⟩
  · rw [load_eq options true isChosen, if_pos rfl]
    have ends := ends_probing objects options nodes session
    -- What probing comes to decides what loading comes to.
    cases run : probing options chains world session with
    | mk outcome after =>
      rw [run] at ends
      cases ends with
      | @through reported _ warns called told =>
        have noWarning : [finished options chains].filter (·.level = .warning) = [] := rfl
        rw [bind_of_ok run]
        refine ⟨⟨fun _ => warns.readable, fun _ => ⟨_, _, rfl⟩⟩, ?_, ?_⟩
        · rintro registry final ⟨⟩
          refine ⟨rfl, called, reported ++ [finished options chains], ?_, ?_⟩
          · exact (congrArg (· ++ [finished options chains]) told).trans (List.append_assoc ..)
          · rwa [List.filter_append, noWarning, List.append_nil]
        · rintro fault final ⟨⟩
      | deep present strays kind =>
        rw [bind_of_error run]
        refine ⟨⟨?_, fun readable => absurd strays (readable _ present)⟩, ?_, ?_⟩
        · rintro ⟨registry, final, ⟨⟩⟩
        · rintro registry final ⟨⟩
        · rintro fault final ⟨⟩
          exact kind

end

/-! ### Two chains -/

namespace TwoChains

def settings (name node : String) : Json :=
  .object [("name", .string name), ("rpc", .array [.string "http://provider"]), ("fullnode", .string node)]

def options : Options :=
  ⟨.null, false, true, [(.string "1", settings "Mainnet" "http://one"),
    (.string "5", settings "Goerli" "http://five")], ⟨none, none⟩⟩

def listed : List Chain :=
  [⟨.string "1", .string "Mainnet", [.string "http://one"], .null, .null, .null, .null⟩,
    ⟨.string "5", .string "Goerli", [.string "http://five"], .null, .null, .null, .null⟩]

/-- The first node is offline, and the second one answers everything with this value. -/
def network (body : Json) : Network := fun _ request =>
  match request.url with
  | .string "http://one" => .failed "offline"
  | _ => .answered 200 "OK" body.write

def world (body : Json) : World := ⟨network body, [], fun _ => .notFound, []⟩

def answer (result : Json) : Json := .object [("result", result)]

theorem valid : ∀ entry ∈ options.table, Chain.IsSettings entry.2 := by
  intro entry listed
  simp only [options, List.mem_cons, List.not_mem_nil, or_false] at listed
  rcases listed with rfl | rfl
  · exact @Chain.IsSettings.object _ _ "http://provider" [] rfl rfl
  · exact @Chain.IsSettings.object _ _ "http://provider" [] rfl rfl

theorem isChosen : chosen options.providerId options.table = .ok listed := rfl

theorem nodes : ∀ chain ∈ listed, chain.rpc ≠ [] := by
  intro chain member
  simp only [listed, List.mem_cons, List.not_mem_nil, or_false] at member
  rcases member with rfl | rfl <;> exact List.cons_ne_nil _ _

theorem text_of_answered {body : Json} {request : HttpRequest} {phrase text : String}
    (asked : List HttpRequest) (answered : network body asked request = .answered 200 phrase text) :
    text = body.write := by
  unfold network at answered
  split at answered
  · cases answered
  · cases answered
    rfl

theorem answersWithObjects {result : Json} (exact : Json.Exact (answer result)) :
    (world (answer result)).network.AnswersWithObjects := by
  intro asked request phrase text body answered read
  rw [text_of_answered asked answered] at read
  by_cases fits : (answer result).depth ≤ Json.maxDepth
  · cases ((Json.read_write_iff exact).1.mpr fits).symm.trans read
    exact ⟨_, rfl⟩
  · -- An answer that is nested too deeply is not read as anything.
    obtain ⟨container, refused⟩ := (Json.read_write_iff exact).2.mpr (Nat.lt_of_not_le fits)
    cases refused.symm.trans read

theorem depth_answer (result : Json) : (answer result).depth = result.depth + 1 := by
  simp [answer, Json.depth, Json.depthMembers]

theorem exact_answer {result : Json} (exact : Json.Exact result) : Json.Exact (answer result) := by
  simp [answer, Table.keys, exact]

/-- The second node prevents that there is a registry if its answer is nested too deeply. -/
theorem load_of_deep {result : Json} (exact : Json.Exact result)
    (deep : Json.maxDepth < (answer result).depth) :
    ∃ fault final, load options (world (answer result)) (Session.fresh []) = (.error fault, final) ∧
      fault.kind = .depth := by
  obtain ⟨container, refused⟩ := (Json.read_write_iff (exact_answer exact)).2.mpr deep
  have ends := ends_probing (answersWithObjects (exact_answer exact)) options nodes (Session.fresh [])
  have loading : load options = _ := load_eq options true isChosen
  rw [loading, if_pos rfl]
  cases run : probing options listed (world (answer result)) (Session.fresh []) with
  | mk outcome after =>
    rw [run] at ends
    cases ends with
    | through warns called told =>
      have strays : Rpc.Strays (.answered 200 "OK" (answer result).write) .depth := .tooDeep refused
      exact absurd strays (warns.readable _ (.tail _ (.head _)))
    | deep present strays kind =>
      rw [bind_of_error run]
      exact ⟨_, _, rfl, kind⟩

end TwoChains

open TwoChains in
/-- A node that is offline costs a warning; both chains are registered. -/
theorem load_of_two_chains :
    ∃ final, load options (world (answer (.string "0x0"))) (Session.fresh [])
        = (.ok (ofChains listed), final) ∧
      final.requests.length = 2 ∧
      final.events.filter (·.level = .warning)
        = [⟨.warning, options.logger, "Invalid endpoint for chain Mainnet",
            [place, ("endpoint", .string "http://one")]⟩] := by
  have exact := exact_answer (.string "0x0")
  have read : Json.read (answer (.string "0x0")).write = .ok (answer (.string "0x0")) :=
    (Json.read_write_iff exact).1.mpr (by decide)
  obtain ⟨-, _, made, isChosen', rfl, -, returns, whenReturned, -⟩ :=
    load_outcome options .none valid (answersWithObjects exact) (Session.fresh [])
  cases isChosen'.symm.trans isChosen
  -- The first probe gets no answer, the second one gets an object.
  have offline : Rpc.Refuses (.string "eth_blockNumber") (.failed "offline") _ := .unanswered _
  have delivers : Rpc.Delivers (.answered 200 "OK" (answer (.string "0x0")).write) (.string "0x0") :=
    .result read rfl rfl
  obtain ⟨registry, final, loaded⟩ := returns.mpr
    (List.forall_mem_cons.mpr ⟨offline.not_deep, List.forall_mem_singleton.mpr delivers.not_deep⟩)
  obtain ⟨rfl, called, reported, told, warns⟩ := whenReturned _ _ loaded
  refine ⟨final, loaded, ?_, ?_⟩
  · rw [called]
    rfl
  · change final.events = reported at told
    rw [told]
    generalize reported.filter _ = warnings at warns
    cases warns with
    | reached delivers' => cases delivers'
    | refused _ later =>
      cases later with
      | reached _ later =>
        cases later
        rfl
      | refused refuses _ =>
        cases (Rpc.answer_of_delivers delivers).symm.trans (Rpc.answer_of_refuses refuses)

open TwoChains in
/-- A node whose answer is an object that is nested too deeply for the reader prevents that there is a
registry, although the same table is loaded without checks. -/
theorem load_of_deep_answer :
    (∀ entry ∈ options.table, Chain.IsSettings entry.2) ∧
    (world (answer (Json.nested 2000))).network.AnswersWithObjects ∧
    Json.Renders (answer (Json.nested 2000)).write (answer (Json.nested 2000)) ∧
    (∃ fault final, load options (world (answer (Json.nested 2000))) (Session.fresh [])
      = (.error fault, final) ∧ fault.kind = .depth) ∧
    ∃ final, load { options with checkEndpoints := false } (world (answer (Json.nested 2000)))
      (Session.fresh []) = (.ok (ofChains listed), final) := by
  have exact := Json.exact_nested 2000
  have deep : Json.maxDepth < (answer (Json.nested 2000)).depth := by
    rw [depth_answer, Json.depth_nested]
    decide
  have unchecked : load { options with checkEndpoints := false } = _ := load_eq options false isChosen
  refine ⟨valid, answersWithObjects (exact_answer exact), Json.renders_write (exact_answer exact),
    load_of_deep exact deep, ?_⟩
  rw [unchecked]
  exact ⟨_, rfl⟩

end ChainRegistry

end SourceAttest
