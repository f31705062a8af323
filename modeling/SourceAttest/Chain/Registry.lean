import SourceAttest.Chain.BuiltIn
import SourceAttest.Network.Rpc

/-!
# The chain registry

The registry is loaded once and never changes. Loading may probe the nodes; a node that does not
answer is reported and stays registered.
-/
namespace SourceAttest

/-- Chains by id. -/
abbrev ChainRegistry := List (Json × Chain)

namespace ChainRegistry

def register (chain : Chain) : ChainRegistry → ChainRegistry
  | [] => [(chain.id, chain)]
  | (id, other) :: rest =>
    if id.equals chain.id then (id, chain) :: rest else (id, other) :: register chain rest

def ofChains (chains : List Chain) : ChainRegistry :=
  chains.foldl (fun registry chain => registry.register chain) []

/-- The chains in the order in which their ids were registered. -/
def chains (registry : ChainRegistry) : List Chain := registry.map Prod.snd

/-- The ids in the order of their registration. -/
def ids (registry : ChainRegistry) : List Json := registry.map Prod.fst

/-- The chain with an id. Lists and objects cannot even be looked up. -/
def find? (registry : ChainRegistry) : Json → Except ShapeFault (Option Chain)
  | .array _ => .error (.notKey "list")
  | .object _ => .error (.notKey "dict")
  | id => .ok ((List.find? (fun entry => entry.1.equals id) registry).map Prod.snd)

def chain (registry : ChainRegistry) (id : Json) : Except Fault Chain :=
  match registry.find? id with
  | .error why => .error (.shape why)
  | .ok (some chain) => .ok chain
  | .ok none => .error (.chainNotFound id)

/-- The chain with an id, as an entry of the registry. -/
def entry (registry : ChainRegistry) (id : Json) : Except ShapeFault Chain :=
  match registry.find? id with
  | .error why => .error why
  | .ok (some chain) => .ok chain
  | .ok none => .error (.noMember id)

def place : String × Json := ("loc", .string "[INIT_CHAINS]")

/-- Probe the node of the first chain. -/
def probeProvider (logger : Logger) : List Chain → Action Unit
  | [] => pure ()
  | chain :: _ => do
    logger.info "started checking providerPID" [place]
    let node ← Action.ofShape chain.node
    if ← Rpc.isReachable node defaultTimeout then pure ()
    else logger.warning "Provider endpoint unreachable" [place, ("chain", chain.id)]
    logger.info "finished checking providerPID" [place]

def probeNodes (logger : Logger) : List Chain → Action Unit
  | [] => pure ()
  | chain :: rest => do
    let node ← Action.ofShape chain.node
    if ← Rpc.isReachable node defaultTimeout then pure ()
    else
      logger.warning ("Invalid endpoint for chain " ++ chain.name.plain)
        [place, ("endpoint", node)]
    probeNodes logger rest

structure Options where
  providerId : Json
  offline : Bool
  checkEndpoints : Bool
  table : ChainTable
  logger : Logger

/-- Load a registry: through the provider if there is a project id, else with self-hosted nodes. -/
def load (options : Options) : Action ChainRegistry :=
  if options.offline then pure []
  else do
    let byProvider := options.providerId.isTruthy
    let mode : Json := .string (if byProvider then "provider" else "fullnode")
    let chains ← Action.ofExcept (loadChains mode options.providerId options.table)
    if options.checkEndpoints then
      if byProvider then probeProvider options.logger chains else probeNodes options.logger chains
    let registry := ofChains chains
    options.logger.info "Finished loading chains" [place, ("numberOfChains", .int registry.length)]
    return registry

end ChainRegistry

end SourceAttest
