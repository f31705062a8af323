import SourceAttest.Contract.Fetch
import SourceAttest.Proofs.Json.Shape
import SourceAttest.Proofs.Limits
import SourceAttest.Proofs.Table

/-!
# Completing a contract

Fetching moves sources from the missing ones to those at hand. The main result is
`completes_of_complete`: a completed contract has all its sources, and only under the paths of its
document. Nothing is asked for but the sources that are missing (`sendsOnly_complete`).
-/
namespace SourceAttest

open SourceAttest.Action

namespace Contract

variable {gateways : Gateways} {logger : Logger} {contract completed : Contract} {world : World}
  {session final : Session}

def paths (contract : Contract) : List String := contract.sources.keys ++ contract.missing.keys

/-- A contract as it is with all its sources, which it has under its own paths. -/
structure Completes (completed contract : Contract) : Prop where
  name : completed.name = contract.name
  paths : ∀ path ∈ completed.sources.keys, path ∈ contract.paths
  isComplete : completed.isComplete = true

theorem sourceHash_of_fetchSource {path hash content : String} {urls : List Json}
    (returned : fetchSource gateways logger path hash urls world session = (.ok (some content), final)) :
    sourceHash content = hash := by
  induction urls generalizing session with
  | nil => cases (pure_eq_ok.mp returned).1
  | cons listed rest ih =>
    obtain ⟨url, _, _, returned⟩ := bind_eq_ok.mp returned
    obtain ⟨resolved, _, _, returned⟩ := bind_eq_ok.mp returned
    split at returned
    · exact ih returned
    next url _ =>
      obtain ⟨reply, _, _, returned⟩ := bind_eq_ok.mp returned
      cases accepted : reply.accepted (.string url) with
      | error reason =>
        rw [accepted] at returned
        obtain ⟨_, _, _, returned⟩ := bind_eq_ok.mp returned
        exact ih returned
      | ok fetched =>
        rw [accepted] at returned
        dsimp only at returned
        split at returned
        next right =>
          obtain ⟨_, _, _, returned⟩ := bind_eq_ok.mp returned
          cases (pure_eq_ok.mp returned).1
          exact right
        · obtain ⟨_, _, _, returned⟩ := bind_eq_ok.mp returned
          exact ih returned

/-- What is kept when a source is passed over or supplied holds wherever fetching stops. -/
theorem fetchEach_induction (holds : List (String × MissingSource) → Contract → Prop)
    (pass : ∀ entry rest reached, holds (entry :: rest) reached → holds rest reached)
    (supply : ∀ path source rest reached content, holds ((path, source) :: rest) reached →
      sourceHash content = source.hash → holds rest (reached.supply path content))
    {missing : List (String × MissingSource)} (start : holds missing contract) {fault : Option Fault}
    (returned : fetchEach gateways logger missing contract world session
      = (.ok (completed, fault), final)) : ∃ rest, holds rest completed := by
  induction missing generalizing contract session with
  | nil =>
    cases (pure_eq_ok.mp returned).1
    exact ⟨[], start⟩
  | cons entry rest ih =>
    obtain ⟨outcome, _, fetching, returned⟩ := bind_eq_ok.mp returned
    cases outcome with
    | error fault =>
      cases (pure_eq_ok.mp returned).1
      exact ⟨_, start⟩
    | ok fetched =>
      cases fetched with
      | none => exact ih (pass _ _ _ start) returned
      | some content =>
        have right := sourceHash_of_fetchSource (attempt_eq_ok.mp fetching)
        exact ih (supply _ _ _ _ _ start right) returned

theorem paths_of_fetchEach {missing : List (String × MissingSource)} {fault : Option Fault}
    (returned : fetchEach gateways logger missing contract world session
      = (.ok (completed, fault), final)) :
    ∀ path ∈ completed.sources.keys, path ∈ contract.sources.keys ∨ path ∈ Table.keys missing := by
  have kept := fetchEach_induction (fun rest reached => rest ⊆ missing ∧
    ∀ path ∈ reached.sources.keys, path ∈ contract.sources.keys ∨ path ∈ Table.keys missing)
    ?pass ?supply ⟨fun _ member => member, fun _ => .inl⟩ returned
  · exact kept.choose_spec.2
  case pass =>
    rintro entry rest reached ⟨among, known⟩
    exact ⟨List.Subset.trans (List.subset_cons_self _ _) among, known⟩
  case supply =>
    rintro path source rest reached content ⟨among, known⟩ _
    refine ⟨List.Subset.trans (List.subset_cons_self _ _) among, fun other member => ?_⟩
    rcases (Table.mem_keys_put ..).mp member with rfl | before
    · exact .inr (List.mem_map.mpr ⟨_, among List.mem_cons_self, rfl⟩)
    · exact known other before

theorem isComplete_iff : contract.isComplete = true ↔ contract.missing = [] := List.isEmpty_iff

/-- The fault that fetching ends with: its own, or else that some sources are still missing. -/
def closingFault (completed : Contract) : Option Fault → Option Fault
  | some fault => some fault
  | none =>
    if completed.isComplete then none
    else some (.compilation (.sourcesNotFetched (sortedPaths completed.missing.keys)))

theorem fetchMissing_cases {fault : Option Fault}
    (returned : contract.fetchMissing gateways logger world session = (.ok (completed, fault), final)) :
    ∃ why, fetchEach gateways logger contract.missing contract world session
        = (.ok (completed, why), final) ∧ fault = closingFault completed why := by
  obtain ⟨⟨last, why⟩, _, each, concluded⟩ := bind_eq_ok.mp returned
  cases why with
  | some fault =>
    obtain ⟨same, rfl⟩ := pure_eq_ok.mp concluded
    cases same
    exact ⟨_, each, rfl⟩
  | none =>
    dsimp only at concluded
    split at concluded
    next complete =>
      obtain ⟨same, rfl⟩ := pure_eq_ok.mp concluded
      cases same
      exact ⟨_, each, (if_pos complete).symm⟩
    next incomplete =>
      obtain ⟨same, rfl⟩ := pure_eq_ok.mp concluded
      cases same
      exact ⟨_, each, (if_neg incomplete).symm⟩

/-- Fetching without a fault leaves nothing missing. -/
theorem fetchMissing_eq_ok
    (returned : contract.fetchMissing gateways logger world session = (.ok (completed, none), final)) :
    fetchEach gateways logger contract.missing contract world session = (.ok (completed, none), final) ∧
      completed.isComplete = true := by
  obtain ⟨why, each, closing⟩ := fetchMissing_cases returned
  cases why with
  | some fault => cases closing
  | none =>
    refine ⟨each, Decidable.byContradiction fun incomplete => ?_⟩
    rw [closingFault, if_neg incomplete] at closing
    cases closing

theorem complete_eq_ok
    (returned : contract.complete gateways logger world session = (.ok completed, final)) :
    contract.isComplete = true ∧ completed = contract ∨
      contract.fetchMissing gateways logger world session = (.ok (completed, none), final) := by
  unfold complete at returned
  split at returned
  next complete => exact .inl ⟨complete, (pure_eq_ok.mp returned).1.symm⟩
  · obtain ⟨⟨fetched, fault⟩, _, fetching, returned⟩ := bind_eq_ok.mp returned
    cases fault with
    | some fault => exact absurd returned fail_ne_ok
    | none =>
      obtain ⟨rfl, rfl⟩ := pure_eq_ok.mp returned
      exact .inr fetching

/-- Nothing has to be done for a contract without missing sources. -/
theorem completes_self (complete : contract.isComplete = true) : contract.Completes contract :=
  ⟨rfl, fun _ member => List.mem_append_left _ member, complete⟩

theorem completes_of_complete
    (returned : contract.complete gateways logger world session = (.ok completed, final)) :
    completed.Completes contract := by
  rcases complete_eq_ok returned with ⟨complete, rfl⟩ | fetching
  · exact completes_self complete
  · obtain ⟨each, complete⟩ := fetchMissing_eq_ok fetching
    obtain ⟨_, named⟩ := fetchEach_induction (fun _ reached => reached.name = contract.name)
      (fun _ _ _ named => named) (fun _ _ _ _ _ named _ => named) rfl each
    have paths (path : String) (member : path ∈ completed.sources.keys) : path ∈ contract.paths :=
      List.mem_append.mpr (paths_of_fetchEach each path member)
    exact ⟨named, paths, complete⟩

/-! ### Requests -/

/-- A request for a missing source, at one of the URLs that are listed for it. -/
def Fetches (contract : Contract) (gateways : Gateways) (request : HttpRequest) : Prop :=
  ∃ path source item listed url, (path, source) ∈ contract.missing ∧ item ∈ source.urls ∧
    item.text? = some listed ∧ gateways.resolve? listed = .ok (some url) ∧
    request = ⟨.get, .string url, none, defaultTimeout⟩

section

variable {allowed : HttpRequest → Prop}

theorem sendsOnly_fetchSource (gateways : Gateways) (logger : Logger) (path hash : String)
    {urls : List Json} (may : ∀ item ∈ urls, ∀ listed url, item.text? = some listed →
      gateways.resolve? listed = .ok (some url) → allowed ⟨.get, .string url, none, defaultTimeout⟩) :
    (fetchSource gateways logger path hash urls).SendsOnly allowed := by
  induction urls with
  | nil => exact .pure _
  | cons item rest ih =>
    have later := ih fun other member => may other (List.mem_cons_of_mem _ member)
    refine .ofShape_bind fun listed isText => .ofShape_bind fun resolved found => ?_
    have first := may item List.mem_cons_self listed
    split
    · exact later
    next url =>
      refine .bind (.send (first url (Json.text_eq_ok_iff.mp isText) found)) fun reply => ?_
      split
      · exact .bind (.report ..) fun _ => later
      · split
        · exact .bind (.report ..) fun _ => .pure _
        · exact .bind (.report ..) fun _ => later

theorem sendsOnly_fetchEach (gateways : Gateways) (logger : Logger)
    {missing : List (String × MissingSource)} (contract : Contract)
    (may : ∀ entry ∈ missing, ∀ item ∈ entry.2.urls, ∀ listed url, item.text? = some listed →
      gateways.resolve? listed = .ok (some url) → allowed ⟨.get, .string url, none, defaultTimeout⟩) :
    (fetchEach gateways logger missing contract).SendsOnly allowed := by
  induction missing generalizing contract with
  | nil => exact .pure _
  | cons entry rest ih =>
    have later (contract : Contract) :=
      ih contract fun other member => may other (List.mem_cons_of_mem _ member)
    refine .bind (sendsOnly_fetchSource _ _ _ _ (may entry List.mem_cons_self)).attempt
      fun outcome => ?_
    split
    · exact .pure _
    · exact later _
    · exact later _

end

/-- Completing a contract asks for nothing but the sources that it misses. -/
theorem sendsOnly_complete (gateways : Gateways) (logger : Logger) (contract : Contract) :
    (contract.complete gateways logger).SendsOnly (contract.Fetches gateways) := by
  have each : (fetchEach gateways logger contract.missing contract).SendsOnly
      (contract.Fetches gateways) :=
    sendsOnly_fetchEach _ _ _ fun entry member item isListed listed url isText resolved =>
      ⟨entry.1, entry.2, item, listed, url, member, isListed, isText, resolved, rfl⟩
  have fetched : (fetchMissing gateways logger contract).SendsOnly (contract.Fetches gateways) := by
    refine .bind each fun ⟨_, fault⟩ => ?_
    cases fault with
    | some fault => exact .pure _
    | none =>
      dsimp only
      split
      · exact .pure _
      · exact .pure _
  unfold complete
  split
  · exact .pure _
  · refine .bind fetched fun ⟨_, fault⟩ => ?_
    cases fault with
    | none => exact .pure _
    | some fault => exact .fail _

end Contract

end SourceAttest
