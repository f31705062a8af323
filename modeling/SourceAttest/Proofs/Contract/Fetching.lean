import SourceAttest.Proofs.Contract.SuitableSources

/-!
# Fetching, source by source

Each missing source is asked for at its URLs, one after the other, until an answer has the recorded
hash. The main result is `fetchMissing_supplies`: whatever the network answers, no source is lost, none
that was at hand changes, and none is taken with another content than the recorded one. The requests
are determined by the answers to them (`Asks.unique`).
-/
namespace SourceAttest.Contract

open SourceAttest.Action

/-! ### What fetching leaves -/

/-- Sources have been moved from the missing ones to those at hand, each with the content that its
hash records, and nothing else has changed. -/
structure Supplies (before after : Contract) : Prop where
  paths : after.paths.Perm before.paths
  lacking : after.missing.Sublist before.missing
  kept : ∀ path content, before.sources.get? path = some content →
    after.sources.get? path = some content
  right : ∀ path source, (path, source) ∈ before.missing → path ∈ after.sources.keys →
    ∃ content, after.sources.get? path = some (.string content) ∧ sourceHash content = source.hash

section

variable {contract before middle completed : Contract} {path content : String}

theorem not_missing_of_atHand (distinct : contract.paths.Nodup)
    (atHand : path ∈ contract.sources.keys) : path ∉ contract.missing.keys := by
  obtain ⟨_, _, apart⟩ := List.nodup_append.mp distinct
  exact fun lacking => apart path atHand path lacking rfl

theorem Supplies.refl (distinct : contract.paths.Nodup) : Supplies contract contract where
  paths := .refl _
  lacking := .refl _
  kept _ _ found := found
  right _ _ lacking atHand :=
    absurd (List.mem_map.mpr ⟨_, lacking, rfl⟩) (not_missing_of_atHand distinct atHand)

/-- One more source is moved, with the right content. -/
theorem Supplies.supply (distinct : before.paths.Nodup) (supplies : Supplies before middle)
    {source : MissingSource} (lacking : (path, source) ∈ middle.missing)
    (right : sourceHash content = source.hash) : Supplies before (middle.supply path content) := by
  have distinct' : middle.paths.Nodup := supplies.paths.nodup_iff.mpr distinct
  have listed : path ∈ middle.missing.keys := List.mem_map.mpr ⟨_, lacking, rfl⟩
  have new : path ∉ middle.sources.keys := fun atHand => not_missing_of_atHand distinct' atHand listed
  have other {path' : String} (atHand : path' ∈ middle.sources.keys) : path' ≠ path := by
    rintro rfl
    exact new atHand
  constructor
  case paths =>
    have grown : (middle.supply path content).paths
        = middle.sources.keys ++ path :: (middle.missing.erase path).keys := by
      simp [Contract.paths, Contract.supply, Table.put_of_new new, Table.keys]
    rw [grown]
    exact ((Table.perm_keys_erase listed).append_left _).trans supplies.paths
  case lacking => exact (Table.erase_sublist _ _).trans supplies.lacking
  case kept =>
    intro path' content' found
    have held := supplies.kept path' content' found
    have different := other (List.mem_map.mpr ⟨_, Table.mem_of_get? held, rfl⟩)
    rwa [Contract.supply, Table.get?_put_of_ne different]
  case right =>
    intro path' source' lacking' atHand
    rcases (Table.mem_keys_put ..).mp atHand with rfl | before_atHand
    · -- The path is missing only once, so the hash is the one that the content has.
      have once := (List.nodup_append.mp distinct).2.1
      cases Table.eq_of_mem_of_nodup once (supplies.lacking.subset lacking) lacking'
      exact ⟨content, Table.get?_put_self .., right⟩
    · rw [Contract.supply, Table.get?_put_of_ne (other before_atHand)]
      exact supplies.right path' source' lacking' before_atHand

end

section

variable {gateways : Gateways} {logger : Logger} {contract before middle completed : Contract}
  {world : World} {session final : Session}

theorem supplies_of_fetchEach (distinct : contract.paths.Nodup) {fault : Option Fault}
    (returned : fetchEach gateways logger contract.missing contract world session
      = (.ok (completed, fault), final)) : Supplies contract completed := by
  -- The sources that are yet to come are missing all the while, each of them once.
  have kept := fetchEach_induction (fun rest reached =>
    (Table.keys rest).Nodup ∧ rest ⊆ reached.missing ∧ Supplies contract reached)
    ?pass ?supply ⟨(List.nodup_append.mp distinct).2.1, fun _ member => member, .refl distinct⟩ returned
  · exact kept.choose_spec.2.2
  case pass =>
    rintro entry rest reached ⟨once, lacking, supplies⟩
    exact ⟨(List.nodup_cons.mp once).2, List.Subset.trans (List.subset_cons_self _ _) lacking, supplies⟩
  case supply =>
    rintro path source rest reached content ⟨once, lacking, supplies⟩ right
    obtain ⟨new, once⟩ := List.nodup_cons.mp once
    refine ⟨once, fun other member => ?_, supplies.supply distinct (lacking List.mem_cons_self) right⟩
    apply Table.mem_erase_of_ne _ (lacking (List.mem_cons_of_mem _ member))
    rintro same
    exact new (List.mem_map.mpr ⟨other, member, same⟩)

theorem failsOnly_fetchMissing (gateways : Gateways) (logger : Logger) (contract : Contract) :
    (contract.fetchMissing gateways logger).FailsOnly fun _ => False := by
  have each (missing : List (String × MissingSource)) (contract : Contract) :
      (fetchEach gateways logger missing contract).FailsOnly fun _ => False := by
    induction missing generalizing contract with
    | nil => exact .pure _
    | cons entry rest ih =>
      refine .bind (.attempt _) fun outcome => ?_
      split
      · exact .pure _
      · exact ih _
      · exact ih _
  refine .bind (each _ _) fun ⟨_, fault⟩ => ?_
  cases fault with
  | some fault => exact .pure _
  | none =>
    dsimp only
    split
    · exact .pure _
    · exact .pure _

/-- Fetching always comes to an end, and the contract comes back as far as it is completed. -/
theorem fetchMissing_returns (gateways : Gateways) (logger : Logger) (contract : Contract)
    (world : World) (session : Session) : ∃ completed fault final,
      contract.fetchMissing gateways logger world session = (.ok (completed, fault), final) := by
  cases run : contract.fetchMissing gateways logger world session with
  | mk outcome final =>
    cases outcome with
    | error fault =>
      exact ((failsOnly_fetchMissing gateways logger contract).faults (congrArg Prod.fst run)).elim
    | ok reached => exact ⟨reached.1, reached.2, final, rfl⟩

end

/-! ### Requests -/

def fetchRequest (url : String) : HttpRequest := ⟨.get, .string url, none, defaultTimeout⟩

/-- The URL that is asked for a listed one, if its scheme is known. -/
def Gateways.target? (gateways : Gateways) : Json → Option String
  | .string listed =>
    match gateways.resolve? listed with
    | .ok found => found
    | .error _ => none
  | _ => none

def Gateways.targets (gateways : Gateways) (urls : List Json) : List String :=
  urls.filterMap gateways.target?

/-- After the calls so far, a URL is answered with a text that has the hash. -/
def Yields (network : Network) (hash : String) (calls : List HttpRequest) (url content : String) :
    Prop :=
  (network calls (fetchRequest url)).accepted (.string url) = .ok content ∧ sourceHash content = hash

/-- Asked for one after the other, none of the URLs is answered with a text that has the hash. -/
def InVain (network : Network) (hash : String) (calls : List HttpRequest) (urls : List String) :
    Prop :=
  ∀ early url late, urls = early ++ url :: late →
    ∀ content, ¬ Yields network hash (calls ++ early.map fetchRequest) url content

/-- Which of the URLs for a source are asked for, and the content that this comes to. -/
inductive Asks (network : Network) (hash : String) (calls : List HttpRequest) (targets : List String) :
    List String → Option String → Prop
  /-- The last URL that is asked for is the first one that yields the content. -/
  | found {failed rest : List String} {url content : String} (inOrder : targets = failed ++ url :: rest)
      (inVain : InVain network hash calls failed)
      (yields : Yields network hash (calls ++ failed.map fetchRequest) url content) :
      Asks network hash calls targets (failed ++ [url]) (some content)
  | exhausted (inVain : InVain network hash calls targets) :
      Asks network hash calls targets targets none

/-- The URLs that were asked for in search of a source, and the content that was found. -/
structure Hunt where
  asked : List String
  content : Option String

def Hunt.calls (hunt : Hunt) : List HttpRequest := hunt.asked.map fetchRequest

/-- The hunts for missing sources, one after the other. -/
inductive Hunts (network : Network) (gateways : Gateways) :
    List HttpRequest → List (String × MissingSource) → Table String Hunt → Prop
  | none (calls : List HttpRequest) : Hunts network gateways calls [] []
  | next {calls : List HttpRequest} {path : String} {source : MissingSource} {hunt : Hunt}
      {rest : List (String × MissingSource)} {hunts : Table String Hunt}
      (asks : Asks network source.hash calls (gateways.targets source.urls) hunt.asked hunt.content)
      (others : Hunts network gateways (calls ++ hunt.calls) rest hunts) :
      Hunts network gateways calls ((path, source) :: rest) ((path, hunt) :: hunts)

def supplyHunt (contract : Contract) (path : String) (hunt : Hunt) : Contract :=
  match hunt.content with
  | some content => contract.supply path content
  | none => contract

/-- What was found on hunts is supplied. -/
def supplyFound (contract : Contract) : Table String Hunt → Contract
  | [] => contract
  | (path, hunt) :: rest => (contract.supplyHunt path hunt).supplyFound rest

section

variable {network : Network} {hash url : String} {calls : List HttpRequest}

theorem InVain.nil : InVain network hash calls [] := by
  intro early other late split
  simp at split

theorem InVain.cons {urls : List String} (first : ∀ content, ¬ Yields network hash calls url content)
    (later : InVain network hash (calls ++ [fetchRequest url]) urls) :
    InVain network hash calls (url :: urls) := by
  intro early other late split content
  cases early with
  | nil =>
    cases split
    rw [List.map_nil, List.append_nil]
    exact first content
  | cons head early =>
    cases split
    rw [List.map_cons, List.append_cons]
    exact later early other late rfl content

/-- A URL that yields nothing does not change what comes of the others. -/
theorem Asks.after_failure {targets asked : List String} {content : Option String}
    (failed : ∀ content, ¬ Yields network hash calls url content)
    (asks : Asks network hash (calls ++ [fetchRequest url]) targets asked content) :
    Asks network hash calls (url :: targets) (url :: asked) content := by
  cases asks with
  | found inOrder inVain yields =>
    rw [← List.cons_append]
    refine .found (by rw [inOrder, List.cons_append]) (inVain.cons failed) ?_
    rwa [List.map_cons, List.append_cons]
  | exhausted inVain => exact .exhausted (inVain.cons failed)

theorem Asks.first {targets : List String} {content : String}
    (yields : Yields network hash calls url content) :
    Asks network hash calls (url :: targets) [url] (some content) := by
  apply Asks.found (List.nil_append _).symm .nil
  rwa [List.map_nil, List.append_nil]

/-- A URL that yields the content does not stand among those that are asked for in vain. -/
theorem not_later_of_yields {early late failed rest : List String} {other content : String}
    (yields : Yields network hash (calls ++ early.map fetchRequest) url content)
    (inVain : InVain network hash calls failed)
    (split : early ++ url :: late = failed ++ other :: rest) :
    ∃ more, early = failed ++ more ∧ other :: rest = more ++ url :: late := by
  rcases List.append_eq_append_iff.mp split with ⟨more, isFailed, behind⟩ | ⟨more, isEarly, behind⟩
  · cases more with
    | nil => exact ⟨[], by simpa using isFailed.symm, by simpa using behind.symm⟩
    | cons head more =>
      cases behind
      exact absurd yields (inVain early url more isFailed content)
  · exact ⟨more, isEarly, behind⟩

/-- What is asked for, and what comes of it, is determined by the answers. -/
theorem Asks.unique {targets asked asked' : List String} {content content' : Option String}
    (asks : Asks network hash calls targets asked content)
    (asks' : Asks network hash calls targets asked' content') : asked = asked' ∧ content = content' := by
  cases asks with
  | found inOrder inVain yields =>
    cases asks' with
    | found inOrder' inVain' yields' =>
      obtain ⟨more, rfl, behind⟩ := not_later_of_yields yields inVain' (inOrder.symm.trans inOrder')
      obtain ⟨more', same, _⟩ := not_later_of_yields yields' inVain (inOrder'.symm.trans inOrder)
      -- Neither list of failures is longer than the other one.
      have noMore : more = [] := by
        have lengths := congrArg List.length same
        rw [List.length_append, List.length_append] at lengths
        apply List.eq_nil_of_length_eq_zero
        omega
      subst noMore
      cases behind
      rw [List.append_nil] at yields
      cases yields.1.symm.trans yields'.1
      simp
    | exhausted inVain' => exact absurd yields (inVain' _ _ _ inOrder _)
  | exhausted inVain =>
    cases asks' with
    | found inOrder' _ yields' => exact absurd yields' (inVain _ _ _ inOrder' _)
    | exhausted => exact ⟨rfl, rfl⟩

end

section

variable {gateways : Gateways} {logger : Logger} {contract : Contract} {world : World}
  {session : Session}

/-- One request for a source. It is answered with the content, or its failure is reported and the
other URLs are tried. -/
theorem fetchSource_cons_run (logger : Logger) (path hash : String) {listed target : String}
    (resolved : gateways.resolve? listed = .ok (some target)) (rest : List Json) (world : World)
    (session : Session) :
    ∃ after : Session, after.requests = session.requests ++ [fetchRequest target] ∧
      ((∃ content, Yields world.network hash session.requests target content ∧
        fetchSource gateways logger path hash (.string listed :: rest) world session
          = (.ok (some content), after)) ∨
      (∀ content, ¬ Yields world.network hash session.requests target content) ∧
        fetchSource gateways logger path hash (.string listed :: rest) world session
          = fetchSource gateways logger path hash rest world after) := by
  have read : Action.ofShape ((Json.string listed).text "startswith") world session
      = (.ok listed, session) := rfl
  have found : Action.ofShape (gateways.resolve? listed) world session
      = (.ok (some target), session) := by
    rw [resolved]
    rfl
  have sent : Action.send ⟨.get, .string target, none, defaultTimeout⟩ world session
      = (.ok (world.network session.requests (fetchRequest target)),
          { session with requests := session.requests ++ [fetchRequest target] }) := rfl
  rw [fetchSource, bind_of_ok read, bind_of_ok found]
  dsimp only
  rw [bind_of_ok sent]
  -- The reports are not named: what comes later depends on the requests only.
  cases told : (world.network session.requests (fetchRequest target)).accepted (.string target) with
  | error reason =>
    refine ⟨_, rfl, .inr ⟨fun content yields => ?_, bind_of_ok rfl⟩⟩
    cases told.symm.trans yields.1
  | ok content =>
    dsimp only
    by_cases right : sourceHash content = hash
    · rw [if_pos right]
      exact ⟨_, rfl, .inl ⟨content, ⟨told, right⟩, bind_of_ok rfl⟩⟩
    · rw [if_neg right]
      refine ⟨_, rfl, .inr ⟨fun other yields => ?_, bind_of_ok rfl⟩⟩
      cases told.symm.trans yields.1
      exact right yields.2

theorem fetchSource_run (logger : Logger) (path hash : String)
    (resolves : ∀ listed, ∃ found, gateways.resolve? listed = .ok found) {urls : List Json}
    (texts : ∀ listed ∈ urls, ∃ url, listed = .string url) (world : World) (session : Session) :
    ∃ asked content final,
      fetchSource gateways logger path hash urls world session = (.ok content, final) ∧
      Asks world.network hash session.requests (gateways.targets urls) asked content ∧
      final.requests = session.requests ++ asked.map fetchRequest := by
  induction urls generalizing session with
  | nil => exact ⟨[], none, session, rfl, .exhausted .nil, by simp⟩
  | cons first rest ih =>
    obtain ⟨⟨listed, rfl⟩, others⟩ := List.forall_mem_cons.mp texts
    obtain ⟨found, resolved⟩ := resolves listed
    have isTarget : gateways.target? (.string listed) = found := by
      rw [Gateways.target?, resolved]
    cases found with
    | none =>
      -- A URL with another scheme is passed over.
      have skipped : fetchSource gateways logger path hash (.string listed :: rest) world session
          = fetchSource gateways logger path hash rest world session := by
        have read : Action.ofShape (gateways.resolve? listed) world session = (.ok none, session) := by
          rw [resolved]
          rfl
        exact bind_of_ok read
      rw [skipped, Gateways.targets, List.filterMap_cons_none isTarget]
      exact ih others session
    | some target =>
      rw [Gateways.targets, List.filterMap_cons_some isTarget]
      obtain ⟨after, sent, ⟨content, yields, run⟩ | ⟨failed, run⟩⟩ :=
        fetchSource_cons_run logger path hash resolved rest world session
      · exact ⟨[target], some content, after, run, .first yields, sent⟩
      · obtain ⟨asked, content, final, later, asks, calls⟩ := ih others after
        rw [sent] at asks calls
        refine ⟨target :: asked, content, final, run.trans later, asks.after_failure failed, ?_⟩
        rw [calls, List.map_cons, List.append_assoc, List.singleton_append]

/-- The sources are hunted for one after the other, and what is found is supplied. -/
theorem fetchEach_run (logger : Logger)
    (resolves : ∀ listed, ∃ found, gateways.resolve? listed = .ok found)
    {missing : List (String × MissingSource)}
    (texts : ∀ entry ∈ missing, ∀ listed ∈ entry.2.urls, ∃ url, listed = .string url)
    (contract : Contract) (world : World) (session : Session) :
    ∃ hunts final, fetchEach gateways logger missing contract world session
        = (.ok (contract.supplyFound hunts, none), final) ∧
      Hunts world.network gateways session.requests missing hunts ∧
      final.requests = session.requests ++ hunts.flatMap fun hunt => hunt.2.calls := by
  induction missing generalizing contract session with
  | nil => exact ⟨[], session, rfl, .none _, by simp⟩
  | cons entry rest ih =>
    obtain ⟨path, source⟩ := entry
    obtain ⟨first, texts⟩ := List.forall_mem_cons.mp texts
    obtain ⟨asked, content, middle, run, asks, sent⟩ :=
      fetchSource_run logger path source.hash resolves first world session
    have attempted := attempt_eq_ok.mpr run
    -- The calls of this hunt come before those of the others.
    have calls (hunts : Table String Hunt) : session.requests ++
        ((path, Hunt.mk asked content) :: hunts).flatMap (fun hunt => hunt.2.calls)
          = middle.requests ++ hunts.flatMap fun hunt => hunt.2.calls := by
      rw [sent, List.flatMap_cons, List.append_assoc]
      rfl
    have isNext {hunts : Table String Hunt}
        (others : Hunts world.network gateways middle.requests rest hunts) :
        Hunts world.network gateways session.requests ((path, source) :: rest)
          ((path, ⟨asked, content⟩) :: hunts) := by
      rw [sent] at others
      exact .next asks others
    cases content with
    | none =>
      obtain ⟨hunts, final, later, others, sent'⟩ := ih texts contract middle
      refine ⟨(path, ⟨asked, none⟩) :: hunts, final, (bind_of_ok attempted).trans later,
        isNext others, ?_⟩
      rw [calls, sent']
    | some content =>
      obtain ⟨hunts, final, later, others, sent'⟩ := ih texts (contract.supply path content) middle
      refine ⟨(path, ⟨asked, some content⟩) :: hunts, final, (bind_of_ok attempted).trans later,
        isNext others, ?_⟩
      rw [calls, sent']

end

/-! ### What comes of hunts -/

/-- What has come of a hunt: the source is missing if and only if nothing was found, and else the
content that was found is at hand. -/
structure Ended (contract : Contract) (path : String) (hunt : Hunt) : Prop where
  missing : path ∈ contract.missing.keys ↔ hunt.content = none
  found : ∀ content, hunt.content = some content →
    contract.sources.get? path = some (.string content)

section

variable {contract : Contract} {path : String} {hunt : Hunt}

theorem ended_supplyHunt (once : contract.missing.keys.Nodup) (lacking : path ∈ contract.missing.keys) :
    Ended (contract.supplyHunt path hunt) path hunt := by
  obtain ⟨asked, _ | content⟩ := hunt
  · exact ⟨iff_of_true lacking rfl, fun content found => by cases found⟩
  · constructor
    · exact iff_of_false (Table.not_mem_keys_erase once lacking) (Option.some_ne_none content)
    · rintro _ ⟨⟩
      exact Table.get?_put_self ..

/-- A hunt for another source changes nothing. -/
theorem Ended.supplyHunt (ended : Ended contract path hunt) {other : String} (different : path ≠ other)
    (hunt' : Hunt) : Ended (contract.supplyHunt other hunt') path hunt := by
  obtain ⟨asked, _ | content⟩ := hunt'
  · exact ended
  · constructor
    · exact (Table.mem_keys_erase_iff different).trans ended.missing
    · intro content' found
      exact (Table.get?_put_of_ne different ..).trans (ended.found content' found)

theorem Ended.supplyFound (ended : Ended contract path hunt) {hunts : Table String Hunt}
    (new : path ∉ hunts.keys) : Ended (contract.supplyFound hunts) path hunt := by
  induction hunts generalizing contract with
  | nil => exact ended
  | cons first rest ih =>
    obtain ⟨different, others⟩ := not_or.mp (mt List.mem_cons.mpr new)
    exact ih (ended.supplyHunt different first.2) others

theorem ended_supplyFound {hunts : Table String Hunt} (distinct : hunts.keys.Nodup)
    (once : contract.missing.keys.Nodup) (lacking : ∀ path ∈ hunts.keys, path ∈ contract.missing.keys)
    (member : (path, hunt) ∈ hunts) : Ended (contract.supplyFound hunts) path hunt := by
  induction hunts generalizing contract with
  | nil => cases member
  | cons first rest ih =>
    obtain ⟨other, hunt'⟩ := first
    obtain ⟨new, distinct⟩ := List.nodup_cons.mp distinct
    obtain ⟨first, others⟩ := List.forall_mem_cons.mp lacking
    rcases List.mem_cons.mp member with same | later
    · cases same
      exact (ended_supplyHunt once first).supplyFound new
    · have remain : (contract.supplyHunt other hunt').missing.Sublist contract.missing := by
        obtain ⟨asked, _ | content⟩ := hunt'
        · exact .refl _
        · exact Table.erase_sublist _ _
      refine ih distinct ((remain.map Prod.fst).nodup once) (fun path' named => ?_) later
      have different : path' ≠ other := by
        rintro rfl
        exact new named
      obtain ⟨asked, _ | content⟩ := hunt'
      · exact others path' named
      · exact Table.mem_keys_erase_of_ne different (others path' named)

end

theorem Hunts.keys_eq {network : Network} {gateways : Gateways} {calls : List HttpRequest}
    {missing : List (String × MissingSource)} {hunts : Table String Hunt}
    (isHunts : Hunts network gateways calls missing hunts) : hunts.keys = Table.keys missing := by
  induction isHunts with
  | none => rfl
  | next _ _ ih => exact congrArg _ ih

theorem Gateways.exists_resolve? (ipfs swarm listed : String) :
    ∃ found, (Gateways.mk (.string ipfs) (.string swarm)).resolve? listed = .ok found := by
  unfold Gateways.resolve?
  split
  · exact ⟨_, rfl⟩
  · exact ⟨_, rfl⟩
  · exact ⟨_, rfl⟩

theorem perm_sortedPaths (paths : List String) : (sortedPaths paths).Perm paths :=
  List.mergeSort_perm _ _

/-- Paths that are told apart are sorted strictly. -/
theorem pairwise_sortedPaths {paths : List String} (distinct : paths.Nodup) :
    (sortedPaths paths).Pairwise (· < ·) := by
  have ordered : (sortedPaths paths).Pairwise fun a b => (!(b < a : Bool)) = true := by
    apply List.pairwise_mergeSort
    · intro a b c
      simp only [Bool.not_eq_true', decide_eq_false_iff_not, String.not_lt]
      exact String.le_trans
    · intro a b
      simp only [Bool.or_eq_true, Bool.not_eq_true', decide_eq_false_iff_not, String.not_lt]
      exact String.le_total a b
  have distinct' : (sortedPaths paths).Nodup := (perm_sortedPaths paths).nodup_iff.mpr distinct
  refine (ordered.and distinct').imp fun ⟨notAfter, different⟩ => ?_
  simp only [Bool.not_eq_true', decide_eq_false_iff_not, String.not_lt] at notAfter
  exact String.not_le.mp fun after => different (String.le_antisymm notAfter after)

/-- Fetching loses no source, changes none that was at hand, and takes none with another content than
the recorded one, whatever the network answers. If all listed URLs are texts, the URLs for each missing
source are asked for in their order until one yields the content, and what is still missing then is
named in a fault, sorted. -/
theorem fetchMissing_supplies {contract : Contract} (distinct : contract.paths.Nodup)
    (gateways : Gateways) (logger : Logger) (world : World) (session : Session) :
    ∃ completed fault final,
      contract.fetchMissing gateways logger world session = (.ok (completed, fault), final) ∧
      completed.paths.Nodup ∧ Supplies contract completed ∧ (fault = none → completed.missing = []) ∧
      ∀ ipfs swarm, gateways = ⟨.string ipfs, .string swarm⟩ →
        (∀ entry ∈ contract.missing, ∀ listed ∈ entry.2.urls, ∃ url, listed = .string url) →
          ∃ hunts, Hunts world.network gateways session.requests contract.missing hunts ∧
            final.requests = session.requests ++ hunts.flatMap (fun hunt => hunt.2.calls) ∧
            (∀ path hunt, (path, hunt) ∈ hunts → Ended completed path hunt) ∧
            (completed.missing = [] → fault = none) ∧
            (completed.missing ≠ [] → ∃ paths, paths.Perm completed.missing.keys ∧
              paths.Pairwise (· < ·) ∧ ∃ why, fault = some why ∧ why.kind = .compilation ∧
              why.message = "Could not fetch missing sources: " ++ ", ".intercalate paths) := by
  obtain ⟨completed, fault, final, run⟩ := fetchMissing_returns gateways logger contract world session
  obtain ⟨why, each, closing⟩ := fetchMissing_cases run
  have once : contract.missing.keys.Nodup := (List.nodup_append.mp distinct).2.1
  have supplies : Supplies contract completed :=
    supplies_of_fetchEach distinct each
  have distinct' : completed.paths.Nodup := supplies.paths.nodup_iff.mpr distinct
  refine ⟨completed, fault, final, run, distinct', supplies, ?complete, ?requests⟩
  case complete =>
    rintro rfl
    exact isComplete_iff.mp (fetchMissing_eq_ok run).2
  case requests =>
    rintro ipfs swarm rfl texts
    -- With texts for the gateways and the URLs, there is one hunt for each source that is missing.
    obtain ⟨hunts, final', each', isHunts, sent⟩ := fetchEach_run logger
      (Gateways.exists_resolve? ipfs swarm) texts contract world session
    cases each.symm.trans each'
    have keys := isHunts.keys_eq
    refine ⟨hunts, isHunts, sent, fun path hunt member => ?_, fun complete => ?_, fun incomplete => ?_⟩
    · exact ended_supplyFound (keys ▸ once) once (fun path named => keys ▸ named) member
    · rw [closing, closingFault, if_pos (isComplete_iff.mpr complete)]
    · have once' : (contract.supplyFound hunts).missing.keys.Nodup :=
        (List.nodup_append.mp distinct').2.1
      have named : fault = some (.compilation
          (.sourcesNotFetched (sortedPaths (contract.supplyFound hunts).missing.keys))) := by
        rw [closing, closingFault, if_neg (mt isComplete_iff.mp incomplete)]
      exact ⟨_, perm_sortedPaths _, pairwise_sortedPaths once', _, named, rfl, rfl⟩

namespace Halfway

/-- One source is listed at a URL that is answered, and the other one only at a URL of another scheme. -/
def contract : Contract :=
  ⟨.string "A", "a.sol", .null, [],
    [("a.sol", ⟨sourceHash "contract A", [.string "ftp://a", .string "http://a"]⟩),
      ("b.sol", ⟨sourceHash "contract B", [.string "ftp://b"]⟩)]⟩

def gateways : Gateways := ⟨.string "http://ipfs/", .string "http://swarm/"⟩

def world : World := ⟨fun _ _ => .answered 200 "OK" "contract A", [], fun _ => .notFound, []⟩

theorem texts : ∀ entry ∈ contract.missing, ∀ listed ∈ entry.2.urls, ∃ url, listed = .string url := by
  simp [contract]

theorem targets_first : gateways.targets [.string "ftp://a", .string "http://a"] = ["http://a"] := by
  decide +kernel

theorem targets_second : gateways.targets [.string "ftp://b"] = [] := by decide +kernel

theorem asks_first (calls : List HttpRequest) :
    Asks world.network (sourceHash "contract A") calls ["http://a"] ["http://a"] (some "contract A") :=
  .first ⟨rfl, rfl⟩

theorem asks_second (calls : List HttpRequest) :
    Asks world.network (sourceHash "contract B") calls [] [] none := .exhausted .nil

end Halfway

/-- The source that is answered is supplied by one request, and the other one is still missing. -/
theorem fetchMissing_supplies_of_two :
    Halfway.contract.paths.Nodup ∧ ∀ logger, ∃ completed why final,
      Halfway.contract.fetchMissing Halfway.gateways logger Halfway.world (.fresh [])
        = (.ok (completed, some why), final) ∧
      final.requests = [fetchRequest "http://a"] ∧
      completed.sources.get? "a.sol" = some (.string "contract A") ∧
      "b.sol" ∈ completed.missing.keys := by
  have distinct : Halfway.contract.paths.Nodup := by decide
  refine ⟨distinct, fun logger => ?_⟩
  obtain ⟨completed, fault, final, run, _, _, _, requests⟩ :=
    fetchMissing_supplies distinct Halfway.gateways logger Halfway.world (.fresh [])
  obtain ⟨hunts, isHunts, sent, ended, _, incomplete⟩ := requests _ _ rfl Halfway.texts
  cases isHunts with
  | @next _ _ _ first _ _ asks others =>
    cases others with
    | @next _ _ _ second _ _ asks' others =>
      cases others
      obtain ⟨asked, found⟩ := (Halfway.targets_first ▸ asks).unique (Halfway.asks_first _)
      obtain ⟨asked', found'⟩ := (Halfway.targets_second ▸ asks').unique (Halfway.asks_second _)
      have lacking : "b.sol" ∈ completed.missing.keys :=
        (ended "b.sol" second (by simp)).missing.mpr found'
      have notComplete : completed.missing ≠ [] := by
        intro complete
        simp [complete, Table.keys] at lacking
      obtain ⟨paths, _, _, why, rfl, _⟩ := incomplete notComplete
      refine ⟨completed, why, final, run, ?_, (ended "a.sol" first (by simp)).found _ found, lacking⟩
      rw [sent]
      simp [Hunt.calls, asked, asked', Session.fresh]

end SourceAttest.Contract
