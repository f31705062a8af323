import SourceAttest.Matching
import SourceAttest.Proofs.Address
import SourceAttest.Proofs.Comparison.Lookup
import SourceAttest.Proofs.Network.Rpc

/-!
# Searching the candidates

A search is a row of trials, one for each candidate in turn, and it ends with the first trial that
matches. A trial starts from the session that the trial before it has left, asks the node once, and
looks up creation data once or not at all. The main result is `firstMatch_by_trials`: whatever goes
wrong in a trial stays in it, except that the reason is told if there is no other candidate.
-/
namespace SourceAttest.Matching

open SourceAttest.Action

/-! ### Trials -/

/-- What all candidates of a search have in common. -/
structure Search where
  logger : Logger
  resolver : Resolver
  chain : Chain
  compiled : Compiled

/-- One candidate with what its node told and what the comparison came to. The sessions are those
before anything is done, after the node was asked, after the comparison, and at the end. -/
structure Trial where
  address : String
  code : Option String
  outcome : Except Fault Verdict
  before : Session
  asked : Session
  compared : Session
  after : Session

namespace Trial

def Matches (trial : Trial) : Prop :=
  ∃ verdict, trial.outcome = .ok verdict ∧ verdict.status ≠ .none

/-- Why a candidate does not match. -/
def reason (chain : Chain) (trial : Trial) : String :=
  match trial.outcome with
  | .ok _ => diagnose chain trial.address trial.code
  | .error _ => comparisonFailed

end Trial

namespace Search

def comparison (search : Search) (code : Option String) :
    Action (Option String) → Action Verdict :=
  compareValues (code.elim .null .string) .null search.compiled.runtime search.compiled.creation

/-- Asked in a session for the code at an address, the node tells it or fails as calls of nodes do. -/
def Tells (search : Search) (world : World) (address : String) (session : Session) : Prop :=
  ∃ node, search.chain.node = .ok node ∧ ∀ fault,
    (Rpc.currentCode node (.string address) world session).1 = .error fault → fault.kind = .rpc

/-- How a candidate is tried. -/
structure Tries (search : Search) (world : World) (trial : Trial) : Prop where
  /-- The node is asked for the code once. If it does not tell, there is none to compare. -/
  asks : ∃ node events, search.chain.node = .ok node ∧
    trial.code = (Rpc.currentCode node (.string trial.address) world trial.before).1.toOption ∧
    trial.asked = { trial.before with
      rpcCalls := trial.before.rpcCalls + 1
      requests := trial.before.requests ++
        [Rpc.codeRequest node trial.address (trial.before.rpcCalls + 1)]
      events := trial.before.events ++ events }
  compares : search.comparison trial.code
      (search.resolver search.logger search.chain trial.address) world trial.asked
    = (trial.outcome, trial.compared)
  /-- The resolver is asked once for codes that are equally long and different without their
  trailers, and not at all for others. -/
  looksUp : Decides (search.comparison trial.code) trial.outcome ∨
    ∃ code runtime creation, trial.code = some code ∧ search.compiled.runtime.text? = some runtime ∧
      Undecided code runtime ∧ LooksUp (search.comparison trial.code) creation
  reports : ∃ events, trial.after
    = { trial.compared with events := trial.compared.events ++ events }

/-- Trials one after the other, from a first session to a last one. -/
inductive Trials (search : Search) (world : World) : Session → List Trial → Session → Prop
  | none (session : Session) : Trials search world session [] session
  | next {trial : Trial} {rest : List Trial} {final : Session} (tries : search.Tries world trial)
      (others : Trials search world trial.after rest final) :
      Trials search world trial.before (trial :: rest) final

/-- It is the turn of an address: the ones before it have been tried, and none has matched. -/
def Turn (search : Search) (world : World) (session : Session) (addresses : List String)
    (address : String) (now : Session) : Prop :=
  ∃ tried, search.Trials world session tried now ∧ (∀ trial ∈ tried, ¬trial.Matches) ∧
    tried.map Trial.address ++ [address] <+: addresses

/-- The last trial is the first one that matches, and it gives the result. -/
inductive Finds : List String → List Trial → MatchResult → Prop
  | here {trial : Trial} {verdict : Verdict} {rest : List String}
      (outcome : trial.outcome = .ok verdict) (found : verdict.status ≠ .none) :
      Finds (trial.address :: rest) [trial]
        ⟨some trial.address, verdict.status, verdict.constructorArgs, none⟩
  | later {trial : Trial} {tried : List Trial} {rest : List String} {result : MatchResult}
      (failed : ¬trial.Matches) (finds : Finds rest tried result) :
      Finds (trial.address :: rest) (trial :: tried) result

/-- What a row of trials comes to. -/
inductive Concludes (search : Search) (addresses : List String) : List Trial → MatchResult → Prop
  | matched {tried : List Trial} {result : MatchResult} (finds : Finds addresses tried result) :
      Concludes search addresses tried result
  /-- The only candidate has been tried in vain, and the reason is told. -/
  | single {trial : Trial} (failed : ¬trial.Matches) (inTurn : addresses = [trial.address]) :
      Concludes search addresses [trial] ⟨none, .none, none, some (trial.reason search.chain)⟩
  /-- All candidates, of which there is not exactly one, have been tried in vain. -/
  | several {tried : List Trial} (failed : ∀ trial ∈ tried, ¬trial.Matches)
      (inTurn : addresses = tried.map Trial.address) (notSingle : addresses.length ≠ 1) :
      Concludes search addresses tried ⟨none, .none, none, none⟩

end Search

/-! ### One trial -/

section

variable {search : Search} {world : World} {session : Session} {address : String}

/-- The outcome of a trial: a match, or the reason why there is none. -/
def Trial.answer (chain : Chain) (trial : Trial) : Except String MatchResult :=
  match trial.outcome with
  | .ok verdict =>
    if verdict.status = .none then .error (diagnose chain trial.address trial.code)
    else .ok ⟨some trial.address, verdict.status, verdict.constructorArgs, none⟩
  | .error _ => .error comparisonFailed

theorem Trial.answer_eq_ok {chain : Chain} {trial : Trial} {result : MatchResult}
    (answered : trial.answer chain = .ok result) :
    ∃ verdict, trial.outcome = .ok verdict ∧ verdict.status ≠ .none ∧
      result = ⟨some trial.address, verdict.status, verdict.constructorArgs, none⟩ := by
  unfold Trial.answer at answered
  split at answered
  next verdict compared =>
    split at answered
    · cases answered
    next found =>
      cases answered
      exact ⟨verdict, compared, found, rfl⟩
  · cases answered

theorem Trial.answer_eq_error {chain : Chain} {trial : Trial} {reason : String}
    (answered : trial.answer chain = .error reason) :
    ¬trial.Matches ∧ reason = trial.reason chain := by
  unfold Trial.answer at answered
  unfold Trial.reason Trial.Matches
  split at answered
  next verdict compared =>
    split at answered
    next none =>
      cases answered
      refine ⟨?_, rfl⟩
      rintro ⟨other, same, found⟩
      rw [compared] at same
      cases same
      exact found none
    · cases answered
  next fault compared =>
    cases answered
    refine ⟨?_, rfl⟩
    rintro ⟨other, same, _⟩
    rw [compared] at same
    cases same

theorem deployedCode_run (tells : search.Tells world address session) (events : List Event) :
    ∃ node code reported, search.chain.node = .ok node ∧
      code = (Rpc.currentCode node (.string address) world session).1.toOption ∧
      deployedCode search.logger search.chain address world { session with events := events }
        = (.ok code, { session with
          rpcCalls := session.rpcCalls + 1
          requests := session.requests ++ [Rpc.codeRequest node address (session.rpcCalls + 1)]
          events := events ++ reported }) := by
  obtain ⟨node, isNode, faults⟩ := tells
  have attempted := attempt_run (Rpc.currentCode node (.string address)) world
    { session with events := events }
  have told := congrArg Prod.fst (Rpc.currentCode_run node address world session)
  rw [Rpc.currentCode_run] at attempted
  rw [deployedCode, isNode, ofShape_ok_bind]
  -- What a node tells does not depend on what was reported before.
  dsimp only at attempted told
  generalize Rpc.codeTold _ = answer at attempted told
  cases answer with
  | ok code =>
    refine ⟨node, some code, [], rfl, by rw [told]; rfl, ?_⟩
    rw [List.append_nil]
    exact bind_of_ok attempted
  | error fault =>
    -- The node could not be asked, which is reported and then passed over.
    refine ⟨node, none, [⟨.warning, search.logger, "Bytecode unavailable",
      subject search.chain address ++ [("err", .string fault.message)]⟩], rfl, by rw [told]; rfl, ?_⟩
    refine (bind_of_ok attempted).trans ?_
    dsimp only
    rw [if_pos (faults fault told)]
    rfl

theorem looksUp_or_decides (search : Search) (code : Option String) {outcome : Except Fault Verdict}
    {compared : Session} {fetch : Action (Option String)}
    (run : search.comparison code fetch world session = (outcome, compared)) :
    Decides (search.comparison code) outcome ∨
      ∃ text runtime creation, code = some text ∧ search.compiled.runtime.text? = some runtime ∧
        Undecided text runtime ∧ LooksUp (search.comparison code) creation := by
  rcases compareValues_cases (code.elim .null .string) .null search.compiled.runtime
      search.compiled.creation with
    ⟨decided, decides⟩ | ⟨text, runtime, created, isCode, isRuntime, undecided, _, _, looksUp⟩
  · left
    have same : (decided, session) = (outcome, compared) := (decides fetch world session).symm.trans run
    cases same
    exact decides
  · right
    cases code with
    | none => cases isCode
    | some told =>
      cases isCode
      exact ⟨text, runtime, created, rfl, isRuntime, undecided, looksUp⟩

theorem tryCandidate_run (tells : search.Tells world address session) :
    ∃ trial : Trial, trial.before = session ∧ trial.address = address ∧ search.Tries world trial ∧
      tryCandidate search.logger search.resolver search.chain search.compiled address world session
        = (.ok (trial.answer search.chain), trial.after) := by
  let announced : Event := ⟨.info, search.logger, "Retrieving contract bytecode address",
    subject search.chain address⟩
  obtain ⟨node, code, reported, isNode, told, asks⟩ :=
    deployedCode_run tells (session.events ++ [announced])
  -- The comparison runs in the session in which the node has been asked.
  let asked : Session := { session with
    rpcCalls := session.rpcCalls + 1
    requests := session.requests ++ [Rpc.codeRequest node address (session.rpcCalls + 1)]
    events := session.events ++ [announced] ++ reported }
  cases compares : search.comparison code (search.resolver search.logger search.chain address)
      world asked with
  | mk outcome compared =>
    have attempted := attempt_run
      (search.comparison code (search.resolver search.logger search.chain address)) world asked
    rw [compares] at attempted
    have tries (after : Session)
        (reports : ∃ events, after = { compared with events := compared.events ++ events }) :
        search.Tries world ⟨address, code, outcome, session, asked, compared, after⟩ := by
      refine ⟨⟨node, [announced] ++ reported, isNode, told, ?_⟩, compares,
        looksUp_or_decides search code compares, reports⟩
      simp only [asked, List.append_assoc]
    have begun : search.logger.info "Retrieving contract bytecode address"
        (subject search.chain address) world session
      = (.ok (), { session with events := session.events ++ [announced] }) := rfl
    rw [tryCandidate, bind_of_ok begun, bind_of_ok asks]
    cases outcome with
    | error fault =>
      exact ⟨⟨address, code, .error fault, session, asked, compared, _⟩, rfl, rfl,
        tries _ ⟨[⟨.error, search.logger, "Bytecode comparison failed",
          subject search.chain address ++ [("err", .string fault.message)]⟩], rfl⟩,
        bind_of_ok attempted⟩
    | ok verdict =>
      refine ⟨⟨address, code, .ok verdict, session, asked, compared, compared⟩, rfl, rfl,
        tries _ ⟨[], by rw [List.append_nil]⟩, (bind_of_ok attempted).trans ?_⟩
      dsimp only [Trial.answer]
      split
      · rfl
      · rfl

/-! ### The whole search -/

theorem Search.Turn.first (addresses : List String) :
    search.Turn world session (address :: addresses) address session :=
  ⟨[], .none session, fun _ member => absurd member List.not_mem_nil, addresses, rfl⟩

theorem Search.Turn.after_trial {trial : Trial} {addresses : List String} {now : Session}
    (tries : search.Tries world trial) (failed : ¬trial.Matches)
    (turn : search.Turn world trial.after addresses address now) :
    search.Turn world trial.before (trial.address :: addresses) address now := by
  obtain ⟨tried, trials, allFailed, inTurn⟩ := turn
  refine ⟨trial :: tried, .next tries trials, ?_, ?_⟩
  · intro each member
    rcases List.mem_cons.mp member with rfl | later
    · exact failed
    · exact allFailed each later
  · rw [List.map_cons, List.cons_append]
    exact List.cons_prefix_cons.mpr ⟨rfl, inTurn⟩

/-- One step of a search: the first candidate is tried, and the others only if it does not match. -/
theorem tryEach_cons_run {text : String} (valid : Address.isAddress text)
    (tells : search.Tells world (Address.checksummed text) session) (single : Bool)
    (message : Option String) (rest : List Json) :
    ∃ trial : Trial, trial.before = session ∧ trial.address = Address.checksummed text ∧
      search.Tries world trial ∧
      tryEach search.logger search.resolver search.chain search.compiled single message
          (.string text :: rest) world session
        = match trial.answer search.chain with
          | .ok result => (.ok result, trial.after)
          | .error reason =>
            tryEach search.logger search.resolver search.chain search.compiled single
              (if single then some reason else message) rest world trial.after := by
  obtain ⟨trial, before, isTried, tries, run⟩ := tryCandidate_run tells
  refine ⟨trial, before, isTried, tries, ?_⟩
  have spelled : Address.checksumValue (.string text) = .ok (Address.checksummed text) :=
    Address.checksum_of_isAddress valid
  rw [tryEach, bind_of_ok (by rw [spelled]; rfl), bind_of_ok run]
  cases trial.answer search.chain with
  | ok result => rfl
  | error reason => rfl

/-- A search without a message: the first candidate that matches is found, or all have failed. -/
theorem tryEach_run (candidates : List String) (valid : ∀ text ∈ candidates, Address.isAddress text)
    (tells : ∀ address now,
      search.Turn world session (candidates.map Address.checksummed) address now →
        search.Tells world address now) :
    ∃ tried result final,
      tryEach search.logger search.resolver search.chain search.compiled false none
          (candidates.map .string) world session = (.ok result, final) ∧
      search.Trials world session tried final ∧
      (Search.Finds (candidates.map Address.checksummed) tried result ∨
        (∀ trial ∈ tried, ¬trial.Matches) ∧
          candidates.map Address.checksummed = tried.map Trial.address ∧
          result = ⟨none, .none, none, none⟩) := by
  induction candidates generalizing session with
  | nil =>
    exact ⟨[], _, session, rfl, .none session,
      .inr ⟨fun _ member => absurd member List.not_mem_nil, rfl, rfl⟩⟩
  | cons text others tried =>
    obtain ⟨trial, rfl, isTried, tries, run⟩ := tryEach_cons_run
      (valid text List.mem_cons_self) (tells _ session (.first _)) false none (others.map .string)
    rw [List.map_cons, List.map_cons, run, ← isTried]
    rw [List.map_cons, ← isTried] at tells
    -- The first trial ends the run with its match or leaves the session to the others.
    cases answered : trial.answer search.chain with
    | ok result =>
      obtain ⟨verdict, outcome, found, rfl⟩ := Trial.answer_eq_ok answered
      exact ⟨[trial], _, trial.after, rfl, .next tries (.none _), .inl (.here outcome found)⟩
    | error reason =>
      obtain ⟨failed, -⟩ := Trial.answer_eq_error answered
      obtain ⟨later, result, final, returned, trials, ended⟩ := tried
        (fun other member => valid other (List.mem_cons_of_mem _ member))
        (fun address now turn => tells address now (turn.after_trial tries failed))
      refine ⟨trial :: later, result, final, returned, .next tries trials, ?_⟩
      rcases ended with finds | ⟨allFailed, inTurn, rfl⟩
      · exact .inl (.later failed finds)
      · refine .inr ⟨List.forall_mem_cons.mpr ⟨failed, allFailed⟩, ?_, rfl⟩
        rw [inTurn, List.map_cons]

/-- A search tries the candidates in turn up to the first that matches. What goes wrong in a trial
decides nothing but that trial, and the reason for it is told only if there is one candidate. -/
theorem firstMatch_by_trials (search : Search) (world : World) (session : Session)
    (candidates : List String) (valid : ∀ text ∈ candidates, Address.isAddress text)
    (tells : ∀ address now,
      search.Turn world session (candidates.map Address.checksummed) address now →
        search.Tells world address now) :
    ∃ trials result final,
      firstMatch search.logger search.resolver search.chain search.compiled
          (candidates.map .string) world session = (.ok result, final) ∧
      search.Trials world session trials final ∧
      search.Concludes (candidates.map Address.checksummed) trials result := by
  -- A single candidate that fails gives its reason; of several, no reason is kept.
  by_cases single : candidates.length = 1
  · obtain ⟨text, rfl⟩ := List.length_eq_one_iff.mp single
    obtain ⟨trial, rfl, isTried, tries, run⟩ := tryEach_cons_run
      (valid text List.mem_cons_self) (tells _ session (.first _)) true none []
    rw [List.map_singleton, List.map_singleton, ← isTried]
    change ∃ trials result final, tryEach _ _ _ _ true none _ _ _ = _ ∧ _
    rw [run]
    cases answered : trial.answer search.chain with
    | ok result =>
      obtain ⟨verdict, outcome, found, rfl⟩ := Trial.answer_eq_ok answered
      exact ⟨[trial], _, trial.after, rfl, .next tries (.none _), .matched (.here outcome found)⟩
    | error reason =>
      obtain ⟨failed, rfl⟩ := Trial.answer_eq_error answered
      exact ⟨[trial], _, trial.after, rfl, .next tries (.none _), .single failed rfl⟩
  · obtain ⟨trials, result, final, run, tried, ended⟩ := tryEach_run candidates valid tells
    refine ⟨trials, result, final, ?_, tried, ?_⟩
    · rw [firstMatch, List.length_map, decide_eq_false single]
      exact run
    · rcases ended with finds | ⟨failed, inTurn, rfl⟩
      · exact .matched finds
      · refine .several failed inTurn ?_
        rwa [List.length_map]

end

/-! ### A run -/

namespace Sample

def search : Search :=
  ⟨.ofPart "matching", fun _ _ _ => fail (.shape (.noItem "tuple")),
    ⟨.string "1", .string "Mainnet", [.string "http://node"], .null, .null, .null, .null⟩,
    ⟨.string "0x6001", .string "0x"⟩⟩

def candidates : List String :=
  ["0x0000000000000000000000000000000000000001", "0x0000000000000000000000000000000000000002",
    "0x0000000000000000000000000000000000000003"]

def answer (code : String) : HttpReply :=
  .answered 200 "OK" ("\x7b\"result\": \"" ++ code ++ "\"\x7d")

/-- The node is not there at first, then tells a code of the same size, and then the right one. -/
def network : Network := fun before _ =>
  match before.length with
  | 0 => .failed "offline"
  | 1 => answer "0x6002"
  | _ => answer "0x6001"

def world : World := ⟨network, [], fun _ => .notFound, []⟩

theorem told_of_network (before : List HttpRequest) (request : HttpRequest) {fault : Fault}
    (failed : Rpc.codeTold (world.network before request) = .error fault) : fault.kind = .rpc := by
  have other : (Rpc.codeTold (answer "0x6002")).toOption = some "0x6002" := by decide +kernel
  have right : (Rpc.codeTold (answer "0x6001")).toOption = some "0x6001" := by decide +kernel
  simp only [world, network] at failed
  split at failed
  · cases failed
    rfl
  · rw [failed] at other
    cases other
  · rw [failed] at right
    cases right

theorem tells (address : String) (session : Session) : search.Tells world address session := by
  refine ⟨.string "http://node", rfl, fun fault failed => ?_⟩
  rw [Rpc.currentCode_run] at failed
  exact told_of_network _ _ failed

end Sample

/-- Trouble with the first two of three candidates leaves the third to be tried. -/
theorem firstMatch_by_trials_of_three :
    (∀ text ∈ Sample.candidates, Address.isAddress text) ∧
    (∀ address now, Sample.search.Turn Sample.world (Session.fresh [])
        (Sample.candidates.map Address.checksummed) address now →
      Sample.search.Tells Sample.world address now) ∧
    ∃ trials result final,
      firstMatch Sample.search.logger Sample.search.resolver Sample.search.chain
          Sample.search.compiled (Sample.candidates.map .string) Sample.world (Session.fresh [])
        = (.ok result, final) ∧
      Sample.search.Trials Sample.world (Session.fresh []) trials final ∧
      Sample.search.Concludes (Sample.candidates.map Address.checksummed) trials result := by
  have valid : ∀ text ∈ Sample.candidates, Address.isAddress text := by decide
  have tells : ∀ address now, Sample.search.Turn Sample.world (Session.fresh [])
      (Sample.candidates.map Address.checksummed) address now →
      Sample.search.Tells Sample.world address now := fun address now _ => Sample.tells address now
  exact ⟨valid, tells,
    firstMatch_by_trials Sample.search Sample.world (Session.fresh []) Sample.candidates valid tells⟩

end SourceAttest.Matching
