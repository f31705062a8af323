import SourceAttest.Proofs.Compiler.Recompile
import SourceAttest.Proofs.Matching.Search
import SourceAttest.Proofs.Verification.Faults
import SourceAttest.Proofs.Verification.Unregistered

/-!
# Known code and the code of a node

The code of a single address comes with the request or is asked for at a node of the chain. The two
ways to a match are written apart. The main result is `known_code_agrees`: if the node tells the code
that the request would bring along, in any spelling, they lead to the same record or fail alike.
-/
namespace SourceAttest

open SourceAttest.Action

/-! ### Spellings of a code -/

namespace Bytecode

/-- Hexadecimal digits of any case, with or without a marker. -/
structure IsHex (text : String) : Prop where
  filled : text ≠ ""
  digits : Address.allDigits (Address.unmarked text.toList) = true

private def isHexChar (c : Char) : Bool := (Base16.digitValue? c).isSome || c = 'x' || c = 'X'

private theorem isHexChar_of_mem {cs : List Char}
    (digits : Address.allDigits (Address.unmarked cs) = true) {c : Char} (member : c ∈ cs) :
    isHexChar c = true := by
  -- A character stands behind the marker or is one of its two.
  have place : c ∈ Address.unmarked cs ∨ c = '0' ∨ c = 'x' ∨ c = 'X' := by
    unfold Address.unmarked
    split <;> grind
  rcases place with behind | rfl | rfl | rfl
  · rw [isHexChar, List.all_eq_true.mp digits c behind]
    rfl
  · decide
  · decide
  · decide

private theorem toNat_lt_of_hexChar {c : Char} (hex : isHexChar c = true) : c.toNat < 128 := by
  simp only [isHexChar, Bool.or_eq_true, decide_eq_true_eq] at hex
  rcases hex with (digit | rfl) | rfl
  · grind [Base16.digitValue?]
  · decide
  · decide

private theorem plain_of_hexChar {c : Char} (hex : isHexChar c = true) :
    c.toNat < 128 ∧ c.toLower.toNat < 128 ∧ Text.isBlank c = false ∧ Text.isBlank c.toLower = false ∧
      c.toLower.toLower = c.toLower := by
  have each : ∀ c : Char, c.toNat < 128 → isHexChar c = true →
      c.toLower.toNat < 128 ∧ Text.isBlank c = false ∧ Text.isBlank c.toLower = false ∧
        c.toLower.toLower = c.toLower :=
    Text.of_ascii (by decide +kernel)
  have small := toNat_lt_of_hexChar hex
  exact ⟨small, each c small hex⟩

/-- Lowering the digits of a code does not change the form in which it is compared. -/
theorem normalize_lower {text : String} (hex : IsHex text) :
    normalize (Text.lower text) = normalize text := by
  have plain (c : Char) (member : c ∈ text.toList) := plain_of_hexChar (isHexChar_of_mem hex.digits member)
  have lowered : Text.lower text = String.ofList (text.toList.map Char.toLower) := by
    rw [Text.lower, Text.lowerFrom_ascii _ _ fun c member => (plain c member).1]
  have stripped : Text.strip text = text := by
    rw [Text.strip, Text.trimBoth_of_forall fun c member => (plain c member).2.2.1,
      String.ofList_toList]
  -- Nothing is left to do for the lowered digits.
  have again : Text.lower (Text.strip (Text.lower text)) = Text.lower text := by
    have kept : Text.strip (Text.lower text) = Text.lower text := by
      rw [lowered, Text.strip, String.toList_ofList, Text.trimBoth_of_forall]
      intro c member
      obtain ⟨d, listed, rfl⟩ := List.mem_map.mp member
      exact (plain d listed).2.2.2.1
    rw [kept, lowered, Text.lower, String.toList_ofList, Text.lowerFrom_ascii, List.map_map]
    · exact congrArg String.ofList (List.map_congr_left fun c member => (plain c member).2.2.2.2)
    · intro c member
      obtain ⟨d, listed, rfl⟩ := List.mem_map.mp member
      exact (plain d listed).2.1
  rw [normalize, normalize, again, stripped]

end Bytecode

/-! ### Compiled codes -/

namespace Compiler

/-- The codes that the library's own compiler run gives are texts. -/
theorem texts_of_recompile {path : Option String} {logger : Logger} {metadata sources : Json}
    {world : World} {session final : Session} {artifact : CompiledArtifact}
    (returned : recompile path logger metadata sources world session = (.ok artifact, final)) :
    ∃ runtime creation, artifact.runtime = .string runtime ∧ artifact.creation = .string creation := by
  obtain ⟨_, _, -, returned⟩ := bind_eq_ok.mp returned
  obtain ⟨_, _, -, returned⟩ := bind_eq_ok.mp returned
  obtain ⟨_, _, -, returned⟩ := bind_eq_ok.mp returned
  obtain ⟨_, _, -, returned⟩ := bind_eq_ok.mp returned
  obtain ⟨_, _, -, returned⟩ := bind_eq_ok.mp returned
  obtain ⟨_, _, -, returned⟩ := bind_eq_ok.mp returned
  obtain ⟨_, _, -, returned⟩ := bind_eq_ok.mp returned
  -- All steps but the last one only lead to the output that the artifact is read from.
  cases artifactOf_eq_ok_iff.mp (ofExcept_eq_ok.mp returned).1 with
  | target => exact ⟨_, _, rfl, rfl⟩

end Compiler

/-! ### The two ways to a match -/

/-- A resolver that finds creation data or says that there are none, and that does not look at what
has been asked before. -/
structure Resolver.FindsOrMisses (resolver : Resolver) (world : World) (chain : Chain)
    (address : String) : Prop where
  ignoresCalls : ∀ logger, (resolver logger chain address).IgnoresCalls world
  misses : ∀ logger session fault, (resolver logger chain address world session).1 = .error fault →
    fault.kind = .creationDataNotFound

/-- The library's own search is such a resolver on a network whose answers do not depend on the past. -/
theorem Resolver.findsOrMisses_own {world : World} (steady : world.network.IsSteady) (chain : Chain)
    (address : String) : own.FindsOrMisses world chain address where
  ignoresCalls _ := (onlyAsks_own ..).ignoresCalls steady
  misses _ _ _ failed := (failsOnly_own ..).faults failed

def VerificationRequest.withCode (request : VerificationRequest) (code : String) :
    VerificationRequest :=
  { request with bytecode := .string code }

namespace Verification

section

variable {verifier : Verifier} {logger : Logger} {request : VerificationRequest}
  {accepted : Accepted} {world : World} {session : Session} {artifact : CompiledArtifact}
  {text code : String} {chain : Chain}

/-- The contract of a request has been recompiled, and its code is to be matched next. -/
def Recompiles (verifier : Verifier) (request : VerificationRequest) (world : World)
    (session : Session) (artifact : CompiledArtifact) (compiled : Session) : Prop :=
  ∃ accepted contract, accept request = .ok accepted ∧
    compileOrRefuse verifier (nextLogger verifier session) request.contract accepted world
      (begun session) = (.ok (contract, artifact), compiled)

theorem texts_of_recompiles {path : Option String} {compiled : Session}
    (own : verifier.recompile = Compiler.recompile path)
    (recompiles : Recompiles verifier request world session artifact compiled) :
    ∃ runtime creation, artifact.runtime = .string runtime ∧ artifact.creation = .string creation := by
  obtain ⟨_, _, -, returned⟩ := recompiles
  obtain ⟨_, -, compiles⟩ := compileOrRefuse_eq_ok returned
  rw [own] at compiles
  exact Compiler.texts_of_recompile compiles

theorem currentCode_of_call {node : Endpoint} {address : String}
    (tells : (Rpc.call node (.string "eth_getCode") (.array [.string address, .string "latest"])
      defaultTimeout world session).1 = .ok (.string code)) (filled : code ≠ "") :
    (Rpc.currentCode node (.string address) world session).1 = .ok (Text.lower code) := by
  have present : (Json.string code).isTruthy = true := by simpa [Json.isTruthy] using filled
  rw [Rpc.currentCode, Rpc.codeAt_run]
  change (Rpc.call node _ (.array [_, .string "latest"]) _ world session).1.bind Rpc.codeIn = _
  rw [tells, Except.bind, Rpc.codeIn, present]
  rfl

/-- The match with the code that a node tells, for a verdict of the comparison with that code. -/
def matched (address : String) (verdict : Verdict) (reason : String) : MatchResult :=
  if verdict.status = .none then ⟨none, .none, none, some reason⟩
  else ⟨some address, verdict.status, verdict.constructorArgs, none⟩

section Comparing

variable {verdict : Verdict} {compared : Session} (valid : Address.isAddress text = true)
  (compares : compareValues (.string code) request.creationData artifact.runtime artifact.creation
      (verifier.resolver logger chain (Address.checksummed text)) world session
    = (.ok verdict, compared))

include valid compares

/-- Known code is compared in the session at hand. -/
theorem matchCode_of_withCode (filled : code ≠ "")
    (registered : verifier.chains.find? (.string accepted.chain) = .ok (some chain))
    (addresses : accepted.addresses = .array [.string text])
    (candidates : accepted.candidates = [.string text]) (found : Option Chain) :
    matchCode verifier logger (request.withCode code) accepted found artifact world session
      = (.ok ⟨some (Address.checksummed text), verdict.status, verdict.constructorArgs, none⟩,
        compared) := by
  have known : knownCode? (request.withCode code) = some (.string code) :=
    if_pos (by simpa [VerificationRequest.withCode, Json.isTruthy] using filled)
  have onChain (address : String) :
      creationDataOnChain verifier logger accepted.chain address
        = verifier.resolver logger chain address := by
    rw [creationDataOnChain, registered]
  have selected : accepted.addresses.select (.int 0) = .ok (.string text) := by
    rw [addresses]
    rfl
  rw [matchCode_of_known _ _ _ _ _ known, compareKnown, if_neg (by rw [candidates]; simp), selected,
    ofShape_ok_bind, bind_of_ok (by rw [Address.checksumValue, Address.checksum_of_isAddress valid]; rfl),
    onChain]
  exact bind_of_ok compares

omit valid in
/-- In lower case, and after other calls, the code compares the same. -/
theorem compareValues_lower (hex : Bytecode.IsHex code)
    (noData : request.creationData.isTruthy = false)
    (resolves : verifier.resolver.FindsOrMisses world chain (Address.checksummed text))
    {asked : Session} (alike : session.Alike asked) :
    ∃ after, compareValues (.string (Text.lower code)) .null artifact.runtime artifact.creation
        (verifier.resolver logger chain (Address.checksummed text)) world asked
          = (.ok verdict, after) ∧ compared.Alike after := by
  rw [compareValues_congr (Bytecode.normalize_lower hex).symm noData
    (show Json.null.isTruthy = false from rfl)] at compares
  exact (ignoresCalls_compareValues _ _ _ _ (resolves.ignoresCalls logger)).run_eq alike compares

/-- The code that a node tells is compared after the node has been asked. -/
theorem matchCode_of_told {node : Endpoint} (hex : Bytecode.IsHex code)
    (unknown : request.bytecode.isTruthy = false) (noData : request.creationData.isTruthy = false)
    (resolves : verifier.resolver.FindsOrMisses world chain (Address.checksummed text))
    (isNode : chain.node = .ok node)
    (tells : (Rpc.call node (.string "eth_getCode")
      (.array [.string (Address.checksummed text), .string "latest"]) defaultTimeout world session).1
        = .ok (.string code))
    (candidates : accepted.candidates = [.string text]) :
    ∃ reason final, matchCode verifier logger request accepted (some chain) artifact world session
        = (.ok (matched (Address.checksummed text) verdict reason), final) ∧
      final.Alike compared := by
  let search : Matching.Search :=
    ⟨logger, verifier.resolver, chain, ⟨artifact.runtime, artifact.creation⟩⟩
  have told := currentCode_of_call tells hex.filled
  have answers : search.Tells world (Address.checksummed text) session :=
    ⟨node, isNode, fun fault failed => by rw [told] at failed; cases failed⟩
  obtain ⟨trial, rfl, isTried, tries, run⟩ :=
    Matching.tryEach_cons_run valid answers true none []
  -- The trial compares the same code, only in another spelling and after one more call.
  obtain ⟨node', events, isNode', isCode, asked⟩ := tries.asks
  have sameNode : Except.ok node' = .ok node := isNode'.symm.trans isNode
  cases sameNode
  rw [isTried, told] at isCode
  have before : trial.before.Alike trial.asked := by
    rw [asked]
    exact ⟨rfl, rfl, rfl, rfl⟩
  obtain ⟨after, compares', alike⟩ := compareValues_lower compares hex noData resolves before
  have again : search.comparison trial.code
      (search.resolver search.logger search.chain trial.address) world trial.asked
        = (.ok verdict, after) := by
    rw [isCode, isTried]
    exact compares'
  obtain ⟨outcome, rfl⟩ := Prod.mk.inj (tries.compares.symm.trans again)
  have left : trial.after.Alike compared := by
    obtain ⟨reported, isAfter⟩ := tries.reports
    rw [isAfter]
    exact (Session.Alike.of_events ..).trans alike.symm
  have toSearch : matchCode verifier logger request accepted (some chain) artifact
      = Matching.tryEach search.logger search.resolver search.chain search.compiled true none
          [.string text] := by
    simp only [matchCode, knownCode?_of_missing unknown, Matching.firstMatch, candidates]
    rfl
  rw [toSearch, run, Matching.Trial.answer, outcome, ← isTried]
  unfold matched
  by_cases unmatched : verdict.status = .none
  · simp only [if_pos unmatched]
    exact ⟨_, trial.after, rfl, left⟩
  · simp only [if_neg unmatched]
    exact ⟨"", trial.after, rfl, left⟩

end Comparing

/-! ### Storing -/

theorem ignoresCalls_refuse {α : Type} (text : String) (fields : List (String × Json))
    (contract : Contract) (fault : Fault) :
    (refuse logger text fields contract fault : Action α).IgnoresCalls world :=
  .bind (.report ..) fun _ => .fail _

theorem ignoresCalls_storeRecord (store : Store) (chain address : String) (contract : Contract)
    (verdict : Verdict) :
    (storeRecord store logger chain address contract artifact verdict).IgnoresCalls world := by
  have documented : (saveDocument store logger chain address verdict.status artifact).IgnoresCalls
      world := by
    refine .bind (.ofShape _) fun hash => ?_
    split
    · exact .bind (.onTree _) fun _ => .bind (.onTree _) fun _ => .pure _
    · exact .bind (.report ..) fun _ => .pure _
  have sourced (quality : Quality) (sources : List (String × Json)) :
      (saveSources store quality chain address sources).IgnoresCalls world := by
    induction sources with
    | nil => exact .pure _
    | cons entry rest ih => exact .bind (.onTree _) fun _ => ih
  refine .bind documented fun status => .bind (sourced ..) fun _ => .bind (.onTree _) fun _ => ?_
  split
  · dsimp only
    split
    · exact .bind (.onTree _) fun _ => .pure _
    · exact .pure _
  · exact .pure _

theorem ignoresCalls_conclude (contract : Contract) (result : MatchResult) :
    (conclude verifier logger accepted contract artifact result).IgnoresCalls world := by
  have noMatch : (conclude.noMatch logger accepted contract result).IgnoresCalls world :=
    .bind (.report ..) fun _ => .fail _
  have stored (address : String) (verdict : Verdict) :
      (storeOrRefuse verifier logger accepted address contract artifact verdict).IgnoresCalls
        world := by
    refine .bind (ignoresCalls_storeRecord ..).attempt fun outcome => ?_
    split
    · exact .pure _
    · split
      · exact ignoresCalls_refuse ..
      · exact .fail _
  unfold conclude
  split
  · exact noMatch
  · exact noMatch
  · exact .bind (stored ..) fun _ => .bind (.report ..) fun _ => .pure _

theorem conclude_of_none (contract : Contract) {result : MatchResult}
    (unmatched : result.status = .none) :
    conclude verifier logger accepted contract artifact result
      = conclude.noMatch logger accepted contract result := by
  obtain ⟨address, status, args, message⟩ := result
  cases unmatched
  rfl

theorem noMatch_run (logger : Logger) (accepted : Accepted) (contract : Contract)
    (result : MatchResult) (world : World) (session : Session) :
    ∃ fault final, conclude.noMatch logger accepted contract result world session
        = (.error fault, final) ∧ fault.kind = .noMatch ∧ final.Alike session :=
  ⟨_, _, rfl, rfl, .of_events ..⟩

/-! ### Whole verifications -/

/-- The stages of a verification that come after the chain has been found or passed over. -/
theorem verifyAccepted_of_chain {found : Option Chain}
    (resolves : chainOf verifier (nextLogger verifier session) request accepted = pure found) :
    verifyAccepted verifier request accepted world session
      = (compileOrRefuse verifier (nextLogger verifier session) request.contract accepted
          >>= fun completed =>
        matchCode verifier (nextLogger verifier session) request accepted found completed.2 >>=
        conclude verifier (nextLogger verifier session) accepted completed.1 completed.2) world
          (begun session) := by
  rw [verifyAccepted, bind_of_ok (nextVerification_run world session)]
  change (chainOf verifier (nextLogger verifier session) request accepted >>= _) world _ = _
  rw [resolves]
  rfl

/-- The two ways come to the same or both find no match, and they leave alike sessions. -/
def Agree {α : Type} (one other : Except Fault α × Session) : Prop :=
  one.2.Alike other.2 ∧
    (one.1 = other.1 ∨ ∃ fault fault', one.1 = .error fault ∧ other.1 = .error fault' ∧
      fault.kind = .noMatch ∧ fault'.kind = .noMatch)

/-- A match that the node's code gives is concluded like one that the known code gives. -/
theorem agree_of_conclude (contract : Contract) (address reason : String) (verdict : Verdict)
    {first second : Session} (alike : first.Alike second) :
    Agree (conclude verifier logger accepted contract artifact (matched address verdict reason) world
        first)
      (conclude verifier logger accepted contract artifact
        ⟨some address, verdict.status, verdict.constructorArgs, none⟩ world second) := by
  by_cases unmatched : verdict.status = .none
  · rw [matched, if_pos unmatched, conclude_of_none contract rfl, conclude_of_none contract unmatched]
    obtain ⟨fault, final, run, kind, left⟩ :=
      noMatch_run logger accepted contract ⟨_, .none, _, some reason⟩ world first
    obtain ⟨fault', final', run', kind', left'⟩ :=
      noMatch_run logger accepted contract
        ⟨some address, verdict.status, verdict.constructorArgs, none⟩ world second
    rw [run, run']
    exact ⟨left.trans (alike.trans left'.symm), .inr ⟨fault, fault', rfl, rfl, kind, kind'⟩⟩
  · rw [matched, if_neg unmatched]
    obtain ⟨outcomes, sessions⟩ := (ignoresCalls_conclude contract _).same alike
    exact ⟨sessions, .inl outcomes⟩

section Agreeing

variable {node : Endpoint} (valid : Address.isAddress text = true)
  (unknown : request.bytecode.isTruthy = false) (noData : request.creationData.isTruthy = false)
  (hex : Bytecode.IsHex code)
  (resolves : verifier.resolver.FindsOrMisses world chain (Address.checksummed text))
  (isNode : chain.node = .ok node)

include valid unknown noData hex resolves isNode

theorem agree_of_recompiled
    (registered : verifier.chains.find? (.string accepted.chain) = .ok (some chain))
    (addresses : accepted.addresses = .array [.string text])
    (candidates : accepted.candidates = [.string text]) (contract : Contract)
    (texts : ∃ runtime creation, artifact.runtime = .string runtime ∧ artifact.creation = .string creation)
    (tells : (Rpc.call node (.string "eth_getCode")
      (.array [.string (Address.checksummed text), .string "latest"]) defaultTimeout world session).1
        = .ok (.string code)) :
    Agree
      ((matchCode verifier logger request accepted (some chain) artifact >>=
        conclude verifier logger accepted contract artifact) world session)
      ((matchCode verifier logger (request.withCode code) accepted none artifact >>=
        conclude verifier logger accepted contract artifact) world session) := by
  obtain ⟨runtime, creation, isRuntime, isCreation⟩ := texts
  obtain ⟨verdict, compared, compares⟩ := compareValues_of_texts code runtime creation noData
    (resolves.misses logger session)
  rw [← isRuntime, ← isCreation] at compares
  obtain ⟨reason, asked, finds, alike⟩ :=
    matchCode_of_told valid compares hex unknown noData resolves isNode tells candidates
  have finds' := matchCode_of_withCode valid compares hex.filled registered addresses candidates none
  rw [bind_of_ok finds, bind_of_ok finds']
  exact agree_of_conclude contract _ reason verdict alike

/-- Known code and the code that the chain's node tells lead to the same. For a single address on a
registered chain, and without creation data at hand, a verification that asks the node and one that
is given the node's answer, spelled in any way, return the same result and leave the same repository,
or both fail with the same fault, or both find no match. The compiled codes are texts, which those of
the library's own compiler run always are (`texts_of_recompiles`). -/
theorem known_code_agrees {name : String} (session : Session)
    (single : request.addresses = .array [.string text]) (named : request.chain = .string name)
    (registered : verifier.chains.find? (.string name) = .ok (some chain))
    (texts : ∀ artifact compiled, Recompiles verifier request world session artifact compiled →
      ∃ runtime creation, artifact.runtime = .string runtime ∧ artifact.creation = .string creation)
    (tells : ∀ artifact compiled, Recompiles verifier request world session artifact compiled →
      (Rpc.call node (.string "eth_getCode")
        (.array [.string (Address.checksummed text), .string "latest"]) defaultTimeout world compiled).1
          = .ok (.string code)) :
    Agree (verify verifier request world session)
      (verify verifier (request.withCode code) world session) := by
  have accepts' : accept (request.withCode code) = accept request := rfl
  rw [verify, verify, accepts']
  cases accepts : accept request with
  | error fault => exact ⟨.refl _, .inl rfl⟩
  | ok accepted =>
    have fits := fits_of_accept accepts
    have candidates : accepted.candidates = [.string text] := by
      have listed := fits.items
      rw [single] at listed
      exact (Except.ok.inj listed).symm
    rw [← chain_of_fits fits named] at registered
    have found : chainOf verifier (nextLogger verifier session) request accepted
        = pure (some chain) := by
      rw [chainOf, knownCode?_of_missing unknown, ChainRegistry.chain, registered]
      rfl
    have known : chainOf verifier (nextLogger verifier session) (request.withCode code) accepted
        = pure none := by
      have given : (request.withCode code).bytecode.isTruthy = true := by
        simpa [VerificationRequest.withCode, Json.isTruthy] using hex.filled
      rw [chainOf, knownCode?, if_pos given]
      rfl
    dsimp only
    rw [verifyAccepted_of_chain found, verifyAccepted_of_chain known]
    -- Both verifications recompile the same contract in the same session.
    change Agree _ ((compileOrRefuse verifier _ request.contract accepted >>= _) world _)
    cases compiles : compileOrRefuse verifier (nextLogger verifier session) request.contract accepted
        world (begun session) with
    | mk outcome compiled =>
      cases outcome with
      | error fault =>
        rw [bind_of_error compiles, bind_of_error compiles]
        exact ⟨.refl _, .inl rfl⟩
      | ok completed =>
        have recompiles : Recompiles verifier request world session completed.2 compiled :=
          ⟨accepted, completed.1, accepts, compiles⟩
        rw [bind_of_ok compiles, bind_of_ok compiles]
        exact agree_of_recompiled valid unknown noData hex resolves isNode registered
          (fits.addresses.trans single) candidates completed.1 (texts _ _ recompiles)
          (tells _ _ recompiles)

end Agreeing

end

/-! ### A run -/

namespace Sample

def chain : Chain :=
  ⟨.string "1", .string "Mainnet", [.string "http://node"], .null, .null, .null, .null⟩

def listed : Verifier :=
  { verifier with chains := [(.string "1", chain)], resolver := Resolver.own }

/-- The code of the sample in another spelling. -/
def spelled : String := "6001A165627A7A723041010009"

def answer : HttpReply := .answered 200 "OK" ("\x7b\"result\": \"" ++ spelled ++ "\"\x7d")

def online : World := { world with network := fun _ _ => answer }

def unknown : VerificationRequest := { request with bytecode := .null }

theorem told (address : String) (session : Session) :
    (Rpc.call (.string "http://node") (.string "eth_getCode")
      (.array [.string address, .string "latest"]) defaultTimeout online session).1
        = .ok (.string spelled) := by
  have read : (Rpc.bodyOf (.string "eth_getCode") answer).bind
      (Rpc.resultOf (.string "eth_getCode")) = .ok (.string spelled) :=
    Outcome.eq_ok_of_toOption (by decide +kernel)
  have sent := congrArg Prod.fst (Rpc.call_run (.string "http://node") (.string "eth_getCode")
    (.array [.string address, .string "latest"]) defaultTimeout online session)
  have replied (before : List HttpRequest) (request : HttpRequest) :
      online.network before request = answer := rfl
  rw [replied] at sent
  rw [sent, read]

theorem artifact_of_recompiles {session compiled : Session} {recompiled : CompiledArtifact}
    (recompiles : Recompiles listed unknown online session recompiled compiled) :
    recompiled = artifact := by
  obtain ⟨accepted, contract, -, compiles⟩ := recompiles
  have run (logger : Logger) (now : Session) :
      compileOrRefuse listed logger unknown.contract accepted online now
        = (.ok (unknown.contract, artifact), now) := rfl
  rw [run] at compiles
  cases compiles
  rfl

end Sample

/-- A node tells the code in capital letters and without a marker, and the record is the same as for
the code that is known. -/
theorem known_code_agrees_in_capitals :
    (Address.isAddress Sample.address = true ∧ Sample.unknown.bytecode.isTruthy = false ∧
      Sample.unknown.creationData.isTruthy = false ∧ Bytecode.IsHex Sample.spelled) ∧
    Agree (verify Sample.listed Sample.unknown Sample.online (Session.fresh []))
      (verify Sample.listed (Sample.unknown.withCode Sample.spelled) Sample.online
        (Session.fresh [])) := by
  have valid : Address.isAddress Sample.address = true := by decide
  have hex : Bytecode.IsHex Sample.spelled := ⟨by decide, by decide⟩
  have resolves : Sample.listed.resolver.FindsOrMisses Sample.online Sample.chain
      (Address.checksummed Sample.address) :=
    Resolver.findsOrMisses_own ⟨fun _ _ _ => rfl, fun _ _ _ _ _ _ _ => rfl⟩ ..
  have registered : Sample.listed.chains.find? (.string "1") = .ok (some Sample.chain) := rfl
  refine ⟨⟨valid, rfl, rfl, hex⟩, ?_⟩
  refine known_code_agrees valid rfl rfl hex resolves rfl (Session.fresh []) rfl rfl registered
    (fun recompiled compiled recompiles => ?_) (fun _ compiled _ => Sample.told _ compiled)
  rw [Sample.artifact_of_recompiles recompiles]
  exact ⟨_, _, rfl, rfl⟩

end Verification

end SourceAttest
