import SourceAttest.Proofs.CreationData.Archive
import SourceAttest.Proofs.CreationData.FallThrough
import SourceAttest.Proofs.Json.RoundTrip
import SourceAttest.Proofs.Network.Answers
import SourceAttest.Proofs.Text.Lowercase

/-!
# Where creation data come from

Creation data are the input of a transaction that a node told in the same run, in lower case. So what can
be said of their form is what can be said of such an input: `data_of_resolve` is the main result. A node
is believed in that the input has a marker. That there is something behind the marker is only checked of
transactions that are asked for by their hash, and so `empty_data_resolved` is possible.
-/
namespace SourceAttest

open SourceAttest.Action

namespace Action

variable {α : Type} {world : World} {before after : Session}

/-- Calls are only ever added. -/
theorem AsksSilently.calls_kept {action : Action α} {outcome : Except Fault α}
    (asks : action.AsksSilently) (run : action world before = (outcome, after)) :
    before.requests <+: after.requests := by
  obtain ⟨⟨calls, sent⟩, -⟩ := asks.adds_calls world before
  rw [run] at sent
  exact ⟨calls, sent.symm⟩

end Action

/-! ### Replies of a run -/

/-- Between two sessions a node was called, and it delivered a result. -/
def Rpc.Received (world : World) (before after : Session) (endpoint : Endpoint)
    (method params result : Json) : Prop :=
  ∃ asked : Session, before.requests <+: asked.requests ∧
    (afterCall endpoint method params defaultTimeout asked).requests <+: after.requests ∧
    Delivers (replyTo endpoint method params defaultTimeout world asked) result

namespace Rpc

variable {world : World} {before middle after : Session} {endpoint : Endpoint}
  {method params result : Json}

theorem Received.later (received : Received world middle after endpoint method params result)
    (earlier : before.requests <+: middle.requests) :
    Received world before after endpoint method params result := by
  obtain ⟨asked, reached, kept, delivers⟩ := received
  exact ⟨asked, earlier.trans reached, kept, delivers⟩

theorem Received.kept (received : Received world before middle endpoint method params result)
    (more : middle.requests <+: after.requests) :
    Received world before after endpoint method params result := by
  obtain ⟨asked, reached, kept, delivers⟩ := received
  exact ⟨asked, reached, kept.trans more, delivers⟩

theorem received_of_call
    (returned : call endpoint method params defaultTimeout world before = (.ok result, after)) :
    Received world before after endpoint method params result := by
  rw [call_run] at returned
  obtain ⟨answered, rfl⟩ := Prod.mk.inj returned
  exact ⟨before, List.prefix_refl _, List.prefix_refl _, answer_eq_ok_iff.mp answered⟩

theorem received_of_transaction {hash : Json}
    (returned : transaction endpoint hash world before = (.ok result, after)) :
    Received world before after endpoint (.string "eth_getTransactionByHash") (.array [hash]) result := by
  obtain ⟨found, _, asked, returned⟩ := bind_eq_ok.mp returned
  cases found with
  | null => cases returned
  | _ =>
    obtain ⟨rfl, rfl⟩ := pure_eq_ok.mp returned
    exact received_of_call asked

theorem received_of_block {number full : Json}
    (returned : block endpoint number full world before = (.ok result, after)) :
    Received world before after endpoint (.string "eth_getBlockByNumber")
      (.array [blockParam number, full]) result := by
  obtain ⟨found, _, asked, returned⟩ := bind_eq_ok.mp returned
  cases found with
  | null => cases returned
  | _ =>
    obtain ⟨rfl, rfl⟩ := pure_eq_ok.mp returned
    exact received_of_call asked

end Rpc

namespace CreationData

/-- How the input of a transaction was told: the transaction was asked for by its hash and is not without
data, or it is a transaction of a block, without a recipient and with a receipt of the contract. -/
inductive Tells (world : World) (before after : Session) (chain : Chain) (address : Json) :
    Strategy → String → Prop
  | transaction {strategy : Strategy} {node hash : Json} {members : List (String × Json)}
      {input : String} (byHash : strategy ≠ .archive) (isNode : chain.node = .ok node)
      (received : Rpc.Received world before after node (.string "eth_getTransactionByHash")
        (.array [hash]) (.object members))
      (carries : Carries members input) (filled : input ≠ "0x") :
      Tells world before after chain address strategy input
  | block {number : Nat} {fields members : List (String × Json)} {transactions : List Json}
      {hash receipt : Json} {input : String}
      (received : Rpc.Received world before after chain.archive (.string "eth_getBlockByNumber")
        (.array [.string (Base16.ofInt number), .bool true]) (.object fields))
      (listed : Table.get? "transactions" fields = some (.array transactions))
      (present : .object members ∈ transactions) (noRecipient : HasNoRecipient members)
      (isHash : Table.get? "hash" members = some hash)
      (receipted : Rpc.Received world before after chain.archive (.string "eth_getTransactionReceipt")
        (.array [hash]) receipt)
      (creates : created address receipt = .ok true) (carries : Carries members input) :
      Tells world before after chain address .archive input

section

variable {world : World} {before after session final : Session} {chain : Chain} {address : Json}
  {strategy : Strategy} {data input : String}

theorem Tells.widen (tells : Tells world session final chain address strategy input)
    (earlier : before.requests <+: session.requests) (more : final.requests <+: after.requests) :
    Tells world before after chain address strategy input := by
  cases tells with
  | transaction byHash isNode received carries filled =>
    exact .transaction byHash isNode ((received.later earlier).kept more) carries filled
  | block received listed present noRecipient isHash receipted creates carries =>
    exact .block ((received.later earlier).kept more) listed present noRecipient isHash
      ((receipted.later earlier).kept more) creates carries

theorem eq_object_of_inputOf {transaction found : Json} (read : inputOf transaction = .ok found) :
    ∃ members, transaction = .object members := by
  obtain ⟨value, isValue, -⟩ := Outcome.bind_eq_ok.mp read
  obtain ⟨members, opened, -⟩ := Outcome.map_eq_ok.mp isValue
  exact ⟨members, Json.eq_object_of_members opened⟩

theorem transactionInput_tells {hash : Json} (strategy : Strategy) (byHash : strategy ≠ .archive)
    (address : Json) (returned : transactionInput chain hash world session = (.ok data, final)) :
    ∃ input, Tells world session final chain address strategy input ∧ data = Text.lower input := by
  obtain ⟨node, _, chosen, returned⟩ := bind_eq_ok.mp returned
  obtain ⟨isNode, rfl⟩ := ofShape_eq_ok.mp chosen
  obtain ⟨transaction, _, asked, returned⟩ := bind_eq_ok.mp returned
  obtain ⟨found, _, taken, returned⟩ := bind_eq_ok.mp returned
  obtain ⟨read, rfl⟩ := ofShape_eq_ok.mp taken
  split_ifs at returned with refused
  · cases returned
  · obtain ⟨input, _, lowered, returned⟩ := bind_eq_ok.mp returned
    obtain ⟨isText, rfl⟩ := ofShape_eq_ok.mp lowered
    obtain ⟨rfl, rfl⟩ := pure_eq_ok.mp returned
    have named := Json.text_eq_ok_iff.mp isText
    obtain ⟨members, rfl⟩ := eq_object_of_inputOf read
    obtain ⟨present, unmarked⟩ : found.isTruthy = true ∧ found.equals (.string "0x") = false := by
      simpa using refused
    have filled := (Json.isTruthy_iff_of_text? named).mp present
    have marked : input ≠ "0x" := by
      rintro rfl
      rw [Json.eq_string_of_text? named (by decide)] at unmarked
      cases unmarked
    exact ⟨input, .transaction byHash isNode (Rpc.received_of_transaction asked)
      (inputOf_eq_ok.mp ⟨⟨found, read, named⟩, filled⟩) marked, rfl⟩

/-- A search of a block returns the input of one of its transactions. -/
theorem creationInBlock_tells {endpoint : Endpoint} {block : Nat} {transactions : List Json}
    (returned : creationInBlock endpoint address block transactions world session
      = (.ok data, final)) :
    ∃ members hash receipt input, .object members ∈ transactions ∧ HasNoRecipient members ∧
      Table.get? "hash" members = some hash ∧
      Rpc.Received world session final endpoint (.string "eth_getTransactionReceipt") (.array [hash])
        receipt ∧
      created address receipt = .ok true ∧ Carries members input ∧ data = Text.lower input := by
  induction transactions generalizing session with
  | nil =>
    rw [creationInBlock.eq_def] at returned
    cases returned
  | cons transaction rest ih =>
    cases transaction with
    | object others =>
      by_cases none : HasNoRecipient others
      · rw [creationInBlock_of_noRecipient _ none] at returned
        obtain ⟨hash, receipt, middle, isHash, asked, returned⟩ := candidate_cases returned
        rcases returned with ⟨creates, rfl, input, carries, rfl⟩ | ⟨-, later⟩
        · exact ⟨others, hash, receipt, input, .head _, none, isHash, Rpc.received_of_call asked,
            creates, carries, rfl⟩
        · -- The call for this receipt comes before those that are told of.
          have earlier := (AsksSilently.call ..).calls_kept asked
          obtain ⟨members, hash, receipt, input, present, rest⟩ := ih later
          obtain ⟨noRecipient, isHash, received, rest⟩ := rest
          exact ⟨members, hash, receipt, input, .tail _ present, noRecipient, isHash,
            received.later earlier, rest⟩
      · rw [creationInBlock_of_recipient _ none] at returned
        obtain ⟨members, hash, receipt, input, present, rest⟩ := ih returned
        exact ⟨members, hash, receipt, input, .tail _ present, rest⟩
    | _ =>
      rw [creationInBlock.eq_def] at returned
      cases returned

theorem archive_tells (returned : archive chain address world session = (.ok data, final)) :
    ∃ input, Tells world session final chain address .archive input ∧ data = Text.lower input := by
  obtain ⟨number, searched, found, returned⟩ := bind_eq_ok.mp (withNodeFaults_eq_ok.mp returned)
  obtain ⟨document, fetched, asked, returned⟩ := bind_eq_ok.mp returned
  obtain ⟨transactions, _, taken, scanned⟩ := bind_eq_ok.mp returned
  obtain ⟨items, rfl⟩ := ofShape_eq_ok.mp taken
  obtain ⟨members, hash, receipt, input, present, rest⟩ := creationInBlock_tells scanned
  obtain ⟨noRecipient, isHash, receipted, creates, carries, rfl⟩ := rest
  obtain ⟨fields, rfl, listed⟩ := listed_of_items items present
  -- The block was asked for before its transactions were gone through, and after the search.
  have sought := (asksSilently_findCreationBlock ..).calls_kept found
  have got := (Rpc.asksSilently_block ..).calls_kept asked
  have scan := (asksSilently_creationInBlock ..).calls_kept scanned
  have received := ((Rpc.received_of_block asked).later sought).kept scan
  exact ⟨input, .block received listed present noRecipient isHash
    (receipted.later (sought.trans got)) creates carries, rfl⟩

theorem findBy_tells (returned : findBy strategy chain address world session = (.ok data, final)) :
    ∃ input, Tells world session final chain address strategy input ∧ data = Text.lower input := by
  cases strategy with
  | scrape =>
    obtain ⟨url, _, formed, returned⟩ := bind_eq_ok.mp returned
    obtain ⟨-, rfl⟩ := ofShape_eq_ok.mp formed
    -- The page is fetched first, so the call for the transaction comes after that.
    obtain ⟨reply, fetched, sent, returned⟩ := bind_eq_ok.mp returned
    have earlier := (AsksSilently.send _).calls_kept sent
    cases accepted : reply.accepted (.string url) with
    | error reason =>
      rw [accepted] at returned
      cases returned
    | ok page =>
      rw [accepted] at returned
      obtain ⟨hash, _, found, returned⟩ := bind_eq_ok.mp returned
      obtain ⟨-, rfl⟩ := ofExcept_eq_ok.mp found
      obtain ⟨input, tells, rfl⟩ := transactionInput_tells .scrape (by decide) address
        (withNodeFaults_eq_ok.mp returned)
      exact ⟨input, tells.widen earlier (List.prefix_refl _), rfl⟩
  | graphql =>
    obtain ⟨reply, fetched, sent, returned⟩ := bind_eq_ok.mp returned
    have earlier := (AsksSilently.send _).calls_kept sent
    obtain ⟨body, _, read, returned⟩ := bind_eq_ok.mp returned
    obtain ⟨-, rfl⟩ := ofExcept_eq_ok.mp read
    obtain ⟨hash, _, found, returned⟩ := bind_eq_ok.mp returned
    obtain ⟨-, rfl⟩ := ofExcept_eq_ok.mp found
    obtain ⟨input, tells, rfl⟩ := transactionInput_tells .graphql (by decide) address
      (withNodeFaults_eq_ok.mp returned)
    exact ⟨input, tells.widen earlier (List.prefix_refl _), rfl⟩
  | archive => exact archive_tells returned

theorem tryEach_tells {logger : Logger} {strategies : List Strategy}
    (returned : tryEach logger chain address strategies world session = (.ok data, final)) :
    ∃ strategy ∈ strategies, ∃ input,
      Tells world session final chain address strategy input ∧ data = Text.lower input := by
  induction strategies generalizing session with
  | nil => cases returned
  | cons strategy rest ih =>
    obtain ⟨_, announced, reported, returned⟩ := bind_eq_ok.mp returned
    obtain ⟨outcome, tried, attempted, returned⟩ := bind_eq_ok.mp returned
    have run := attempt_eq_ok.mp attempted
    cases reported
    cases outcome with
    | ok found =>
      obtain ⟨rfl, rfl⟩ := pure_eq_ok.mp returned
      obtain ⟨input, tells, rfl⟩ := findBy_tells run
      exact ⟨strategy, .head _, input, tells.widen (List.prefix_refl _) (List.prefix_refl _), rfl⟩
    | error fault =>
      obtain ⟨_, warned, reported, returned⟩ := bind_eq_ok.mp returned
      cases reported
      have earlier := (asksSilently_findBy strategy chain address).calls_kept run
      obtain ⟨other, listed, input, tells, rfl⟩ := ih returned
      exact ⟨other, .tail _ listed, input, tells.widen earlier (List.prefix_refl _), rfl⟩

/-! ### The form of the data -/

/-- Creation data that are returned are the input of a transaction that was told in this run, in lower
case. They are never empty, and they are a mere marker only if the input is one, which is refused of
transactions that are asked for by their hash. They have the marker and at least one character behind it
exactly if the input has, with the marker in either case. -/
theorem data_of_resolve {logger : Logger}
    (returned : resolve logger chain address world session = (.ok data, final)) :
    ∃ strategy input, offers chain strategy = true ∧
      Tells world session final chain address strategy input ∧ data = Text.lower input ∧
      Text.lower data = data ∧ data ≠ "" ∧ (data = "0x" ↔ input = "0x" ∨ input = "0X") ∧
      (input = "0x" → strategy = .archive) ∧
      ((∃ c rest, data.toList = '0' :: 'x' :: c :: rest) ↔
        ∃ mark c rest, input.toList = '0' :: mark :: c :: rest ∧ mark ∈ ['x', 'X']) := by
  obtain ⟨strategy, listed, input, tells, rfl⟩ := tryEach_tells returned
  rw [configured_eq_filter] at listed
  have filled : input ≠ "" ∧ (input = "0x" → strategy = .archive) := by
    cases tells with
    | transaction byHash isNode received carries filled =>
      exact ⟨carries.1, fun empty => absurd empty filled⟩
    | block received listed present noRecipient isHash receipted creates carries =>
      exact ⟨carries.1, fun _ => rfl⟩
  exact ⟨strategy, input, (List.mem_filter.mp listed).2, tells, rfl, Text.lower_lower input,
    fun empty => filled.1 (Text.eq_empty_of_lower_eq_empty empty), Text.lower_eq_marker_iff input,
    filled.2, Text.marked_lower_iff input⟩

end

/-! ### A chain of one block -/

namespace OneBlock

def chain : Chain :=
  ⟨.string "1", .string "Mainnet", [], .string "http://archive", .null, .null, .null⟩

def logger : Logger := ⟨none, none⟩

def creation (input : String) : List (String × Json) :=
  [("hash", .string "0xd"), ("input", .string input)]

/-- The only block has the transaction that created the contract, with this input. -/
def result (input : String) : Json → Json
  | .string "eth_blockNumber" => .string "0x0"
  | .string "eth_getCode" => .string "0x6001"
  | .string "eth_getBlockByNumber" => .object [("transactions", .array [.object (creation input)])]
  | _ => .object [("contractAddress", .string "0xab")]

def world (input : String) : World :=
  ⟨fun _ request =>
    match request.body with
    | some (.object [_, (_, method), _, _]) =>
      .answered 200 "OK" (Json.object [("result", result input method)]).write
    | _ => .failed "offline", [], fun _ => .notFound, []⟩

def answers (input : String) : NodeAnswers := fun method _ => .ok (result input method)

theorem answers_areOf (input : String) (endpoint : Endpoint) :
    (answers input).AreOf endpoint (world input) := by
  intro method params session
  have exact : Json.Exact (.object [("result", result input method)]) := by
    unfold result
    split <;> simp [Table.keys, creation]
  have shallow : (Json.object [("result", result input method)]).depth ≤ Json.maxDepth := by
    unfold result
    split <;> simp [Json.depth, Json.depthItems, Json.depthMembers, creation, Json.maxDepth]
  rw [Rpc.call_run]
  apply Rpc.answer_of_delivers
  exact .result ((Json.renders_write exact).read shallow) rfl rfl

theorem gives_archive {input : String} (filled : input ≠ "") :
    (archive chain (.string "0xab")).Gives (world input) (.ok (Text.lower input)) := by
  have fixed := answers_areOf input chain.archive
  have height : (answers input).IsHeight 0 := ⟨"0x0", rfl, by decide⟩
  have code (block : Nat) : (answers input).HasCode "0xab" block := ⟨"0x6001", rfl, by decide⟩
  have creates : Creates (answers input) "0xab" (creation input) :=
    ⟨.inl rfl, .string "0xd", .object [("contractAddress", .string "0xab")], rfl, rfl,
      ⟨_, "0xab", rfl, rfl, by decide, rfl⟩⟩
  have none : ∀ lower, lower < 0 → (answers input).HasNoCode "0xab" lower :=
    fun lower below => absurd below (Nat.not_lt_zero lower)
  apply gives_withNodeFaults
  refine (gives_findCreationBlock fixed height (Nat.le_refl 0) none fun block _ _ => code block).bind
    ((gives_block fixed rfl).bind (.bind (.ofShape _) ?_))
  rw [creationInBlock_of_noRecipient _ creates.1]
  exact gives_taken fixed creates ⟨filled, .inl rfl⟩ []

/-- Any input that is not empty is taken for creation data. -/
theorem gives_resolve {input : String} (filled : input ≠ "") :
    (resolve logger chain (.string "0xab")).Gives (world input) (.ok (Text.lower input)) := by
  have announced : (logger.info "Fetching creation data" (subject chain (.string "0xab") ++
      [("strategy", .string Strategy.archive.text)])).Gives (world input) (.ok ()) := ⟨fun _ => rfl⟩
  exact announced.bind ((gives_archive filled).attempt.bind (.pure _))

end OneBlock

/-- An input with a marker in capitals is returned with the marker and its digits. -/
theorem data_of_resolve_in_capitals :
    ∃ final, resolve OneBlock.logger OneBlock.chain (.string "0xab") (OneBlock.world "0X60AB")
      (Session.fresh []) = (.ok "0x60ab", final) ∧
    ∃ strategy input, offers OneBlock.chain strategy = true ∧
      Tells (OneBlock.world "0X60AB") (Session.fresh []) final OneBlock.chain (.string "0xab") strategy
        input ∧
      "0x60ab" = Text.lower input ∧
      ∃ mark c rest, input.toList = '0' :: mark :: c :: rest ∧ mark ∈ ['x', 'X'] := by
  obtain ⟨final, returned⟩ :=
    (OneBlock.gives_resolve (show "0X60AB" ≠ "" by decide)).run_eq (Session.fresh [])
  rw [show Text.lower "0X60AB" = "0x60ab" by decide +kernel] at returned
  obtain ⟨strategy, input, offered, tells, isInput, -, -, -, -, marked⟩ := data_of_resolve returned
  exact ⟨final, returned, strategy, input, offered, tells, isInput,
    marked.mp ⟨'6', ['0', 'a', 'b'], rfl⟩⟩

/-- A transaction of a block is taken for the creation although it has no data but the marker. -/
theorem empty_data_resolved :
    (resolve OneBlock.logger OneBlock.chain (.string "0xab") (OneBlock.world "0x")
      (Session.fresh [])).1 = .ok "0x" ∧
    ¬ ∃ c rest, "0x".toList = '0' :: 'x' :: c :: rest := by
  have returned := (OneBlock.gives_resolve (show "0x" ≠ "" by decide)).same (Session.fresh [])
  rw [show Text.lower "0x" = "0x" by decide +kernel] at returned
  refine ⟨returned, ?_⟩
  rintro ⟨c, rest, same⟩
  cases same

end CreationData

end SourceAttest
