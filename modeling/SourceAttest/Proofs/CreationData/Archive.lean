import SourceAttest.Json.Writer
import SourceAttest.Proofs.CreationData.Transactions

/-!
# Searching an archive node

The search for creation data puts the search for a block and the one for a transaction together. The
main result is `archive_sound_and_complete`: what is returned is the input of the first creation of
the contract in a block that has its code while the block before has none, and a creation that can be
read is found if the code stays from then on.
-/
namespace SourceAttest

open SourceAttest.Action

namespace NodeAnswers

variable (answers : NodeAnswers)

/-- What the node answers to a question for a block with its transactions. -/
def block (number : Nat) : Except Fault Json :=
  answers (.string "eth_getBlockByNumber") (.array [.string (Base16.ofInt number), .bool true])

/-- The node knows a block with these transactions. -/
def Lists (number : Nat) (transactions : List Json) : Prop :=
  ∃ fields, answers.block number = .ok (.object fields) ∧
    Table.get? "transactions" fields = some (.array transactions)

end NodeAnswers

namespace CreationData

section Search

variable {answers : NodeAnswers} {endpoint : Endpoint} {block : Nat} {world : World}
variable {session final : Session}

theorem gives_block (fixed : answers.AreOf endpoint world) {fields : List (String × Json)}
    (told : answers.block block = .ok (.object fields)) :
    (Rpc.block endpoint (.int block) (.bool true)).Gives world (.ok (.object fields)) := by
  have asked : (Rpc.call endpoint (.string "eth_getBlockByNumber")
      (.array [.string (Base16.ofInt block), .bool true]) defaultTimeout).Gives world
      (.ok (.object fields)) := told ▸ gives_call fixed _ _
  exact asked.bind (.pure _)

theorem block_eq_ok (fixed : answers.AreOf endpoint world) {document : Json}
    (returned : Rpc.block endpoint (.int block) (.bool true) world session = (.ok document, final)) :
    answers.block block = .ok document := by
  obtain ⟨found, _, asked, returned⟩ := bind_eq_ok.mp returned
  have told : answers.block block = .ok found :=
    ((gives_call fixed _ _).same session).symm.trans (congrArg Prod.fst asked)
  cases found with
  | null => cases returned
  | _ =>
    obtain ⟨rfl, -⟩ := pure_eq_ok.mp returned
    exact told

theorem withNodeFaults_eq_ok {action : Action String} {data : String} :
    withNodeFaults action world session = (.ok data, final) ↔
      action world session = (.ok data, final) := by
  constructor
  · intro returned
    obtain ⟨outcome, _, tried, returned⟩ := bind_eq_ok.mp returned
    cases outcome with
    | error fault => cases returned
    | ok value =>
      obtain ⟨rfl, rfl⟩ := pure_eq_ok.mp returned
      exact attempt_eq_ok.mp tried
  · intro returned
    exact bind_eq_ok.mpr ⟨_, _, attempt_eq_ok.mpr returned, rfl⟩

theorem gives_withNodeFaults {action : Action String} {data : String}
    (gives : action.Gives world (.ok data)) : (withNodeFaults action).Gives world (.ok data) :=
  gives.attempt.bind (.pure _)

/-- Only a list in the block object has transaction objects among its items. -/
theorem listed_of_items {document : Json} {transactions : List Json}
    {members : List (String × Json)}
    (items : (do (← document.memberOr "transactions" (.array [])).items) = .ok transactions)
    (present : .object members ∈ transactions) :
    ∃ fields, document = .object fields ∧
      Table.get? "transactions" fields = some (.array transactions) := by
  cases document with
  | object fields =>
    change ((Table.get? "transactions" fields).getD (.array [])).items = _ at items
    refine ⟨fields, rfl, ?_⟩
    cases found : Table.get? "transactions" fields with
    | none =>
      rw [found] at items
      cases items
      cases present
    | some value =>
      rw [found, Option.getD_some] at items
      cases value with
      | array _ =>
        cases items
        rfl
      | string _ =>
        cases items
        obtain ⟨_, -, isText⟩ := List.mem_map.mp present
        cases isText
      | unpaired text =>
        cases items
        obtain ⟨point, -, same⟩ := List.mem_map.mp present
        have isText := Json.text?_ofPoints [point]
        rw [same] at isText
        cases isText
      | object _ =>
        cases items
        obtain ⟨_, -, isText⟩ := List.mem_map.mp present
        cases isText
      | _ => cases items
  | _ => cases items

/-- A search of an archive node returns the input of the first creation of the contract in a block
that has its code while the block before has none. If there is code at the address from a block on
and none before, and the transactions of that block can be read, the search returns the input of the
first creation there. -/
theorem archive_sound_and_complete {chain : Chain} {latest : Nat} (address : String)
    (fixed : answers.AreOf chain.archive world) (height : answers.IsHeight latest) :
    (∀ session final data, archive chain (.string address) world session = (.ok data, final) →
      ∃ block transactions members input, block ≤ latest ∧ answers.HasCode address block ∧
        (block = 0 ∨ answers.HasNoCode address (block - 1)) ∧ answers.Lists block transactions ∧
        FirstCreation answers address transactions members ∧ Carries members input ∧
        data = Text.lower input) ∧
    ∀ block transactions members input, block ≤ latest →
      (∀ lower, lower < block → answers.HasNoCode address lower) →
      (∀ higher, block ≤ higher → higher ≤ latest → answers.HasCode address higher) →
      answers.Lists block transactions →
      (∀ transaction ∈ transactions, IsReadable answers transaction) →
      FirstCreation answers address transactions members → Carries members input →
      ∀ session, ∃ final,
        archive chain (.string address) world session = (.ok (Text.lower input), final) := by
  constructor
  · -- What returns has gone through the search for the block, the block and its transactions.
    intro session final data returned
    obtain ⟨block, _, searched, returned⟩ := bind_eq_ok.mp (withNodeFaults_eq_ok.mp returned)
    obtain ⟨most, has, start⟩ := findCreationBlock_eq_ok fixed height searched
    obtain ⟨document, _, asked, returned⟩ := bind_eq_ok.mp returned
    obtain ⟨transactions, _, taken, scanned⟩ := bind_eq_ok.mp returned
    obtain ⟨items, rfl⟩ := ofShape_eq_ok.mp taken
    obtain ⟨members, input, first, carries, rfl⟩ := creationInBlock_eq_ok fixed scanned
    obtain ⟨fields, rfl, found⟩ := listed_of_items items first.mem
    exact ⟨block, transactions, members, input, most, has, start,
      ⟨fields, block_eq_ok fixed asked, found⟩, first, carries, rfl⟩
  · -- The other way round, each of these steps gives its answer in any session.
    intro block transactions members input most none some listed readable first carries session
    obtain ⟨fields, told, found⟩ := listed
    refine Gives.run_eq (gives_withNodeFaults ?_) session
    refine (gives_findCreationBlock fixed height most none some).bind
      ((gives_block fixed told).bind ?_)
    have items : (do (← (Json.object fields).memberOr "transactions" (.array [])).items)
        = .ok transactions := by
      change ((Table.get? "transactions" fields).getD (.array [])).items = _
      rw [found]
      rfl
    rw [items]
    exact .bind (.ofShape _) (gives_creationInBlock fixed first readable carries)

end Search

/-! ### A node -/

namespace Sample

/-- The transactions of the first block: a call, a creation that is not settled, the creation of
another contract, and the one that is looked for. -/
def transactions : List Json :=
  [.object [("to", .string "0x1"), ("hash", .string "0xa")],
    .object [("hash", .string "0xb")],
    .object [("to", .null), ("hash", .string "0xc")],
    .object [("hash", .string "0xd"), ("input", .string "0xABCD")]]

/-- What the node has at height two. The contract is there from the first block on. -/
def result : Json → Json → Json
  | .string "eth_blockNumber", _ => .string "0x2"
  | .string "eth_getCode", .array [_, .string "0x0"] => .string "0x"
  | .string "eth_getCode", _ => .string "0x6001"
  | .string "eth_getBlockByNumber", _ => .object [("transactions", .array transactions)]
  | .string "eth_getTransactionReceipt", .array [.string "0xc"] =>
    .object [("contractAddress", .string "0xff")]
  | .string "eth_getTransactionReceipt", .array [.string "0xd"] =>
    .object [("contractAddress", .string "0xAb")]
  | _, _ => .null

def reply (method params : Json) : HttpReply :=
  .answered 200 "OK" (Json.object [("result", result method params)]).write

def answers : NodeAnswers :=
  fun method params => (Rpc.bodyOf method (reply method params)).bind (Rpc.resultOf method)

def network : Network := fun _ request =>
  match request.body with
  | some (.object [_, (_, method), (_, params), _]) => reply method params
  | _ => .failed "offline"

def world : World := ⟨network, [], fun _ => .notFound, []⟩

def chain : Chain :=
  ⟨.string "1", .string "Mainnet", [], .null, .null, .null, .string "http://archive"⟩

theorem answers_areOf (endpoint : Endpoint) : answers.AreOf endpoint world := by
  intro method params session
  rw [Rpc.call_run]
  rfl

theorem isHeight : answers.IsHeight 2 :=
  ⟨"0x2", Outcome.eq_ok_of_toOption (by decide +kernel), by decide +kernel⟩

theorem code_eq {block : Nat} {text : String}
    (read : (answers (.string "eth_getCode")
      (.array [.string "0xaB", .string (Base16.ofInt block)])).toOption = some (.string text))
    (low : Rpc.codeIn (.string text) = .ok text) : answers.code "0xaB" block = .ok text := by
  rw [NodeAnswers.code, Outcome.eq_ok_of_toOption read]
  exact low

theorem hasNoCode_before {lower : Nat} (before : lower < 1) : answers.HasNoCode "0xaB" lower := by
  obtain rfl : lower = 0 := by omega
  exact code_eq (by decide +kernel) rfl

theorem hasCode_from {higher : Nat} (least : 1 ≤ higher) (most : higher ≤ 2) :
    answers.HasCode "0xaB" higher := by
  have low : Rpc.codeIn (.string "0x6001") = .ok "0x6001" :=
    congrArg Except.ok (show Text.lower "0x6001" = "0x6001" by decide +kernel)
  obtain rfl | rfl : higher = 1 ∨ higher = 2 := by omega
  · exact ⟨_, code_eq (by decide +kernel) low, by decide⟩
  · exact ⟨_, code_eq (by decide +kernel) low, by decide⟩

theorem lists : answers.Lists 1 transactions :=
  ⟨[("transactions", .array transactions)], Outcome.eq_ok_of_toOption (by decide +kernel), rfl⟩

theorem receipt_eq {hash receipt : Json}
    (read : (answers (.string "eth_getTransactionReceipt") (.array [hash])).toOption
      = some receipt) : answers.receipt hash = .ok receipt := by
  rw [NodeAnswers.receipt, Outcome.eq_ok_of_toOption read]

theorem receipt_pending : answers.receipt (.string "0xb") = .ok .null :=
  receipt_eq (by decide +kernel)

theorem receipt_other :
    answers.receipt (.string "0xc") = .ok (.object [("contractAddress", .string "0xff")]) :=
  receipt_eq (by decide +kernel)

theorem receipt_right :
    answers.receipt (.string "0xd") = .ok (.object [("contractAddress", .string "0xAb")]) :=
  receipt_eq (by decide +kernel)

theorem not_hasNoRecipient :
    ¬ HasNoRecipient [("to", .string "0x1"), ("hash", .string "0xa")] := by
  rintro (absent | null)
  · cases absent
  · cases null

theorem isReadable : ∀ transaction ∈ transactions, IsReadable answers transaction := by
  have isReceipt (text : String) : IsReceipt (.object [("contractAddress", .string text)]) := by
    refine .inr ⟨_, rfl, fun contract found => .inr ⟨text, ?_⟩⟩
    cases found
    rfl
  intro transaction listed
  simp only [transactions, List.mem_cons, List.not_mem_nil, or_false] at listed
  rcases listed with rfl | rfl | rfl | rfl
  · exact ⟨_, rfl, fun none => absurd none not_hasNoRecipient⟩
  · exact ⟨_, rfl, fun _ => ⟨_, _, rfl, receipt_pending, .inl rfl⟩⟩
  · exact ⟨_, rfl, fun _ => ⟨_, _, rfl, receipt_other, isReceipt _⟩⟩
  · exact ⟨_, rfl, fun _ => ⟨_, _, rfl, receipt_right, isReceipt _⟩⟩

theorem firstCreation : FirstCreation answers "0xaB" transactions
    [("hash", .string "0xd"), ("input", .string "0xABCD")] := by
  refine .later ?_ (.later ?_ (.later ?_ (.here ?_)))
  · exact fun creates => not_hasNoRecipient creates.1
  · rw [creates_iff rfl receipt_pending]
    rintro ⟨-, _, _, isObject, -⟩
    cases isObject
  · rw [creates_iff rfl receipt_other]
    rintro ⟨-, _, _, isObject, found, -, same⟩
    cases isObject
    cases found
    exact absurd same (by decide +kernel)
  · rw [creates_iff rfl receipt_right]
    exact ⟨.inl rfl, _, "0xAb", rfl, rfl, by decide, by decide +kernel⟩

end Sample

/-- The creation in the first of two blocks is found behind a call and two other creations. -/
theorem archive_sound_and_complete_of_two_blocks :
    Sample.answers.AreOf Sample.chain.archive Sample.world ∧ Sample.answers.IsHeight 2 ∧
    ∀ session, ∃ final,
      archive Sample.chain (.string "0xaB") Sample.world session = (.ok "0xabcd", final) := by
  have fixed := Sample.answers_areOf Sample.chain.archive
  have height := Sample.isHeight
  refine ⟨fixed, height, ?_⟩
  exact (archive_sound_and_complete "0xaB" fixed height).2 1 _ _ "0xABCD" (by decide)
    (fun _ => Sample.hasNoCode_before) (fun _ => Sample.hasCode_from) Sample.lists
    Sample.isReadable Sample.firstCreation ⟨by decide, .inl rfl⟩

end CreationData

end SourceAttest
