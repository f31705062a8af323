import Mathlib.Tactic.SplitIfs
import SourceAttest.CreationData.Strategy
import SourceAttest.Proofs.CreationData.BlockSearch
import SourceAttest.Proofs.Json.Shape

/-!
# Finding the transaction of a creation

The transactions of a block are gone through until one is the creation of the contract at an address.
Which one that is, its receipt says. The search stops at the first creation and at nothing else, as
long as everything before it can be read.
-/
namespace SourceAttest

open SourceAttest.Action

/-- What a node answers to a question for a receipt. -/
def NodeAnswers.receipt (answers : NodeAnswers) (hash : Json) : Except Fault Json :=
  answers (.string "eth_getTransactionReceipt") (.array [hash])

namespace CreationData

/-! ### Transactions and their receipts -/

/-- Without a recipient, a transaction creates a contract. -/
def HasNoRecipient (members : List (String × Json)) : Prop :=
  Table.get? "to" members = none ∨ Table.get? "to" members = some .null

/-- The receipt is that of the creation of the contract at an address, in whatever case. -/
def Names (address : String) (receipt : Json) : Prop :=
  ∃ fields contract, receipt = .object fields ∧
    (Table.get? "contractAddress" fields).bind Json.text? = some contract ∧ contract ≠ "" ∧
    Text.lower contract = Text.lower address

/-- There is no receipt yet, or it is an object whose contract is a text, if it has one. -/
def IsReceipt (receipt : Json) : Prop :=
  receipt = .null ∨ ∃ fields, receipt = .object fields ∧
    ∀ contract, Table.get? "contractAddress" fields = some contract →
      contract = .null ∨ ∃ text, contract.text? = some text

/-- The input of a transaction, under the newer name or, if there is none, under the older one. -/
def Carries (members : List (String × Json)) (input : String) : Prop :=
  input ≠ "" ∧ ((Table.get? "input" members).bind Json.text? = some input ∨
    ((Table.get? "input" members).getD .null).isTruthy = false ∧
      (Table.get? "data" members).bind Json.text? = some input)

variable {answers : NodeAnswers} {address : String} {members : List (String × Json)}

variable (answers address) in
/-- A transaction created the contract at an address, as its receipt says. -/
def Creates (members : List (String × Json)) : Prop :=
  HasNoRecipient members ∧ ∃ hash receipt, Table.get? "hash" members = some hash ∧
    answers.receipt hash = .ok receipt ∧ Names address receipt

variable (answers) in
/-- A transaction object. Without a recipient it has a hash, and the node answers with a receipt or
with none. -/
def IsReadable (transaction : Json) : Prop :=
  ∃ members, transaction = .object members ∧ (HasNoRecipient members →
    ∃ hash receipt, Table.get? "hash" members = some hash ∧ answers.receipt hash = .ok receipt ∧
      IsReceipt receipt)

variable (answers address) in
/-- The first transaction of a list that created the contract at an address. -/
inductive FirstCreation : List Json → List (String × Json) → Prop where
  | here {members : List (String × Json)} {rest : List Json} :
      Creates answers address members → FirstCreation (.object members :: rest) members
  | later {others members : List (String × Json)} {rest : List Json} :
      ¬ Creates answers address others → FirstCreation rest members →
      FirstCreation (.object others :: rest) members

theorem FirstCreation.mem {transactions : List Json}
    (first : FirstCreation answers address transactions members) :
    .object members ∈ transactions := by
  induction first with
  | here creates => exact .head _
  | later other first ih => exact .tail _ ih

theorem member_eq_ok {name : String} {value : Json} :
    (Json.object members).member name = .ok value ↔ Table.get? name members = some value := by
  unfold Json.member Json.select
  cases found : Table.get? name members with
  | none => simp [found]
  | some other => simp [found]

theorem creates_iff {hash receipt : Json} (found : Table.get? "hash" members = some hash)
    (told : answers.receipt hash = .ok receipt) :
    Creates answers address members ↔ HasNoRecipient members ∧ Names address receipt := by
  refine and_congr_right fun _ => ⟨?_, fun names => ⟨hash, receipt, found, told, names⟩⟩
  rintro ⟨_, _, found', told', names⟩
  rw [found] at found'
  cases found'
  rw [told] at told'
  cases told'
  exact names

/-- An answered receipt is compared with the address only if it has a contract. -/
theorem created_of_object (address : String) (fields : List (String × Json)) :
    created (.string address) (.object fields)
      = match Table.get? "contractAddress" fields with
        | none => .ok false
        | some contract =>
          if contract.isTruthy then
            (contract.text "lower").map fun text => decide (Text.lower text = Text.lower address)
          else .ok false := by
  cases fields with
  | nil => rfl
  | cons field rest =>
    -- The object has a member, so it is looked at.
    change (if !((Table.get? "contractAddress" (field :: rest)).getD .null).isTruthy then .ok false
      else (((Table.get? "contractAddress" (field :: rest)).getD .null).text "lower").bind
        fun text => .ok (decide (Text.lower text = Text.lower address))) = _
    cases Table.get? "contractAddress" (field :: rest) with
    | none => rfl
    | some contract =>
      cases present : contract.isTruthy with
      | false => simp [present]
      | true =>
        simp only [Option.getD_some, present, Bool.not_true, Bool.false_eq_true, if_false, if_true]
        cases contract.text "lower" with
        | error why => rfl
        | ok text => rfl

theorem created_eq_true {receipt : Json} :
    created (.string address) receipt = .ok true ↔ Names address receipt := by
  constructor
  · intro returned
    cases receipt with
    | object fields =>
      rw [created_of_object] at returned
      split at returned
      next absent => cases returned
      next contract found =>
        split_ifs at returned with present
        · obtain ⟨text, isText, same⟩ := Outcome.map_eq_ok.mp returned
          have named := Json.text_eq_ok_iff.mp isText
          exact ⟨fields, text, rfl, by rw [found]; exact named,
            (Json.isTruthy_iff_of_text? named).mp present, of_decide_eq_true same⟩
        · cases returned
    | null => cases returned
    | _ =>
      unfold created at returned
      split at returned
      · cases returned
      · cases returned
  · rintro ⟨fields, contract, rfl, named, filled, same⟩
    obtain ⟨value, found, isText⟩ := Option.bind_eq_some_iff.mp named
    rw [created_of_object, found]
    dsimp only
    rw [if_pos ((Json.isTruthy_iff_of_text? isText).mpr filled), Json.text_eq_ok_iff.mpr isText]
    exact congrArg Except.ok (decide_eq_true same)

theorem created_of_isReceipt {receipt : Json} (readable : IsReceipt receipt)
    (other : ¬ Names address receipt) : created (.string address) receipt = .ok false := by
  have answered : ∃ named, created (.string address) receipt = .ok named := by
    rcases readable with rfl | ⟨fields, rfl, texts⟩
    · exact ⟨false, rfl⟩
    · rw [created_of_object]
      split
      · exact ⟨false, rfl⟩
      next contract found =>
        rcases texts contract found with rfl | ⟨text, isText⟩
        · exact ⟨false, rfl⟩
        · rw [Json.text_eq_ok_iff.mpr isText]
          split
          · exact ⟨_, rfl⟩
          · exact ⟨false, rfl⟩
  obtain ⟨named, returned⟩ := answered
  cases named with
  | false => exact returned
  | true => exact absurd (created_eq_true.mp returned) other

theorem inputOf_object (members : List (String × Json)) :
    inputOf (.object members)
      = .ok (if ((Table.get? "input" members).getD .null).isTruthy
          then (Table.get? "input" members).getD .null
          else (Table.get? "data" members).getD .null) := by
  change (if ((Table.get? "input" members).getD .null).isTruthy
    then Except.ok ((Table.get? "input" members).getD .null) else _) = _
  split_ifs
  · rfl
  · rfl

theorem inputOf_eq_ok {input : String} :
    (∃ value, inputOf (.object members) = .ok value ∧ value.text? = some input) ∧ input ≠ ""
      ↔ Carries members input := by
  have named {name : String} : ((Table.get? name members).getD .null).text? = some input ↔
      (Table.get? name members).bind Json.text? = some input := by
    cases Table.get? name members with
    | none => simp [Json.text?]
    | some value => simp
  simp only [inputOf_object, Except.ok.injEq, Carries, exists_eq_left']
  -- The older name counts only if there is nothing under the newer one.
  split_ifs with present
  · rw [named]
    constructor
    · rintro ⟨newer, filled⟩
      exact ⟨filled, .inl newer⟩
    · rintro ⟨filled, newer | ⟨falsy, -⟩⟩
      · exact ⟨newer, filled⟩
      · exact absurd present (by simp [falsy])
  · rw [named]
    constructor
    · rintro ⟨older, filled⟩
      exact ⟨filled, .inr ⟨by simpa using present, older⟩⟩
    · rintro ⟨filled, newer | ⟨-, older⟩⟩
      · exact absurd ((Json.isTruthy_iff_of_text? (named.mpr newer)).mpr filled) present
      · exact ⟨older, filled⟩

/-! ### Going through a block -/

section Block

variable {endpoint : Endpoint} {block : Nat} {world : World} {session final : Session}

theorem creationInBlock_of_noRecipient (address : Json) (none : HasNoRecipient members)
    (rest : List Json) :
    creationInBlock endpoint address block (.object members :: rest)
      = creationInBlock.candidate endpoint address block members rest := by
  rw [creationInBlock.eq_def]
  rcases none with absent | null
  · simp only [absent]
  · simp only [null]

theorem creationInBlock_of_recipient (address : Json) (some : ¬ HasNoRecipient members)
    (rest : List Json) :
    creationInBlock endpoint address block (.object members :: rest)
      = creationInBlock endpoint address block rest := by
  rw [creationInBlock.eq_def]
  dsimp only
  split
  next null => exact absurd (.inr null) some
  next absent => exact absurd (.inl absent) some
  · rfl

/-- A candidate that returns does so with its own input if its receipt is that of the creation, or else
the search has gone on behind it. -/
theorem candidate_cases {address : Json} {rest : List Json} {data : String}
    (returned : creationInBlock.candidate endpoint address block members rest world session
      = (.ok data, final)) :
    ∃ hash receipt middle, Table.get? "hash" members = some hash ∧
      Rpc.receipt endpoint hash world session = (.ok receipt, middle) ∧
      (created address receipt = .ok true ∧ middle = final ∧
          (∃ input, Carries members input ∧ data = Text.lower input) ∨
        created address receipt = .ok false ∧
          creationInBlock endpoint address block rest world middle = (.ok data, final)) := by
  rw [creationInBlock.candidate] at returned
  obtain ⟨hash, _, taken, returned⟩ := bind_eq_ok.mp returned
  obtain ⟨found, rfl⟩ := ofShape_eq_ok.mp taken
  obtain ⟨receipt, middle, asked, returned⟩ := bind_eq_ok.mp returned
  obtain ⟨named, _, compared, returned⟩ := bind_eq_ok.mp returned
  obtain ⟨decided, rfl⟩ := ofShape_eq_ok.mp compared
  refine ⟨hash, receipt, middle, member_eq_ok.mp found, asked, ?_⟩
  -- A receipt that names another contract passes the candidate over.
  cases named with
  | false => exact .inr ⟨decided, returned⟩
  | true =>
    obtain ⟨input, _, read, returned⟩ := bind_eq_ok.mp returned
    obtain ⟨isInput, rfl⟩ := ofShape_eq_ok.mp read
    split_ifs at returned with filled
    · obtain ⟨text, _, lowered, returned⟩ := bind_eq_ok.mp returned
      obtain ⟨isText, rfl⟩ := ofShape_eq_ok.mp lowered
      obtain ⟨rfl, rfl⟩ := pure_eq_ok.mp returned
      have named := Json.text_eq_ok_iff.mp isText
      have carries := inputOf_eq_ok.mp
        ⟨⟨input, isInput, named⟩, (Json.isTruthy_iff_of_text? named).mp filled⟩
      exact .inl ⟨decided, rfl, text, carries, rfl⟩
    · cases returned

variable (fixed : answers.AreOf endpoint world)

include fixed

theorem gives_receipt (hash : Json) :
    (Rpc.receipt endpoint hash).Gives world (answers.receipt hash) :=
  gives_call fixed _ _

/-- A candidate that returns has created the contract, or the search has gone on behind it. -/
theorem candidate_eq_ok {rest : List Json} {data : String}
    (returned : creationInBlock.candidate endpoint (.string address) block members rest world session
      = (.ok data, final)) :
    ∃ hash receipt, Table.get? "hash" members = some hash ∧ answers.receipt hash = .ok receipt ∧
      (Names address receipt ∧ (∃ input, Carries members input ∧ data = Text.lower input) ∨
      ¬ Names address receipt ∧ ∃ middle,
        creationInBlock endpoint (.string address) block rest world middle = (.ok data, final)) := by
  obtain ⟨hash, receipt, middle, found, asked, returned⟩ := candidate_cases returned
  have told := (gives_receipt fixed hash).same session
  rw [asked] at told
  refine ⟨hash, receipt, found, told.symm, ?_⟩
  rcases returned with ⟨decided, -, taken⟩ | ⟨decided, later⟩
  · exact .inl ⟨created_eq_true.mp decided, taken⟩
  · have other : ¬ Names address receipt := by
      rw [← created_eq_true, decided]
      simp
    exact .inr ⟨other, middle, later⟩

/-- What is returned is the input of the first creation of the contract in the block. -/
theorem creationInBlock_eq_ok {transactions : List Json} {data : String}
    (returned : creationInBlock endpoint (.string address) block transactions world session
      = (.ok data, final)) :
    ∃ members input, FirstCreation answers address transactions members ∧ Carries members input ∧
      data = Text.lower input := by
  induction transactions generalizing session with
  | nil =>
    rw [creationInBlock.eq_def] at returned
    cases returned
  | cons transaction rest ih =>
    cases transaction with
    | object members =>
      by_cases none : HasNoRecipient members
      · rw [creationInBlock_of_noRecipient _ none] at returned
        obtain ⟨hash, receipt, found, told, ⟨names, input, carries, rfl⟩ | ⟨other, _, later⟩⟩ :=
          candidate_eq_ok fixed returned
        · exact ⟨members, input, .here ⟨none, hash, receipt, found, told, names⟩, carries, rfl⟩
        · obtain ⟨created, input, first, carries, rfl⟩ := ih later
          have passed : ¬ Creates answers address members := fun creates =>
            other ((creates_iff found told).mp creates).2
          exact ⟨created, input, .later passed first, carries, rfl⟩
      · rw [creationInBlock_of_recipient _ none] at returned
        obtain ⟨created, input, first, carries, rfl⟩ := ih returned
        exact ⟨created, input, .later (fun creates => none creates.1) first, carries, rfl⟩
    | _ =>
      rw [creationInBlock.eq_def] at returned
      cases returned

/-- A candidate is taken if its receipt names the address. -/
theorem gives_taken {input : String} (creates : Creates answers address members)
    (carries : Carries members input) (rest : List Json) :
    (creationInBlock.candidate endpoint (.string address) block members rest).Gives world
      (.ok (Text.lower input)) := by
  obtain ⟨-, hash, receipt, found, told, names⟩ := creates
  obtain ⟨⟨value, read, isText⟩, filled⟩ := inputOf_eq_ok.mpr carries
  have asked : (Rpc.receipt endpoint hash).Gives world (.ok receipt) :=
    told ▸ gives_receipt fixed hash
  rw [creationInBlock.candidate, member_eq_ok.mpr found]
  refine .bind (.ofShape _) (asked.bind ?_)
  rw [created_eq_true.mpr names, read]
  refine .bind (.ofShape true) (.bind (.ofShape value) ?_)
  rw [if_pos ((Json.isTruthy_iff_of_text? isText).mpr filled), Json.text_eq_ok_iff.mpr isText]
  exact .bind (.ofShape input) (.pure _)

/-- A candidate whose receipt names no contract, or another one, is passed over. -/
theorem gives_passed {rest : List Json} {outcome : Except Fault String}
    (readable : IsReadable answers (.object members)) (none : HasNoRecipient members)
    (other : ¬ Creates answers address members)
    (behind : (creationInBlock endpoint (.string address) block rest).Gives world outcome) :
    (creationInBlock.candidate endpoint (.string address) block members rest).Gives world
      outcome := by
  obtain ⟨_, same, answered⟩ := readable
  cases same
  obtain ⟨hash, receipt, found, told, isReceipt⟩ := answered none
  have asked : (Rpc.receipt endpoint hash).Gives world (.ok receipt) :=
    told ▸ gives_receipt fixed hash
  rw [creationInBlock.candidate, member_eq_ok.mpr found]
  refine .bind (.ofShape _) (asked.bind ?_)
  rw [created_of_isReceipt isReceipt fun names => other ⟨none, hash, receipt, found, told, names⟩]
  exact .bind (.ofShape false) behind

/-- The first creation of the contract is found behind readable transactions. -/
theorem gives_creationInBlock {transactions : List Json} {input : String}
    (first : FirstCreation answers address transactions members)
    (readable : ∀ transaction ∈ transactions, IsReadable answers transaction)
    (carries : Carries members input) :
    (creationInBlock endpoint (.string address) block transactions).Gives world
      (.ok (Text.lower input)) := by
  induction first with
  | here creates =>
    rw [creationInBlock_of_noRecipient _ creates.1]
    exact gives_taken fixed creates carries _
  | @later others _ rest other _ ih =>
    have behind := ih (fun transaction inRest => readable transaction (.tail _ inRest)) carries
    by_cases none : HasNoRecipient others
    · rw [creationInBlock_of_noRecipient _ none]
      exact gives_passed fixed (readable _ (.head _)) none other behind
    · rw [creationInBlock_of_recipient _ none]
      exact behind

end Block

end CreationData

end SourceAttest
