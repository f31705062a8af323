import Mathlib.Data.Nat.Size
import SourceAttest.Proofs.Base16
import SourceAttest.Proofs.CreationData.BlockSearch
import SourceAttest.Proofs.Json.RoundTrip
import SourceAttest.Proofs.Text.Lowercase

/-!
# The questions of a search for a creation block

A node tells the code at an address as of each block so far; nothing is assumed of the blocks at which
there is one. The search asks for the height and then for the codes at some of the blocks, the latest
one first. The main result is `creationBlock_of_history`: which questions are asked, how many, and what
they lead to.
-/
namespace SourceAttest

open SourceAttest.Action

/-! ### What a node tells -/

/-- An answer that tells of no code: null, no text, or a marker alone. -/
def NoCode : Option String → Prop
  | none => True
  | some text => text = "" ∨ text = "0x" ∨ text = "0X"

instance : DecidablePred NoCode
  | none => .isTrue trivial
  | some text => inferInstanceAs (Decidable (text = "" ∨ text = "0x" ∨ text = "0X"))

/-- The node at an endpoint is at this height and tells these codes of an address, one for each block
so far, whatever it was asked before. -/
structure TellsHistory (world : World) (endpoint : Endpoint) (address : String) (latest : Nat)
    (code : Nat → Option String) : Prop where
  height : ∀ session, ∃ text, (Rpc.call endpoint (.string "eth_blockNumber") (.array [])
    defaultTimeout world session).1 = .ok (.string text) ∧ Base16.readInt? text = some (latest : Int)
  code : ∀ block ≤ latest, ∀ session, (Rpc.call endpoint (.string "eth_getCode")
    (.array [.string address, .string (Base16.ofInt block)]) defaultTimeout world session).1
      = .ok ((code block).elim .null .string)

/-- The session after the height has been asked for. -/
def afterHeight (endpoint : Endpoint) : Session → Session :=
  Rpc.afterCall endpoint (.string "eth_blockNumber") (.array []) defaultTimeout

/-- The session after the code at an address as of a block has been asked for. -/
def afterCode (endpoint : Endpoint) (address : String) (session : Session) (block : Nat) : Session :=
  Rpc.afterCall endpoint (.string "eth_getCode")
    (.array [.string address, .string (Base16.ofInt block)]) defaultTimeout session

theorem codeIn_of_answer (answer : Option String) :
    ∃ text, Rpc.codeIn (answer.elim .null .string) = .ok text ∧ (text = "0x" ↔ NoCode answer) := by
  cases answer with
  | none => exact ⟨"0x", rfl, iff_of_true rfl trivial⟩
  | some text =>
    by_cases empty : text = ""
    · subst empty
      exact ⟨"0x", rfl, iff_of_true rfl (.inl rfl)⟩
    · have truthy : (Json.string text).isTruthy = true := by simpa [Json.isTruthy] using empty
      refine ⟨Text.lower text, ?_, ?_⟩
      · simp only [Option.elim, Rpc.codeIn, truthy]
        rfl
      · rw [Text.lower_eq_marker_iff, NoCode]
        simp only [empty, false_or]

section Questions

variable {world : World} {endpoint : Endpoint} {address : String} {latest : Nat}
  {code : Nat → Option String} (tells : TellsHistory world endpoint address latest code)

include tells

theorem blockNumber_run (session : Session) :
    Rpc.blockNumber endpoint world session = (.ok (latest : Int), afterHeight endpoint session) := by
  obtain ⟨text, told, isNumber⟩ := tells.height session
  have asked : Rpc.call endpoint (.string "eth_blockNumber") (.array []) defaultTimeout world session
      = (.ok (.string text), afterHeight endpoint session) := by
    rw [← told, Rpc.call_run]
    rfl
  rw [Rpc.blockNumber, bind_of_ok asked]
  dsimp only
  rw [isNumber]
  rfl

theorem hasCodeAt_run {block : Nat} (known : block ≤ latest) (session : Session) :
    hasCodeAt endpoint (.string address) block world session
      = (.ok (decide (¬ NoCode (code block))), afterCode endpoint address session block) := by
  obtain ⟨text, reads, empty⟩ := codeIn_of_answer (code block)
  have asked : Rpc.codeAt endpoint (.string address) (.int block) world session
      = (.ok text, afterCode endpoint address session block) := by
    have told := tells.code block known session
    rw [Rpc.codeAt_run, show Rpc.blockParam (.int block) = .string (Base16.ofInt block) from rfl, told,
      Rpc.call_run]
    exact congrArg (·, afterCode endpoint address session block) reads
  rw [hasCodeAt, bind_of_ok asked]
  simp only [ne_eq, decide_not, empty]
  rfl

theorem answer_of_told {block : Nat} {answer : Bool} (known : block ≤ latest)
    (told : Told world (fun block => hasCodeAt endpoint (.string address) block) block answer) :
    answer = decide (¬ NoCode (code block)) := by
  obtain ⟨before, after, probed⟩ := told
  have run := (hasCodeAt_run tells known before).symm.trans probed
  exact (Except.ok.inj (Prod.mk.inj run).1).symm

end Questions

/-! ### Halving a range -/

/-- A search probes below its upper end, at most as often as the size of the range can be halved. -/
theorem searchRange_run {world : World} {probe : Nat → Action Bool} {answer : Nat → Bool}
    {after : Session → Nat → Session} {low high depth : Nat}
    (probes : ∀ block < high, ∀ session,
      probe block world session = (.ok (answer block), after session block))
    (ordered : low ≤ high) (shallow : high - low < 2 ^ depth) (session : Session) :
    ∃ (block : Nat) (asked : List Nat),
      searchRange probe low high world session = (.ok block, asked.foldl after session) ∧
      (∀ block ∈ asked, block < high) ∧ asked.length ≤ depth := by
  revert depth session
  induction low, high using searchRange.induct with
  | case1 low high more mid lower upper =>
    intro depth shallow session
    have middle : low ≤ mid ∧ mid < high := by omega
    cases depth with
    | zero => omega
    | succ depth =>
      rw [Nat.pow_succ] at shallow
      have probed := probes mid middle.2 session
      rw [searchRange, if_pos more, bind_of_ok probed]
      -- Both halves are at most half as long.
      cases answer mid with
      | true =>
        obtain ⟨block, asked, run, below, few⟩ :=
          lower (fun block small => probes block (by omega)) middle.1
            (show mid - low < 2 ^ depth by omega) (after session mid)
        refine ⟨block, mid :: asked, run, ?_, Nat.succ_le_succ few⟩
        refine List.forall_mem_cons.mpr ⟨middle.2, fun block member => ?_⟩
        exact Nat.lt_trans (below block member) middle.2
      | false =>
        obtain ⟨block, asked, run, below, few⟩ :=
          upper probes middle.2 (show high - (mid + 1) < 2 ^ depth by omega) (after session mid)
        refine ⟨block, mid :: asked, run, ?_, Nat.succ_le_succ few⟩
        exact List.forall_mem_cons.mpr ⟨middle.2, below⟩
  | case2 low high done =>
    intro depth shallow session
    rw [searchRange, if_neg done]
    exact ⟨low, [], rfl, fun _ member => absurd member List.not_mem_nil, Nat.zero_le _⟩

/-! ### The whole search -/

section Search

variable {world : World} {endpoint : Endpoint} {address : String} {latest : Nat}
  {code : Nat → Option String} (tells : TellsHistory world endpoint address latest code)

include tells

/-- Without code at the latest block the search fails after its first question for a code. -/
theorem findCreationBlock_of_noCode (empty : NoCode (code latest)) (session : Session) :
    findCreationBlock endpoint (.string address) world session
      = (.error (Fault.namingBlock (.strategy (.noCode (.string address) latest)) latest),
        afterCode endpoint address (afterHeight endpoint session) latest) := by
  have probed := hasCodeAt_run tells (Nat.le_refl latest) (afterHeight endpoint session)
  rw [decide_eq_false (not_not_intro empty)] at probed
  rw [findCreationBlock, bind_of_ok (blockNumber_run tells session), bind_of_ok probed]
  rfl

theorem findCreationBlock_of_code (filled : ¬ NoCode (code latest)) (session : Session) :
    ∃ (block : Nat) (asked : List Nat), findCreationBlock endpoint (.string address) world session
        = (.ok block, (latest :: asked).foldl (afterCode endpoint address) (afterHeight endpoint session)) ∧
      (∀ block ∈ asked, block < latest) ∧ asked.length ≤ latest.size ∧
      block ≤ latest ∧ ¬ NoCode (code block) ∧ (block = 0 ∨ NoCode (code (block - 1))) := by
  have probes (block : Nat) (known : block ≤ latest) := hasCodeAt_run tells known
  have probed := probes latest (Nat.le_refl latest) (afterHeight endpoint session)
  rw [decide_eq_true filled] at probed
  obtain ⟨block, asked, run, below, few⟩ := searchRange_run
    (fun block (small : block < latest) => probes block (Nat.le_of_lt small)) (Nat.zero_le _)
    (Nat.lt_size_self latest) (afterCode endpoint address (afterHeight endpoint session) latest)
  obtain ⟨-, most, atEnd, start⟩ := searchRange_bounds (Nat.zero_le _) run
  refine ⟨block, asked, ?_, below, few, most, ?_, ?_⟩
  · rw [findCreationBlock, bind_of_ok (blockNumber_run tells session), bind_of_ok probed]
    exact run
  · rcases atEnd with rfl | told
    · exact filled
    · exact of_decide_eq_true (answer_of_told tells most told).symm
  · refine start.imp_right fun told => ?_
    have answer := answer_of_told tells (show block - 1 ≤ latest by omega) told
    exact Decidable.not_not.mp (of_decide_eq_false answer.symm)

end Search

/-- The number of a block is named in a message unless it has more than 4300 digits. -/
theorem namingBlock_eq (fault : Fault) (block : Nat) :
    Fault.namingBlock fault block
      = if block < 10 ^ Json.maxIntegerDigits then fault else .overlongNumber := by
  have overlong : Fault.isOverlong block = true ↔ ¬ block < 10 ^ Json.maxIntegerDigits := by
    rw [Nat.not_lt]
    exact decide_eq_true_iff
  by_cases short : block < 10 ^ Json.maxIntegerDigits
  · rw [Fault.namingBlock, if_neg (fun long => overlong.mp long short), if_pos short]
  · rw [Fault.namingBlock, if_pos (overlong.mpr short), if_neg short]

/-- Whatever the height and the codes are, the search asks for the height and then for the code at the
latest block. If there is none, it fails without another question, and names the block unless its
number is overlong. Else it asks for codes at blocks below, at most as often as the height has bits,
and returns a block that has code while the one before it has none. If code that is there once stays
there, this is the first block with code. -/
theorem creationBlock_of_history {world : World} {endpoint : Endpoint} {address : String} {latest : Nat}
    {code : Nat → Option String} (tells : TellsHistory world endpoint address latest code)
    (session : Session) :
    ∃ asked : List Nat,
      (findCreationBlock endpoint (.string address) world session).2
        = (latest :: asked).foldl (afterCode endpoint address) (afterHeight endpoint session) ∧
      (∀ block ∈ latest :: asked, block ≤ latest) ∧ (latest :: asked).length ≤ 1 + latest.size ∧
      (NoCode (code latest) → asked = [] ∧
        (findCreationBlock endpoint (.string address) world session).1
          = .error (if latest < 10 ^ Json.maxIntegerDigits
              then .strategy (.noCode (.string address) latest) else .overlongNumber)) ∧
      (¬ NoCode (code latest) → ∃ block ≤ latest,
        (findCreationBlock endpoint (.string address) world session).1 = .ok block ∧
        ¬ NoCode (code block) ∧ (block = 0 ∨ NoCode (code (block - 1))) ∧
        ∀ first ≤ latest, (∀ earlier < first, NoCode (code earlier)) →
          (∀ later, first ≤ later → later ≤ latest → ¬ NoCode (code later)) → block = first) := by
  by_cases empty : NoCode (code latest)
  · have run := findCreationBlock_of_noCode tells empty session
    rw [namingBlock_eq] at run
    refine ⟨[], by rw [run]; rfl, by simp, by simp, fun _ => ⟨rfl, by rw [run]⟩, ?_⟩
    exact fun filled => absurd empty filled
  · obtain ⟨block, asked, run, below, few, most, filled, start⟩ :=
      findCreationBlock_of_code tells empty session
    refine ⟨asked, by rw [run], ?_, ?_, fun none => absurd none empty, fun _ => ?_⟩
    · exact List.forall_mem_cons.mpr ⟨Nat.le_refl _, fun other member =>
        Nat.le_of_lt (below other member)⟩
    · rw [List.length_cons]
      omega
    · -- If there is a first block with code, the one that is found is neither before nor behind it.
      refine ⟨block, most, by rw [run], filled, start, fun first known before after => ?_⟩
      have least : first ≤ block := by
        by_contra early
        exact filled (before block (by omega))
      rcases start with ground | noneBefore
      · omega
      · by_contra other
        exact after (block - 1) (by omega) (by omega) noneBefore

/-! ### A node with any history -/

/-- Characters that stand in a JSON text as they are: no quotes, backslashes and control characters. -/
def ArePlain (cs : List Char) : Prop := ∀ c ∈ cs, c ≠ '"' ∧ c ≠ '\\' ∧ 0x20 ≤ c.toNat

instance (cs : List Char) : Decidable (ArePlain cs) :=
  decidable_of_iff (cs.all (fun c => c ≠ '"' && c ≠ '\\' && 0x20 ≤ c.toNat) = true)
    (by simp [ArePlain, and_assoc])

theorem arePlain_of_low {cs : List Char} (low : Base16.IsLow cs) : ArePlain cs := by
  intro c member
  have range := Base16.isLowDigit_cases (low c member)
  refine ⟨Base16.ne_of_low (low c member) (by decide), Base16.ne_of_low (low c member) (by decide), ?_⟩
  omega

theorem arePlain_ofInt (n : Nat) : ArePlain (Base16.ofInt n).toList := by
  have plain := arePlain_of_low (Base16.isLow_digits n)
  rw [Base16.toList_ofInt]
  exact List.forall_mem_cons.mpr ⟨by decide, List.forall_mem_cons.mpr ⟨by decide, plain⟩⟩

theorem readString_plain (opening rest : List Char) {cs : List Char} (plain : ArePlain cs) :
    Json.readString opening (cs ++ '"' :: rest) = .ok (cs.map .char, rest) := by
  induction cs with
  | nil => rw [List.nil_append, Json.readString, List.map_nil]
  | cons c others ih =>
    obtain ⟨⟨noQuote, noEscape, printable⟩, later⟩ := List.forall_mem_cons.mp plain
    rw [List.cons_append, Json.readString, if_neg (by omega), ih later]
    · rfl
    -- No other reading of a string starts with a plain character.
    · exact noQuote
    all_goals
      intros
      exact noEscape ‹_›

/-- The characters of an object whose only member is a text as the result. -/
def resultText (cs : List Char) : List Char :=
  '\x7b' :: '"' :: ("result".toList ++ '"' :: ':' :: '"' :: (cs ++ ['"', '\x7d']))

theorem readMembers_resultText {cs : List Char} (plain : ArePlain cs) (fuel room : Nat) :
    Json.readMembers (fuel + 2) room [] (resultText cs).tail
      = .ok ([("result", .string (String.ofList cs))], []) := by
  have plainName : ArePlain "result".toList := by decide
  have readName := readString_plain (resultText cs).tail (':' :: '"' :: (cs ++ ['"', '\x7d'])) plainName
  have readText : Json.readValue (fuel + 1) room ('"' :: (cs ++ ['"', '\x7d']))
      = .ok (.string (String.ofList cs), ['\x7d']) := by
    have chars := Json.ofPoints_chars (String.ofList cs)
    rw [String.toList_ofList] at chars
    rw [Json.readValue, readString_plain _ ['\x7d'] plain, ← chars]
    rfl
  rw [resultText, List.tail_cons] at readName ⊢
  have noGap (c : Char) (rest : List Char) (isText : c = ':' ∨ c = '"') :
      Json.skipGap (c :: rest) = c :: rest := by
    rcases isText with rfl | rfl <;> rfl
  simp only [Json.readMembers, readName, noGap, true_or, or_true, readText]
  rfl

theorem read_resultText {cs : List Char} (plain : ArePlain cs) :
    Json.read (String.ofList (resultText cs)) = .ok (.object [("result", .string (String.ofList cs))]) := by
  obtain ⟨fuel, enough⟩ : ∃ fuel, Json.enoughFuel (resultText cs) = fuel + 3 := ⟨_, rfl⟩
  have whole : Json.readValue (fuel + 3) Json.maxDepth (resultText cs)
      = .ok (.object [("result", .string (String.ofList cs))], []) := by
    change Except.map _ (Json.readMembers (fuel + 2) (Json.maxDepth - 1) [] (resultText cs).tail) = _
    rw [readMembers_resultText plain]
    rfl
  have noMark : (resultText cs).head? ≠ some '\uFEFF' := fun same =>
    absurd (Option.some.inj same) (by decide)
  have noGap : Json.skipGap (resultText cs) = resultText cs := rfl
  have all : Json.readAll (resultText cs) = .ok (.object [("result", .string (String.ofList cs))]) := by
    rw [Json.readAll, if_neg noMark, enough, noGap, whole]
    rfl
  rw [Json.read, String.toList_ofList, all]

namespace HistoryNode

/-- The answer of a node that tells this result. -/
def told : Option String → HttpReply
  | none => .answered 200 "OK" "\x7b\"result\":null\x7d"
  | some text => .answered 200 "OK" (String.ofList (resultText text.toList))

/-- A question with an address and a block is one for a code, any other one is for the height. -/
def network (latest : Nat) (code : Nat → Option String) : Network := fun _ request =>
  match request.body with
  | some (.object [_, _, (_, .array [_, .string block]), _]) =>
    told ((Base16.readInt? block).bind fun number => code number.toNat)
  | _ => told (some (Base16.ofInt latest))

def world (latest : Nat) (code : Nat → Option String) : World :=
  ⟨network latest code, [], fun _ => .notFound, []⟩

theorem resultOf_told (method : Json) {result : Option String}
    (plain : ∀ text, result = some text → ArePlain text.toList) :
    (Rpc.bodyOf method (told result)).bind (Rpc.resultOf method) = .ok (result.elim .null .string) := by
  cases result with
  | none =>
    have read : Json.read "\x7b\"result\":null\x7d" = .ok (.object [("result", .null)]) :=
      Outcome.eq_ok_of_toOption (by decide +kernel)
    rw [told, Rpc.bodyOf, if_neg (not_not_intro rfl), read]
    rfl
  | some text =>
    rw [told, Rpc.bodyOf, if_neg (not_not_intro rfl), read_resultText (plain text rfl),
      String.ofList_toList]
    rfl

theorem network_height (latest : Nat) (code : Nat → Option String) (before : List HttpRequest)
    (endpoint : Endpoint) (number : Nat) :
    (world latest code).network before (Rpc.requestOf endpoint (.string "eth_blockNumber") (.array [])
      defaultTimeout number) = told (some (Base16.ofInt latest)) := rfl

theorem network_code (latest : Nat) (code : Nat → Option String) (before : List HttpRequest)
    (endpoint : Endpoint) (address text : String) (number : Nat) :
    (world latest code).network before (Rpc.requestOf endpoint (.string "eth_getCode")
      (.array [.string address, .string text]) defaultTimeout number)
        = told ((Base16.readInt? text).bind fun number => code number.toNat) := rfl

/-- There is a node for every height and all codes that are plain texts. -/
theorem tellsHistory {latest : Nat} {code : Nat → Option String}
    (plain : ∀ block text, code block = some text → ArePlain text.toList) (endpoint : Endpoint)
    (address : String) : TellsHistory (world latest code) endpoint address latest code := by
  constructor
  · intro session
    have plainHeight : ∀ text, some (Base16.ofInt latest) = some text → ArePlain text.toList := by
      rintro _ ⟨⟩
      exact arePlain_ofInt latest
    refine ⟨Base16.ofInt latest, ?_, Base16.readInt?_ofInt latest⟩
    rw [Rpc.call_run, network_height, resultOf_told _ plainHeight]
    rfl
  · intro block known session
    have answer : (Base16.readInt? (Base16.ofInt block)).bind (fun number => code number.toNat)
        = code block := by rw [Base16.readInt?_ofInt, Option.bind_some, Int.toNat_natCast]
    rw [Rpc.call_run, network_code, answer, resultOf_told _ (plain block)]

end HistoryNode

/-- A contract that was created twice before height five is found at its first creation. -/
theorem creationBlock_of_history_created_twice :
    let code (block : Nat) : Option String :=
      if block = 2 ∨ block = 5 then some "0x60" else if block = 3 then none else some "0X"
    TellsHistory (HistoryNode.world 5 code) .null "0xab" 5 code ∧ ¬ NoCode (code 5) ∧
    ∀ session, ∃ block ≤ 5,
      (findCreationBlock .null (.string "0xab") (HistoryNode.world 5 code) session).1 = .ok block ∧
      ¬ NoCode (code block) ∧ (block = 0 ∨ NoCode (code (block - 1))) := by
  intro code
  have plain : ∀ block text, code block = some text → ArePlain text.toList := by
    intro block text told
    have isText : text = "0x60" ∨ text = "0X" := by grind
    rcases isText with rfl | rfl
    · decide
    · decide
  have tells : TellsHistory (HistoryNode.world 5 code) .null "0xab" 5 code :=
    HistoryNode.tellsHistory plain .null "0xab"
  have filled : ¬ NoCode (code 5) := by decide
  refine ⟨tells, filled, fun session => ?_⟩
  obtain ⟨asked, -, -, -, -, found⟩ := creationBlock_of_history tells session
  obtain ⟨block, known, returned, here, before, -⟩ := found filled
  exact ⟨block, known, returned, here, before⟩

/-- At a height of 4301 digits without code, the search fails with the fault of an overlong number. -/
theorem overlong_height_unnamed :
    let latest := 10 ^ Json.maxIntegerDigits
    TellsHistory (HistoryNode.world latest fun _ => some "0x") .null "0xab" latest (fun _ => some "0x") ∧
    ∀ session,
      (findCreationBlock .null (.string "0xab") (HistoryNode.world latest fun _ => some "0x") session).1
        = .error .overlongNumber ∧ Fault.overlongNumber.kind ≠ .strategy := by
  intro latest
  have tells : TellsHistory (HistoryNode.world latest fun _ => some "0x") .null "0xab" latest
      (fun _ => some "0x") := by
    refine HistoryNode.tellsHistory ?_ .null "0xab"
    rintro block _ ⟨⟩
    decide
  refine ⟨tells, fun session => ⟨?_, by decide⟩⟩
  rw [findCreationBlock_of_noCode tells (.inr (.inl rfl)), namingBlock_eq, if_neg (Nat.lt_irrefl _)]

end SourceAttest
