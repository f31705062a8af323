import SourceAttest.CreationData.BlockSearch
import SourceAttest.Proofs.Network.Rpc

/-!
# Finding the block of a creation

An archive node whose answers depend on nothing but the question is asked for the code at an address,
block by block. The search ends at a block that has code while the one before it has none, and it
finds the first block with code if there is code from then on.

## Proof strategy

Halving a range keeps a success at its upper end and a failure right below its lower end. Both facts
are proved along the recursion of `searchRange`, for any probe.
-/
namespace SourceAttest

open SourceAttest.Action

/-! ### Nodes with fixed answers -/

/-- What a node answers to a method with its parameters. -/
abbrev NodeAnswers := Json → Json → Except Fault Json

namespace NodeAnswers

variable (answers : NodeAnswers)

/-- The node at an endpoint always answers like this, whatever it was asked before. -/
def AreOf (endpoint : Endpoint) (world : World) : Prop :=
  ∀ method params session,
    (Rpc.call endpoint method params defaultTimeout world session).1 = answers method params

def IsHeight (height : Nat) : Prop :=
  ∃ text, answers (.string "eth_blockNumber") (.array []) = .ok (.string text) ∧
    Base16.readInt? text = some (height : Int)

def code (address : String) (block : Nat) : Except Fault String :=
  (answers (.string "eth_getCode")
    (.array [.string address, .string (Base16.ofInt block)])).bind Rpc.codeIn

def HasCode (address : String) (block : Nat) : Prop :=
  ∃ code, answers.code address block = .ok code ∧ code ≠ "0x"

def HasNoCode (address : String) (block : Nat) : Prop := answers.code address block = .ok "0x"

end NodeAnswers

/-! ### Halving a range -/

variable {world : World} {session final : Session}

/-- In some session the probe has answered like this. -/
def Told (world : World) (probe : Nat → Action Bool) (block : Nat) (answer : Bool) : Prop :=
  ∃ before after, probe block world before = (.ok answer, after)

/-- The search ends where a probe succeeds, unless that is the upper end, and fails right before. -/
theorem searchRange_bounds {probe : Nat → Action Bool} {low high block : Nat} (ordered : low ≤ high)
    (returned : searchRange probe low high world session = (.ok block, final)) :
    low ≤ block ∧ block ≤ high ∧ (block = high ∨ Told world probe block true) ∧
      (block = low ∨ Told world probe (block - 1) false) := by
  revert session
  -- The induction follows the halving: one end of the range moves to the middle.
  induction low, high using searchRange.induct with
  | case1 low high more mid lower upper =>
    intro session returned
    have middle : low ≤ mid ∧ mid < high := by omega
    rw [searchRange, if_pos more] at returned
    obtain ⟨found, _, probed, returned⟩ := bind_eq_ok.mp returned
    cases found with
    | true =>
      obtain ⟨least, most, atEnd, before⟩ := lower middle.1 returned
      refine ⟨least, by omega, .inr ?_, before⟩
      rcases atEnd with rfl | told
      · exact ⟨_, _, probed⟩
      · exact told
    | false =>
      obtain ⟨least, most, atEnd, before⟩ := upper middle.2 returned
      refine ⟨by omega, most, atEnd, .inr ?_⟩
      rcases before with rfl | told
      · exact ⟨_, _, probed⟩
      · exact told
  | case2 low high done =>
    intro session returned
    rw [searchRange, if_neg done] at returned
    obtain ⟨rfl, -⟩ := pure_eq_ok.mp returned
    exact ⟨Nat.le_refl _, ordered, .inl (by omega), .inl rfl⟩

/-- Where probes succeed from a block on and fail before it, the search ends at that block. -/
theorem gives_searchRange {probe : Nat → Action Bool} {low high block : Nat}
    (least : low ≤ block) (most : block ≤ high)
    (probes : ∀ asked, asked < high → (probe asked).Gives world (.ok (decide (block ≤ asked)))) :
    (searchRange probe low high).Gives world (.ok block) := by
  induction low, high using searchRange.induct with
  | case1 low high more mid lower upper =>
    have middle : low ≤ mid ∧ mid < high := by omega
    rw [searchRange, if_pos more]
    refine (probes mid middle.2).bind ?_
    by_cases later : block ≤ mid
    · rw [decide_eq_true later, if_pos rfl]
      exact lower least later fun asked small => probes asked (by omega)
    · rw [decide_eq_false later, if_neg Bool.false_ne_true]
      exact upper (by omega) most probes
  | case2 low high done =>
    rw [searchRange, if_neg done, Nat.le_antisymm (by omega) least]
    exact .pure _

/-! ### Questions to a node -/

section Node

variable {answers : NodeAnswers} {endpoint : Endpoint} {address : String} {block latest : Nat}
variable (fixed : answers.AreOf endpoint world)

include fixed

theorem gives_call (method params : Json) :
    (Rpc.call endpoint method params defaultTimeout).Gives world (answers method params) :=
  ⟨fixed method params⟩

theorem gives_codeAt (address : String) (block : Nat) :
    (Rpc.codeAt endpoint (.string address) (.int block)).Gives world (answers.code address block) := by
  constructor
  intro session
  rw [Rpc.codeAt_run, fixed]
  rfl

theorem gives_hasCodeAt {code : String} (told : answers.code address block = .ok code) :
    (hasCodeAt endpoint (.string address) block).Gives world (.ok (decide (code ≠ "0x"))) := by
  have asked := gives_codeAt fixed address block
  rw [told] at asked
  exact asked.bind (.pure _)

theorem hasCode_of_told
    (told : Told world (fun block => hasCodeAt endpoint (.string address) block) block true) :
    answers.HasCode address block := by
  obtain ⟨before, after, returned⟩ := told
  obtain ⟨code, _, asked, returned⟩ := bind_eq_ok.mp returned
  refine ⟨code, ?_, of_decide_eq_true (pure_eq_ok.mp returned).1⟩
  rw [← (gives_codeAt fixed address block).same before, asked]

theorem hasNoCode_of_told
    (told : Told world (fun block => hasCodeAt endpoint (.string address) block) block false) :
    answers.HasNoCode address block := by
  obtain ⟨before, after, returned⟩ := told
  obtain ⟨code, _, asked, returned⟩ := bind_eq_ok.mp returned
  have empty : code = "0x" := by simpa using (pure_eq_ok.mp returned).1
  rw [NodeAnswers.HasNoCode, ← (gives_codeAt fixed address block).same before, asked, empty]

theorem gives_blockNumber (height : answers.IsHeight latest) :
    (Rpc.blockNumber endpoint).Gives world (.ok (latest : Int)) := by
  obtain ⟨text, told, isNumber⟩ := height
  have asked := gives_call fixed (.string "eth_blockNumber") (.array [])
  rw [told] at asked
  refine asked.bind ?_
  dsimp only
  rw [isNumber]
  exact .pure _

/-- A height below which there is no code, and from which on there is, is where the search ends. -/
theorem gives_findCreationBlock (height : answers.IsHeight latest) (known : block ≤ latest)
    (none : ∀ lower, lower < block → answers.HasNoCode address lower)
    (some : ∀ higher, block ≤ higher → higher ≤ latest → answers.HasCode address higher) :
    (findCreationBlock endpoint (.string address)).Gives world (.ok block) := by
  have probes (asked : Nat) (small : asked ≤ latest) :
      (hasCodeAt endpoint (.string address) asked).Gives world (.ok (decide (block ≤ asked))) := by
    by_cases later : block ≤ asked
    · obtain ⟨code, told, filled⟩ := some asked later small
      have gives := gives_hasCodeAt fixed told
      rwa [decide_eq_true filled, ← decide_eq_true later] at gives
    · have gives := gives_hasCodeAt fixed (none asked (by omega))
      rwa [decide_eq_false (not_not_intro rfl), ← decide_eq_false later] at gives
  have atLatest := probes latest (Nat.le_refl _)
  rw [decide_eq_true known] at atLatest
  refine (gives_blockNumber fixed height).bind (atLatest.bind ?_)
  exact gives_searchRange (Nat.zero_le _) known fun asked small => probes asked (by omega)

/-- The block that is found has code, and the one before it has none. -/
theorem findCreationBlock_eq_ok (height : answers.IsHeight latest)
    (returned : findCreationBlock endpoint (.string address) world session = (.ok block, final)) :
    block ≤ latest ∧ answers.HasCode address block ∧
      (block = 0 ∨ answers.HasNoCode address (block - 1)) := by
  obtain ⟨number, _, told, returned⟩ := bind_eq_ok.mp returned
  have same := (gives_blockNumber fixed height).same session
  rw [told] at same
  cases same
  obtain ⟨found, before, probed, returned⟩ := bind_eq_ok.mp returned
  cases found with
  | false => cases returned
  | true =>
    obtain ⟨-, most, atEnd, start⟩ := searchRange_bounds (Nat.zero_le _) returned
    refine ⟨most, ?_, start.imp_right fun told => hasNoCode_of_told fixed told⟩
    rcases atEnd with rfl | told
    -- The latest block has been probed before the search.
    · exact hasCode_of_told fixed ⟨_, _, probed⟩
    · exact hasCode_of_told fixed told

end Node

end SourceAttest
