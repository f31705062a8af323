import Mathlib.Logic.Function.Iterate
import SourceAttest.Proofs.Bytecode.Grammar

/-!
# Trimming more than once

Trimming takes away one trailer. What is left may end in another one: a code that creates contracts can
hold the code of such a contract, with its trailer, right before its own trailer. So trimming a second
time can change a code once more. The main results are `iterate_trim`, which says what is left after any
number of times, and `trim_again_eq_iff`, which says when a second time changes nothing.
-/
namespace SourceAttest.Bytecode

open Base16 (IsLow)

/-- The text of trailers one behind the other, the outermost one last. -/
def layers (trailers : List TrailerText) : String :=
  String.ofList (trailers.flatMap TrailerText.digits)

theorem layers_nil : layers [] = "" := rfl

theorem layers_concat (trailers : List TrailerText) (last : TrailerText) :
    layers (trailers ++ [last]) = layers trailers ++ last.text := by
  rw [layers, List.flatMap_append, List.flatMap_singleton, String.ofList_append]
  rfl

theorem isLow_layers (trailers : List TrailerText) : IsLow (layers trailers).toList := by
  intro c member
  rw [layers, String.toList_ofList] at member
  obtain ⟨trailer, -, inTrailer⟩ := List.mem_flatMap.mp member
  exact trailer.isLow c inTrailer

/-- A code in low digits is a core without a trailer, and trailers behind it. -/
theorem exists_layers {code : String} (low : IsLow code.toList) :
    ∃ (core : String) (trailers : List TrailerText),
      code = core ++ layers trailers ∧ trailer? core.toList = none := by
  -- By induction on the length, since a code without its last trailer is shorter.
  induction size : code.length using Nat.strongRecOn generalizing code with
  | ind n ih =>
    cases apart : trailer? code.toList with
    | none => exact ⟨code, [], by rw [layers_nil, String.append_empty], apart⟩
    | some found =>
      obtain ⟨body, last, written⟩ := eq_append_of_trailer? low apart
      have whole : code = String.ofList body ++ last.text := by
        apply String.toList_inj.mp
        rw [written, String.toList_append, last.toList_text, String.toList_ofList]
      have shorter : (String.ofList body).length < n := by
        rw [← size, whole, String.length_append, last.length_text]
        omega
      have lowBody : IsLow (String.ofList body).toList := low_of_append (whole ▸ low)
      obtain ⟨core, trailers, layered, bare⟩ := ih _ shorter lowBody rfl
      refine ⟨core, trailers ++ [last], ?_, bare⟩
      rw [whole, layered, layers_concat, String.append_assoc]

section Marked

variable {pre : String} (mark : pre = "" ∨ pre = "0x")

include mark

/-- Trimming `n` times takes the last `n` trailers away, and all of them if there are no more. -/
theorem iterate_trim {core : String} (low : IsLow core.toList) (bare : trailer? core.toList = none)
    (trailers : List TrailerText) (n : Nat) :
    trim^[n] (pre ++ (core ++ layers trailers))
      = pre ++ (core ++ layers (trailers.take (trailers.length - n))) := by
  -- By induction on the number of times; the first time leaves one trailer less for the others.
  induction n generalizing trailers with
  | zero => rw [Function.iterate_zero_apply, Nat.sub_zero, List.take_length]
  | succ n ih =>
    rw [Function.iterate_succ_apply]
    rcases trailers.eq_nil_or_concat' with rfl | ⟨before, last, rfl⟩
    · -- Nothing is left to be taken away.
      have same : trim (pre ++ (core ++ layers [])) = pre ++ (core ++ layers []) := by
        rw [layers_nil, String.append_empty, trim_of_hex mark (hex_of_low low), bare]
      rw [same, ih, List.take_nil, List.take_nil]
    · have lowBefore : IsLow (core ++ layers before).toList := by
        rw [String.toList_append]
        exact low.append (isLow_layers before)
      have once : trim (pre ++ (core ++ layers before ++ last.text)) = pre ++ (core ++ layers before) :=
        (auxdata_and_trim_of_hex mark (hex_of_low lowBefore) last).2
      have fewer : (before ++ [last]).length - (n + 1) = before.length - n := by
        rw [List.length_append, List.length_singleton]
        omega
      have grouped : core ++ (layers before ++ last.text) = core ++ layers before ++ last.text :=
        String.append_assoc.symm
      rw [layers_concat, grouped, once, ih, fewer, List.take_append_of_le_length (Nat.sub_le ..)]

end Marked

/-- Trimming again changes nothing, unless a code in low digits ends in two trailers one behind the
other. In general a code is a core without a trailer, and trailers behind it; each time one of these is
taken away, from the end, until only the core is left. -/
theorem trim_again_eq_iff {pre code : String} (mark : pre = "" ∨ pre = "0x") (low : IsLow code.toList) :
    (trim (trim (pre ++ code)) = trim (pre ++ code) ↔
      ¬ ∃ (body : String) (first second : TrailerText), code = body ++ first.text ++ second.text) ∧
    ∃ (core : String) (trailers : List TrailerText),
      code = core ++ layers trailers ∧ auxdata? (pre ++ core) = none ∧
      ∀ n, trim^[n] (pre ++ code)
        = pre ++ (core ++ layers (trailers.take (trailers.length - n))) := by
  obtain ⟨core, trailers, rfl, bare⟩ := exists_layers low
  have lowCore : IsLow core.toList := low_of_append low
  have times := iterate_trim mark lowCore bare trailers
  refine ⟨⟨?_, ?_⟩, core, trailers, rfl, ?_, times⟩
  · rintro same ⟨body, first, second, twice⟩
    -- The second time would take away the inner trailer, which is not empty.
    have lowInner : IsLow (body ++ first.text).toList := low_of_append (twice ▸ low)
    have lowBody : IsLow body.toList := low_of_append lowInner
    rw [twice, (auxdata_and_trim_of_hex mark (hex_of_low lowInner) second).2,
      (auxdata_and_trim_of_hex mark (hex_of_low lowBody) first).2] at same
    have sizes := congrArg String.length same
    simp only [String.length_append] at sizes
    have filled := first.length_text
    omega
  · intro single
    have few : trailers.length ≤ 1 := by
      by_contra many
      rcases trailers.eq_nil_or_concat' with rfl | ⟨inner, second, rfl⟩
      · exact many (Nat.zero_le 1)
      rcases inner.eq_nil_or_concat' with rfl | ⟨before, first, rfl⟩
      · exact many (Nat.le_refl 1)
      · refine single ⟨core ++ layers before, first, second, ?_⟩
        rw [layers_concat, layers_concat, String.append_assoc, String.append_assoc,
          String.append_assoc]
    -- The only trailer is gone after the first time.
    have once := times 1
    have twice := times 2
    rw [Function.iterate_one, Nat.sub_eq_zero_of_le few] at once
    rw [Function.iterate_succ_apply, Function.iterate_one,
      Nat.sub_eq_zero_of_le (Nat.le_succ_of_le few)] at twice
    exact twice.trans once.symm
  · rw [auxdata?_of_hex mark (hex_of_low lowCore), bare]
    rfl

/-- A number in a map right before the trailer of a code without a marker. -/
theorem trim_again_eq_iff_of_inner_number :
    IsLow "6080a100010003a00001".toList ∧
    trim (trim "6080a100010003a00001") ≠ trim "6080a100010003a00001" := by
  let inner : TrailerText := ⟨[0xa1, 0, 1], [(.int 0, .int 1)], by with_unfolding_all rfl, by decide⟩
  let outer : TrailerText := ⟨[0xa0], [], by with_unfolding_all rfl, by decide⟩
  have low : IsLow "6080a100010003a00001".toList := by decide
  have twice : "6080a100010003a00001" = "6080" ++ inner.text ++ outer.text := by decide
  obtain ⟨again, -⟩ := trim_again_eq_iff (.inl rfl) low
  rw [String.empty_append] at again
  refine ⟨low, fun same => ?_⟩
  exact again.mp same ⟨"6080", inner, outer, twice⟩

/-- A trimmed code can end in a trailer, and is trimmed once more. -/
theorem trim_of_trimmed :
    IsLow "6080a00001a00001".toList ∧
    trim "0x6080a00001a00001" = "0x6080a00001" ∧ trim "0x6080a00001" = "0x6080" ∧
    trim (trim "0x6080a00001a00001") ≠ trim "0x6080a00001a00001" := by
  have outer : trim "0x6080a00001a00001" = "0x6080a00001" := by decide +kernel
  have inner : trim "0x6080a00001" = "0x6080" := by decide +kernel
  refine ⟨by decide, outer, inner, ?_⟩
  rw [outer, inner]
  decide

end SourceAttest.Bytecode
