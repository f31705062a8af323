import SourceAttest.Proofs.Bytecode.Grammar
import SourceAttest.Proofs.Comparison.Grounds
import SourceAttest.Proofs.Comparison.Trailers

/-!
# Comparing with a program without code

Interfaces and abstract contracts are compiled to no code at all. Such a program matches a deployed code
only if that is nothing but a trailer, and then partly, since no code is left on either side once the
trailers are gone. This is `compareBytecodes_of_empty_runtime`.
-/
namespace SourceAttest

open Base16 (IsLow)
open Bytecode (TrailerText)

namespace Bytecode

/-- There is a trailer, and nothing stands before it. -/
def IsOnlyTrailer (code : String) : Prop :=
  ∃ entries, trailer? (digits code.toList) = some ⟨0, entries⟩

theorem trim_empty : trim "0x" = "0x" := by decide +kernel

theorem not_isOnlyTrailer_empty : ¬ IsOnlyTrailer "0x" := by
  rintro ⟨entries, apart⟩
  cases apart

theorem digits_of_marked {code : String} {rest : List Char}
    (starts : code.toList = '0' :: 'x' :: rest) : digits code.toList = rest := by
  rw [starts]
  rfl

/-- Trimming keeps the marker. -/
theorem toList_trim_of_marked {code : String} {rest : List Char}
    (starts : code.toList = '0' :: 'x' :: rest) :
    (trim code).toList = '0' :: 'x' :: match trailer? rest with
      | none => rest
      | some trailer => rest.take trailer.start := by
  have marked : marker code.toList = ['0', 'x'] := by
    rw [starts]
    rfl
  rw [trim, digits_of_marked starts, marked]
  cases trailer? rest with
  | none => exact starts
  | some trailer => exact String.toList_ofList

/-- Besides the code that is empty already, only a trailer is trimmed away completely. -/
theorem trim_eq_empty_iff {code : String} {rest : List Char}
    (starts : code.toList = '0' :: 'x' :: rest) (present : code ≠ "0x") :
    trim code = "0x" ↔ IsOnlyTrailer code := by
  have filled : rest ≠ [] := by
    rintro rfl
    exact present (String.toList_inj.mp starts)
  have trimmed : trim code = "0x" ↔ (trim code).toList = ['0', 'x'] := String.toList_inj.symm
  rw [trimmed, toList_trim_of_marked starts, IsOnlyTrailer, digits_of_marked starts,
    List.cons_inj_right, List.cons_inj_right]
  cases trailer? rest with
  | none => simp [filled]
  | some trailer =>
    obtain ⟨start, entries⟩ := trailer
    simp [filled]

/-- In low digits a code is only a trailer if its digits are those of a well-formed one. -/
theorem isOnlyTrailer_iff_text {text : String} (low : IsLow text.toList) :
    IsOnlyTrailer ("0x" ++ text) ↔ ∃ trailer : TrailerText, text = trailer.text := by
  have plain : digits ("0x" ++ text).toList = text.toList :=
    (digits_and_marker_of_hex (.inr rfl) (hex_of_low low)).1
  rw [IsOnlyTrailer, plain]
  constructor
  · rintro ⟨entries, apart⟩
    obtain ⟨code, trailer, written, found⟩ := (trailer?_eq_some_iff low).mp apart
    -- The trailer starts where the code ends, which is at once.
    have nothing : code = [] := List.eq_nil_of_length_eq_zero (congrArg Trailer.start found).symm
    refine ⟨trailer, String.toList_inj.mp ?_⟩
    rw [written, nothing, trailer.toList_text, List.nil_append]
  · rintro ⟨trailer, rfl⟩
    refine ⟨trailer.entries, (trailer?_eq_some_iff low).mpr ⟨[], trailer, ?_, rfl⟩⟩
    rw [trailer.toList_text, List.nil_append]

end Bytecode

/-- A code matches no code partly if nothing is left of it without its trailer, and not at all
otherwise. -/
theorem compareRuntime_of_empty {code : String} {rest : List Char}
    (starts : code.toList = '0' :: 'x' :: rest) (present : code ≠ "0x") :
    compareRuntime code (some "0x")
      = .ok (some (if Bytecode.trim code = "0x" then .partly else .noMatch)) := by
  rcases compareRuntime_cases code "0x" with
    ⟨same, -⟩ | ⟨-, same, byCodes⟩ | ⟨different, -, byCodes⟩ | ⟨different, sizes, -⟩
  · exact absurd same present
  · rw [Bytecode.trim_empty] at same
    rw [byCodes, if_pos same]
  · rw [Bytecode.trim_empty] at different
    rw [byCodes, if_neg different]
  · -- Both trimmed codes have a marker, so equally long ones are the same.
    rw [Bytecode.trim_empty] at different sizes
    have trimmed := Bytecode.toList_trim_of_marked starts
    rw [← String.length_toList, trimmed] at sizes
    have nothing := List.eq_nil_of_length_eq_zero (Nat.succ.inj (Nat.succ.inj sizes))
    rw [nothing] at trimmed
    exact absurd (String.toList_inj.mp trimmed) different

/-- A program without code matches nothing, except for a deployed code that is only a trailer, which it
matches partly. Creation data are neither used nor looked up. In low digits a code is only a trailer if
its digits are those of a well-formed one. -/
theorem compareBytecodes_of_empty_runtime {runtime : String} (empty : Bytecode.normalize runtime = "0x")
    (deployed known creation : Option String) (fetch : Action (Option String)) :
    (∀ code, deployed = some code → Bytecode.IsOnlyTrailer (Bytecode.normalize code) →
      compareBytecodes deployed known (some runtime) creation fetch = pure .partly) ∧
    ((∀ code, deployed = some code → ¬ Bytecode.IsOnlyTrailer (Bytecode.normalize code)) →
      compareBytecodes deployed known (some runtime) creation fetch = pure .noMatch) ∧
    ∀ text : String, IsLow text.toList →
      (Bytecode.IsOnlyTrailer ("0x" ++ text) ↔ ∃ trailer : TrailerText, text = trailer.text) := by
  refine ⟨?_, ?_, fun text low => Bytecode.isOnlyTrailer_iff_text low⟩
  · rintro code rfl only
    obtain ⟨rest, starts, -⟩ := Bytecode.toList_normalize code
    have present : Bytecode.normalize code ≠ "0x" := by
      intro nothing
      exact Bytecode.not_isOnlyTrailer_empty (nothing ▸ only)
    have trimmed := (Bytecode.trim_eq_empty_iff starts present).mpr only
    apply compareBytecodes_of_decided
    · exact present
    · rw [empty, compareRuntime_of_empty starts present, if_pos trimmed]
  · intro other
    cases deployed with
    | none => rfl
    | some code =>
      -- Two codes that are both empty are no match either.
      by_cases absent : Bytecode.normalize code = "0x"
      · simp only [compareBytecodes, Option.map_some, if_pos absent]
      obtain ⟨rest, starts, -⟩ := Bytecode.toList_normalize code
      have trimmed : Bytecode.trim (Bytecode.normalize code) ≠ "0x" := by
        intro nothing
        exact other code rfl ((Bytecode.trim_eq_empty_iff starts absent).mp nothing)
      apply compareBytecodes_of_decided
      · exact absent
      · rw [empty, compareRuntime_of_empty starts absent, if_neg trimmed]

/-- A deployed code of one byte in front of its trailer, and an interface in capitals. -/
theorem compareBytecodes_of_empty_runtime_of_one_byte :
    Bytecode.normalize "0X" = "0x" ∧ ¬ Bytecode.IsOnlyTrailer (Bytecode.normalize "0x00A00001") ∧
    compareBytecodes (some "0x00A00001") (some "0x") (some "0X") (some "0x") (Action.fail .nullInPath)
      = pure .noMatch := by
  have empty : Bytecode.normalize "0X" = "0x" := by decide +kernel
  have normal : Bytecode.normalize "0x00A00001" = "0x00a00001" := by decide +kernel
  have other : ¬ Bytecode.IsOnlyTrailer (Bytecode.normalize "0x00A00001") := by
    have starts : "0x00a00001".toList = '0' :: 'x' :: "00a00001".toList := rfl
    rw [normal, ← Bytecode.trim_eq_empty_iff starts (by decide)]
    decide +kernel
  obtain ⟨-, nothing, -⟩ := compareBytecodes_of_empty_runtime empty (some "0x00A00001") (some "0x")
    (some "0x") (Action.fail .nullInPath)
  exact ⟨empty, other, nothing fun code same => Option.some.inj same ▸ other⟩

/-- A deployed code that is nothing but a trailer is matched by a program without code. -/
theorem empty_runtime_matches_trailer :
    Bytecode.normalize "0x" = "0x" ∧
    ∀ fetch, compareBytecodes (some "0xa00001") none (some "0x") (some "0x") fetch = pure .partly := by
  have empty : Bytecode.normalize "0x" = "0x" := by decide +kernel
  have present : Bytecode.normalize "0xa00001" = "0xa00001" := by decide +kernel
  have trimmed : Bytecode.trim "0xa00001" = "0x" := by decide +kernel
  have starts : "0xa00001".toList = '0' :: 'x' :: "a00001".toList := rfl
  refine ⟨empty, fun fetch => ?_⟩
  apply compareBytecodes_of_decided
  · rw [present]
    decide
  · rw [present, empty, compareRuntime_of_empty starts (by decide), if_pos trimmed]

end SourceAttest
