import SourceAttest.Comparison
import SourceAttest.Proofs.Bytecode.Trailer

/-!
# Comparing codes that carry trailers

Two codes that end in well-formed trailers are compared by what stands before the trailers, and
then by the trailers. The main result is `compareBytecodes_of_trailers`: the same code matches,
exactly if the trailers agree too, code of another size does not, and creation data are never
looked up for that.
-/
namespace SourceAttest

open Base16 (IsLow)
open Bytecode (TrailerText)

/-- Digits as a code with a marker. -/
private def marked (digits : List Char) : String := String.ofList ('0' :: 'x' :: digits)

private theorem marked_inj {digits others : List Char} (same : marked digits = marked others) :
    digits = others := by
  have lists := String.ofList_inj.mp same
  exact (List.cons.inj (List.cons.inj lists).2).2

/-- When the codes alone decide, the verdict is theirs and nothing else is done. -/
theorem compareBytecodes_of_decided {deployed runtime : String} {verdict : Verdict}
    (creationData creation : Option String) (fetch : Action (Option String))
    (present : Bytecode.normalize deployed ≠ "0x")
    (decided : compareRuntime (Bytecode.normalize deployed) (some (Bytecode.normalize runtime))
      = .ok (some verdict)) :
    compareBytecodes (some deployed) creationData (some runtime) creation fetch = pure verdict := by
  simp only [compareBytecodes, Option.map_some, if_neg present, decided]
  rfl

theorem compareRuntime_of_trailers (code other : List Char) (first second : TrailerText) :
    compareRuntime (marked (code ++ first.digits)) (some (marked (other ++ second.digits))) =
      .ok (if code = other then some (if first.digits = second.digits then .exact else .partly)
        else if code.length = other.length then none else some .noMatch) := by
  have trimmedFirst : Bytecode.trim (marked (code ++ first.digits)) = marked code :=
    (Bytecode.auxdata_and_trim_marked code first).2
  have trimmedSecond : Bytecode.trim (marked (other ++ second.digits)) = marked other :=
    (Bytecode.auxdata_and_trim_marked other second).2
  by_cases sameCode : code = other
  · subst sameCode
    by_cases sameTrailer : first.digits = second.digits
    -- The whole codes agree.
    · rw [compareRuntime, sameTrailer, if_pos rfl, if_pos rfl, if_pos rfl]
    · have different : some (marked (code ++ second.digits)) ≠ some (marked (code ++ first.digits)) :=
        fun same => sameTrailer
          (Bytecode.append_digits_inj (marked_inj (Option.some.inj same))).2.symm
      rw [compareRuntime, if_neg different, if_pos rfl, if_neg sameTrailer]
      simp only [trimmedFirst, trimmedSecond, if_true]
  · have different : some (marked (other ++ second.digits)) ≠ some (marked (code ++ first.digits)) :=
      fun same => sameCode (Bytecode.append_digits_inj (marked_inj (Option.some.inj same))).1.symm
    -- Different codes stay different when they are trimmed, and keep their sizes.
    have differentTrimmed : marked code ≠ marked other := fun same => sameCode (marked_inj same)
    have sizes : (marked code).length = (marked other).length ↔ code.length = other.length := by
      simp [marked]
    rw [compareRuntime, if_neg different, if_neg sameCode]
    simp only [trimmedFirst, trimmedSecond, if_neg differentTrimmed, ne_eq, sizes, ite_not]
    split_ifs <;> rfl

private theorem normalize_code (code : String) (low : IsLow code.toList) (trailer : TrailerText) :
    Bytecode.normalize ("0x" ++ code ++ trailer.text) = marked (code.toList ++ trailer.digits) ∧
    marked (code.toList ++ trailer.digits) ≠ "0x" := by
  have written : "0x" ++ code ++ trailer.text = marked (code.toList ++ trailer.digits) :=
    String.toList_inj.mp (by simp [marked, TrailerText.text])
  have filled := trailer.length_digits
  constructor
  · rw [written]
    exact Bytecode.normalize_marked (low.append trailer.isLow)
  · intro empty
    have digits := marked_inj (show marked _ = marked [] from empty)
    have size := congrArg List.length digits
    rw [List.length_append, List.length_nil] at size
    omega

/-- Comparing looks through the trailers. Codes that agree before their trailers match: exactly if
the trailers agree too, else partly. Codes whose sizes differ before their trailers do not match.
In neither case are creation data used or looked up, whatever they are. -/
theorem compareBytecodes_of_trailers (code : String) (low : IsLow code.toList)
    (first second : TrailerText) (compiledCreation : String) (creationData : Option String)
    (fetch : Action (Option String)) :
    compareBytecodes (some ("0x" ++ code ++ first.text)) creationData
        (some ("0x" ++ code ++ second.text)) (some compiledCreation) fetch
      = pure (if first.text = second.text then Verdict.exact else Verdict.partly) ∧
    ∀ other : String, IsLow other.toList → other.length ≠ code.length →
      compareBytecodes (some ("0x" ++ code ++ first.text)) creationData
          (some ("0x" ++ other ++ second.text)) (some compiledCreation) fetch
        = pure Verdict.noMatch := by
  obtain ⟨deployed, present⟩ := normalize_code code low first
  have sameText : first.text = second.text ↔ first.digits = second.digits := String.ofList_inj
  constructor
  · refine compareBytecodes_of_decided _ _ _ (deployed ▸ present) ?_
    rw [deployed, (normalize_code code low second).1, compareRuntime_of_trailers, if_pos rfl]
    simp only [sameText]
  · intro other lowOther sizes
    have differentSize : code.toList.length ≠ other.toList.length := by
      rw [String.length_toList, String.length_toList]
      exact Ne.symm sizes
    have differentCode : code.toList ≠ other.toList := fun same => differentSize (same ▸ rfl)
    refine compareBytecodes_of_decided _ _ _ (deployed ▸ present) ?_
    rw [deployed, (normalize_code other lowOther second).1, compareRuntime_of_trailers,
      if_neg differentCode, if_neg differentSize]

/-- An empty map and a map of one number as the trailers of a code of two bytes, and the second one
behind a code of one byte. -/
theorem compareBytecodes_of_trailers_two_bytes :
    IsLow "6080".toList ∧ IsLow "60".toList ∧ "60".length ≠ "6080".length ∧
    compareBytecodes (some "0x6080a00001") none (some "0x6080a100010003") (some "0x60")
      (Action.fail .nullInPath) = pure Verdict.partly ∧
    compareBytecodes (some "0x6080a00001") none (some "0x60a100010003") (some "0x60")
      (Action.fail .nullInPath) = pure Verdict.noMatch := by
  let first : TrailerText := ⟨[0xa0], [], by with_unfolding_all rfl, by decide⟩
  let second : TrailerText := ⟨[0xa1, 0, 1], [(.int 0, .int 1)], by with_unfolding_all rfl,
    by decide⟩
  have deployed : "0x" ++ "6080" ++ first.text = "0x6080a00001" := by decide
  have sameCode : "0x" ++ "6080" ++ second.text = "0x6080a100010003" := by decide
  have shorter : "0x" ++ "60" ++ second.text = "0x60a100010003" := by decide
  have apart : first.text ≠ second.text := by decide
  have low : IsLow "6080".toList := by decide
  have low' : IsLow "60".toList := by decide
  obtain ⟨same, different⟩ := compareBytecodes_of_trailers "6080" low first second "0x60"
    none (Action.fail .nullInPath)
  have smaller := different "60" low' (by decide)
  rw [deployed, sameCode, if_neg apart] at same
  rw [deployed, shorter] at smaller
  exact ⟨low, low', by decide, same, smaller⟩

end SourceAttest
