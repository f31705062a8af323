import SourceAttest.Proofs.Comparison.Grounds
import SourceAttest.Proofs.Comparison.Trailers

/-!
# Creation data at hand and creation data that are looked up

It makes no difference to a comparison whether creation data are at hand or are looked up, and they are
looked up only where they decide. The main result is `compareBytecodes_by_data`.
-/
namespace SourceAttest

open SourceAttest.Action

/-- There is code, which is not the compiled one, and without their trailers the two are different and
equally long. -/
structure NeedsData (code runtime : String) : Prop where
  present : Bytecode.normalize code ≠ "0x"
  different : Bytecode.normalize code ≠ Bytecode.normalize runtime
  trimmed : Bytecode.trim (Bytecode.normalize code) ≠ Bytecode.trim (Bytecode.normalize runtime)
  sizes : (Bytecode.trim (Bytecode.normalize code)).length
    = (Bytecode.trim (Bytecode.normalize runtime)).length

/-- No creation data are at hand; empty ones count as none. -/
def Lacks (known : Option String) : Prop := known = none ∨ known = some ""

variable {code runtime : String}

/-- Either the codes decide, whatever the creation data are, or creation data are needed. -/
theorem decided_or_needsData (code runtime : String) :
    NeedsData code runtime ∨
    ∃ verdict, ∀ known creation,
      Decides (compareBytecodes (some code) known (some runtime) creation) (.ok verdict) := by
  by_cases absent : Bytecode.normalize code = "0x"
  · right
    refine ⟨.noMatch, fun known creation fetch world session => ?_⟩
    simp only [compareBytecodes, Option.map_some, if_pos absent]
    rfl
  have decided {verdict : Verdict}
      (byCodes : compareRuntime (Bytecode.normalize code) (some (Bytecode.normalize runtime))
        = .ok (some verdict)) (known creation : Option String) :
      Decides (compareBytecodes (some code) known (some runtime) creation) (.ok verdict) := by
    intro fetch world session
    rw [compareBytecodes_of_decided known creation fetch absent byCodes]
    rfl
  rcases compareRuntime_cases (Bytecode.normalize code) (Bytecode.normalize runtime) with
    ⟨-, byCodes⟩ | ⟨-, -, byCodes⟩ | ⟨-, -, byCodes⟩ | ⟨trimmed, sizes, -⟩
  · exact .inr ⟨.exact, decided byCodes⟩
  · exact .inr ⟨.partly, decided byCodes⟩
  · exact .inr ⟨.noMatch, decided byCodes⟩
  · left
    refine ⟨absent, fun same => trimmed (congrArg Bytecode.trim same), trimmed, sizes⟩

namespace NeedsData

variable (needs : NeedsData code runtime)

include needs

theorem byCodes :
    compareRuntime (Bytecode.normalize code) ((some runtime).map Bytecode.normalize) = .ok none :=
  compareRuntime_of_sizes needs.trimmed needs.sizes

theorem looksUp {known : Option String} (lacks : Lacks known) (creation : Option String) :
    LooksUp (compareBytecodes (some code) known (some runtime) creation) creation := by
  apply looksUp_of_open needs.present needs.byCodes
  rintro data rfl
  rcases lacks with none | empty
  · cases none
  · exact Option.some.inj empty

theorem decides {data : String} (filled : data ≠ "") (creation : Option String) :
    Decides (compareBytecodes (some code) (some data) (some runtime) creation)
      (judge creation (.ok (some data))) :=
  decides_of_known needs.present needs.byCodes filled

end NeedsData

/-- Creation data at hand decide like the same data from a look-up, which is then not made. Without data
at hand one look-up is made if creation data are needed, and none otherwise; if it cannot find them there
is no match, and any other fault of it is the outcome. -/
theorem compareBytecodes_by_data (code runtime creation : String) :
    (∀ data, data ≠ "" → ∃ verdict,
      Decides (compareBytecodes (some code) (some data) (some runtime) (some creation)) (.ok verdict) ∧
      ∀ known, Lacks known → ∀ fetch world session,
        (fetch world session).1 = .ok (some data) →
        (compareBytecodes (some code) known (some runtime) (some creation) fetch world session).1
          = .ok verdict) ∧
    ∀ known, Lacks known →
      (NeedsData code runtime → ∀ fetch world session,
        let run := compareBytecodes (some code) known (some runtime) (some creation) fetch world session
        run.2 = (fetch world session).2 ∧
        ∀ fault, (fetch world session).1 = .error fault →
          run.1 = if fault.kind = .creationDataNotFound then .ok .noMatch else .error fault) ∧
      (¬ NeedsData code runtime → ∃ verdict,
        Decides (compareBytecodes (some code) known (some runtime) (some creation)) (.ok verdict)) := by
  have unneeded (other : ¬ NeedsData code runtime) := (decided_or_needsData code runtime).resolve_left other
  refine ⟨fun data filled => ?_, fun known lacks => ⟨?_, ?_⟩⟩
  · by_cases needs : NeedsData code runtime
    · -- The same data are judged in both cases, and texts can be judged.
      have found (fault : Fault) (failed : Except.ok (some data) = .error fault) :
          fault.kind = .creationDataNotFound := by
        cases failed
      obtain ⟨verdict, judged⟩ := judge_of_text creation found
      have atHand := needs.decides filled (some creation)
      rw [judged] at atHand
      refine ⟨verdict, atHand, fun known lacks fetch world session told => ?_⟩
      rw [needs.looksUp lacks (some creation) fetch world session, told, judged]
    · obtain ⟨verdict, decided⟩ := unneeded needs
      refine ⟨verdict, decided _ _, fun known lacks fetch world session told => ?_⟩
      rw [decided known (some creation) fetch world session]
  · intro needs fetch world session run
    have looked : run = _ := needs.looksUp lacks (some creation) fetch world session
    refine ⟨congrArg Prod.snd looked, fun fault failed => ?_⟩
    rw [congrArg Prod.fst looked, failed, judge]
  · intro other
    obtain ⟨verdict, decided⟩ := unneeded other
    exact ⟨verdict, decided known (some creation)⟩

/-- Two codes of one instruction each, and a remembered look-up for creation data with one byte behind
the creation code. -/
theorem compareBytecodes_by_data_of_arguments :
    NeedsData "0x6001" "0x6002" ∧
    ∀ question world session,
      let run := compareBytecodes (some "0x6001") (some "") (some "0x6002") (some "0x60")
        (lookUp question (.ok (some "0x60AB"))) world session
      run.2.lookups = session.lookups ++ [question] ∧
      run.1 = (compareBytecodes (some "0x6001") (some "0x60AB") (some "0x6002") (some "0x60")
        (fail .nullInPath) world session).1 := by
  have needs : NeedsData "0x6001" "0x6002" :=
    ⟨by decide +kernel, by decide +kernel, by decide +kernel, by decide +kernel⟩
  obtain ⟨supplied, without⟩ := compareBytecodes_by_data "0x6001" "0x6002" "0x60"
  obtain ⟨verdict, atHand, fetched⟩ := supplied "0x60AB" (by decide)
  obtain ⟨once, -⟩ := without (some "") (.inr rfl)
  refine ⟨needs, fun question world session => ⟨?_, ?_⟩⟩
  · rw [(once needs _ world session).1]
    rfl
  · rw [fetched (some "") (.inr rfl) _ world session rfl, atHand]

end SourceAttest
