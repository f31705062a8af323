import SourceAttest.Proofs.Bytecode.Normal
import SourceAttest.Proofs.Comparison.Lookup

/-!
# Spellings of codes

A code may be written with capital letters, with blanks around it and without its marker. A comparison
sees nothing of this, neither in the texts that it is given nor in those that are looked up. The main
result is `compare_of_spellings`.
-/
namespace SourceAttest

open SourceAttest.Action
open SourceAttest.Bytecode (normalize)

/-- A code in its normal form is written as it is: nothing is behind it that could be lowered. -/
theorem Bytecode.normalize_normalize (text : String) : normalize (normalize text) = normalize text := by
  have noDigits : ∀ c ∈ "".toList, Bytecode.IsHexDigit c := by simp
  calc
    normalize (normalize text) = normalize (normalize text ++ "") := by rw [String.append_empty]
    _ = normalize text ++ Text.lower "" := Bytecode.normalize_append text noDigits
    _ = normalize text := String.append_empty

/-- A normal code has its marker at least. -/
theorem Bytecode.normalize_ne_empty (text : String) : normalize text ≠ "" := by
  intro empty
  obtain ⟨rest, starts, -⟩ := Bytecode.toList_normalize text
  simp [empty] at starts

/-- What is compared, as it is written. `known` are the creation data at hand. -/
structure Comparison where
  deployed : Option String
  known : Option String
  runtime : Option String
  creation : Option String

namespace Comparison

/-- The same texts in their normal forms. -/
def normal (texts : Comparison) : Comparison where
  deployed := texts.deployed.map normalize
  known := texts.known.map normalize
  runtime := texts.runtime.map normalize
  creation := texts.creation.map normalize

def compare (texts : Comparison) (fetch : Action (Option String)) : Action Verdict :=
  compareBytecodes texts.deployed texts.known texts.runtime texts.creation fetch

end Comparison

variable {deployed known runtime creation : Option String}

/-! ### The texts at hand -/

theorem map_normalize_twice (text : Option String) :
    (text.map normalize).map normalize = text.map normalize := by
  cases text with
  | none => rfl
  | some text => simp [Bytecode.normalize_normalize]

/-- The codes are normalised before anything else is done with them. -/
theorem compareBytecodes_of_normal_codes (deployed known runtime creation : Option String)
    (fetch : Action (Option String)) :
    compareBytecodes (deployed.map normalize) known (runtime.map normalize) (creation.map normalize) fetch
      = compareBytecodes deployed known runtime creation fetch := by
  simp only [compareBytecodes, map_normalize_twice]

/-- Creation data at hand, unless they are empty, stay at hand when they are normalised. -/
theorem compareBytecodes_of_normal_data (filled : known ≠ some "") (fetch : Action (Option String)) :
    compareBytecodes deployed (known.map normalize) runtime creation fetch
      = compareBytecodes deployed known runtime creation fetch := by
  cases known with
  | none => rfl
  | some data =>
    have atHand {data : String} (filled : data ≠ "") : creationDataFor (some data) fetch = pure (some data) := by
      rw [creationDataFor, if_neg filled]
    have given : data ≠ "" := fun empty => filled (congrArg some empty)
    rw [Option.map_some, compareBytecodes, compareBytecodes, atHand given,
      atHand (Bytecode.normalize_ne_empty data)]
    -- Both go on with data that are normalised next.
    have next {β : Type} (value : Option String) (rest : Option String → Action β) :
        (pure value : Action (Option String)) >>= rest = rest value := rfl
    simp only [next, Option.map_some, Bytecode.normalize_normalize]

theorem compare_normal {texts : Comparison} (filled : texts.known ≠ some "") :
    texts.normal.compare = texts.compare := by
  funext fetch
  exact (compareBytecodes_of_normal_codes ..).trans (compareBytecodes_of_normal_data filled fetch)

/-! ### The texts that are looked up -/

theorem judge_of_normal (creation : Option String) (answer : Except Fault (Option String)) :
    judge creation (answer.map (Option.map normalize)) = judge creation answer := by
  rcases answer with fault | _ | data
  · rfl
  · rfl
  · simp only [Except.map, Option.map_some, judge, Bytecode.normalize_normalize]

/-- Look-ups whose answers normalise alike lead to the same outcome. -/
theorem outcome_of_answers {fetch fetch' : Action (Option String)} {world world' : World}
    {session session' : Session}
    (alike : (fetch world session).1.map (Option.map normalize)
      = (fetch' world' session').1.map (Option.map normalize)) :
    (compareBytecodes deployed known runtime creation fetch world session).1
      = (compareBytecodes deployed known runtime creation fetch' world' session').1 := by
  rcases compareBytecodes_cases deployed known runtime creation with
    ⟨outcome, decides⟩ | ⟨_, _, _, _, _, _, looksUp⟩
  · rw [decides, decides]
  · rw [looksUp, looksUp, ← judge_of_normal, alike, judge_of_normal]

theorem map_run (f : Option String → Option String) (fetch : Action (Option String)) (world : World)
    (session : Session) :
    (f <$> fetch) world session = ((fetch world session).1.map f, (fetch world session).2) := by
  change Action.bind fetch (fun value => Action.pure (f value)) world session = _
  unfold Action.bind
  rcases fetch world session with ⟨_ | _, _⟩
  · rfl
  · rfl

theorem compareBytecodes_of_normal_answer (fetch : Action (Option String)) :
    compareBytecodes deployed known runtime creation (Option.map normalize <$> fetch)
      = compareBytecodes deployed known runtime creation fetch := by
  funext world session
  rcases compareBytecodes_cases deployed known runtime creation with
    ⟨outcome, decides⟩ | ⟨_, _, _, _, _, _, looksUp⟩
  · rw [decides, decides]
  · rw [looksUp, looksUp, map_run, judge_of_normal]

/-- A comparison is the same for texts in their normal forms, with the same look-ups made. So texts that
normalise alike are compared alike, whatever a look-up does, and look-ups whose answers normalise alike
lead to the same verdict. -/
theorem compare_of_spellings (texts : Comparison) (filled : texts.known ≠ some "") :
    (∀ fetch, texts.normal.compare (Option.map normalize <$> fetch) = texts.compare fetch) ∧
    (∀ question answer world session,
      (texts.normal.compare (lookUp question (answer.map (Option.map normalize))) world session).2.lookups
        = (texts.compare (lookUp question answer) world session).2.lookups) ∧
    ∀ other : Comparison, other.known ≠ some "" → other.normal = texts.normal →
      other.compare = texts.compare ∧
      ∀ (fetch fetch' : Action (Option String)) (world world' : World) (session session' : Session),
        (fetch world session).1.map (Option.map normalize)
            = (fetch' world' session').1.map (Option.map normalize) →
        (texts.compare fetch world session).1 = (other.compare fetch' world' session').1 := by
  have same (fetch : Action (Option String)) :
      texts.normal.compare (Option.map normalize <$> fetch) = texts.compare fetch := by
    rw [compare_normal filled]
    exact compareBytecodes_of_normal_answer fetch
  refine ⟨same, fun question answer world session => ?_, fun other filled' alike => ?_⟩
  · have answered : lookUp question (answer.map (Option.map normalize))
        = Option.map normalize <$> lookUp question answer := by
      funext world session
      rw [map_run]
      rfl
    rw [answered, same]
  · have compared : other.compare = texts.compare := by
      rw [← compare_normal filled, ← compare_normal filled', alike]
    refine ⟨compared, fun fetch fetch' world world' session session' answers => ?_⟩
    rw [compared]
    exact outcome_of_answers answers

/-- Two spellings of an instruction each, of a creation code and of creation data with one byte behind
it. -/
theorem compare_of_spellings_of_arguments :
    let texts : Comparison := ⟨some " 6001\n", some "0X60AB", some "0x6002", some "0X60"⟩
    let other : Comparison := ⟨some "0X6001", some "60aB\t", some "6002", some " 60"⟩
    texts.known ≠ some "" ∧ other.known ≠ some "" ∧ other.normal = texts.normal ∧
    ∀ fetch, other.compare fetch = texts.compare fetch ∧
      texts.normal.compare (Option.map normalize <$> fetch) = texts.compare fetch := by
  intro texts other
  have filled : texts.known ≠ some "" := by decide
  have filled' : other.known ≠ some "" := by decide
  have alike : other.normal = texts.normal := by
    simp only [Comparison.normal, Comparison.mk.injEq]
    decide +kernel
  obtain ⟨same, -, spellings⟩ := compare_of_spellings texts filled
  obtain ⟨compared, -⟩ := spellings other filled' alike
  exact ⟨filled, filled', alike, fun fetch => ⟨congrFun compared fetch, same fetch⟩⟩

end SourceAttest
