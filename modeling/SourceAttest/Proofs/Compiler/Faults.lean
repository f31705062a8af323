import SourceAttest.Proofs.Compiler.Recompile
import SourceAttest.Proofs.Contract.Fetching

/-!
# How compiling fails

Completing a contract and recompiling it fail in three ways only: as a compilation, at a value of
another shape than expected, or at a text of the compiler that is read as no JSON for another reason than
its form (`Fault.IsOfCompiling`). The main results are `Contract.failsOnly_complete` and
`Compiler.failsOnly_recompile`.
-/
namespace SourceAttest

open SourceAttest.Action

/-- A fault of sources, of the compiler or of what the compiler writes. -/
def Fault.IsOfCompiling (fault : Fault) : Prop :=
  (∃ why, fault = .compilation why) ∨ (∃ why, fault = .shape why) ∨ ∃ why, fault = .unreadable why

namespace Fault.IsOfCompiling

variable {fault : Fault}

theorem compilation (why : CompilationFault) : (Fault.compilation why).IsOfCompiling := .inl ⟨why, rfl⟩

theorem shape (why : ShapeFault) : (Fault.shape why).IsOfCompiling := .inr (.inl ⟨why, rfl⟩)

theorem of_mapError {α : Type} {value : Except ShapeFault α}
    (failed : value.mapError .shape = .error fault) : fault.IsOfCompiling :=
  .inr (.inl (Fault.eq_shape_of_mapError failed))

end Fault.IsOfCompiling

/-! ### Sources -/

namespace Contract

variable {gateways : Gateways} {logger : Logger} {contract completed : Contract} {world : World}
  {session final : Session}

theorem failsOnly_fetchSource (gateways : Gateways) (logger : Logger) (path hash : String)
    (urls : List Json) :
    (fetchSource gateways logger path hash urls).FailsOnly Fault.IsOfCompiling := by
  induction urls with
  | nil => exact .pure _
  | cons listed rest ih =>
    refine .bind (.ofShape .shape) fun url => .bind (.ofShape .shape) fun resolved => ?_
    split
    · exact ih
    · refine .bind (.send _) fun reply => ?_
      split
      · exact .bind (.report ..) fun _ => ih
      · split
        · exact .bind (.report ..) fun _ => .pure _
        · exact .bind (.report ..) fun _ => ih

/-- The fault that stops fetching is one of the source that was being fetched. -/
theorem fault_of_fetchEach {missing : List (String × MissingSource)} {fault : Fault}
    (returned : fetchEach gateways logger missing contract world session
      = (.ok (completed, some fault), final)) : fault.IsOfCompiling := by
  induction missing generalizing contract session with
  | nil => cases (pure_eq_ok.mp returned).1
  | cons entry rest ih =>
    obtain ⟨outcome, _, fetching, returned⟩ := bind_eq_ok.mp returned
    cases outcome with
    | error why =>
      cases (pure_eq_ok.mp returned).1
      exact (failsOnly_fetchSource ..).faults (congrArg Prod.fst (attempt_eq_ok.mp fetching))
    | ok fetched =>
      cases fetched with
      | none => exact ih returned
      | some content => exact ih returned

theorem fault_of_fetchMissing {fault : Fault}
    (returned : contract.fetchMissing gateways logger world session
      = (.ok (completed, some fault), final)) : fault.IsOfCompiling := by
  obtain ⟨why, each, closing⟩ := fetchMissing_cases returned
  -- A source could not be fetched at all, or each was tried and some are still missing.
  cases why with
  | some why =>
    cases closing
    exact fault_of_fetchEach each
  | none =>
    rw [closingFault] at closing
    split at closing
    · cases closing
    · cases closing
      exact .compilation _

theorem failsOnly_complete (gateways : Gateways) (logger : Logger) (contract : Contract) :
    (contract.complete gateways logger).FailsOnly Fault.IsOfCompiling := by
  unfold complete
  split
  · exact .pure _
  · refine FailsOnly.bind_of ((failsOnly_fetchMissing ..).mono fun _ => False.elim) ?_
    rintro ⟨completed, fault⟩ ⟨world, session, returned⟩
    cases fault with
    | none => exact .pure _
    | some fault => exact .fail (fault_of_fetchMissing (Prod.ext returned rfl))

theorem isOfCompiling_of_target {metadata : Json} {fault : Fault} {why : CompilationFault}
    (failed : target (.compilation why) metadata = .error fault) : fault.IsOfCompiling := by
  rw [target_eq] at failed
  rcases Outcome.bind_eq_error failed with failed | ⟨found, -, failed⟩
  · exact .of_mapError failed
  rcases Outcome.bind_eq_error failed with failed | ⟨count, -, failed⟩
  · exact .of_mapError failed
  split at failed
  · cases failed
    exact .compilation why
  rcases Outcome.bind_eq_error failed with failed | ⟨members, -, failed⟩
  · exact .of_mapError failed
  · cases members with
    | nil =>
      cases failed
      exact .compilation why
    | cons entry rest => cases failed

end Contract

/-! ### The compiler -/

namespace Compiler

variable {metadata sources name output : Json} {path file : String} {fault : Fault}

theorem isOfCompiling_of_findSource (failed : findSource sources path = .error fault) :
    fault.IsOfCompiling := by
  unfold findSource at failed
  split at failed
  · cases failed
    exact .shape _
  · cases failed
    exact .compilation _
  · exact .of_mapError failed

theorem isOfCompiling_of_inputSources {specs : List (String × Json)}
    (failed : inputSources sources specs = .error fault) : fault.IsOfCompiling := by
  induction specs with
  | nil => cases failed
  | cons entry rest ih =>
    rcases Outcome.bind_eq_error failed with failed | ⟨content, -, failed⟩
    · exact isOfCompiling_of_findSource failed
    rcases Outcome.bind_eq_error failed with failed | ⟨_, -, failed⟩
    · rcases Contract.fault_of_checkSource failed with ⟨why, rfl⟩ | rfl
      · exact .shape why
      · exact .compilation _
    rcases Outcome.bind_eq_error failed with failed | ⟨_, -, failed⟩
    · exact ih failed
    · cases failed

theorem isOfCompiling_of_standardInput (failed : standardInput metadata sources = .error fault) :
    fault.IsOfCompiling := by
  -- Only the sources can be at fault as such; the rest of the document has the right shape or not.
  rcases Outcome.bind_eq_error failed with failed | ⟨specs, -, failed⟩
  · exact .of_mapError failed
  rcases Outcome.bind_eq_error failed with failed | ⟨input, -, failed⟩
  · exact isOfCompiling_of_inputSources failed
  rcases Outcome.bind_eq_error failed with failed | ⟨settings, -, failed⟩
  · exact .of_mapError failed
  rcases Outcome.bind_eq_error failed with failed | ⟨language, -, failed⟩
  · exact .of_mapError failed
  · cases failed

theorem isOfCompiling_of_outputOf {outcome : CompilerOutcome}
    (failed : outputOf path outcome = .error fault) : fault.IsOfCompiling := by
  unfold outputOf at failed
  split at failed
  · cases failed
    exact .compilation _
  · cases failed
    exact .compilation _
  · split at failed
    · cases failed
    · split at failed
      · cases failed
        exact .compilation _
      · cases failed
        exact .inr (.inr ⟨_, rfl⟩)

theorem isOfCompiling_of_artifactOf (failed : artifactOf file name output = .error fault) :
    fault.IsOfCompiling := by
  rcases cases_of_artifactOf failed with ⟨why, rfl, -⟩ | ⟨why, rfl⟩
  · exact .compilation why
  · exact .shape why

theorem failsOnly_recompile (path : Option String) (logger : Logger) (metadata sources : Json) :
    (recompile path logger metadata sources).FailsOnly Fault.IsOfCompiling := by
  refine .bind (.ask _) fun environment => ?_
  refine .bind (.ofExcept fun _ failed => Contract.isOfCompiling_of_target failed) fun target => ?_
  refine .bind (.ofShape .shape) fun version => .bind (.report ..) fun _ => ?_
  refine .bind (.ofExcept fun _ failed => isOfCompiling_of_standardInput failed) fun input => ?_
  refine .bind (.compile _) fun outcome => ?_
  refine .bind (.ofExcept fun _ failed => isOfCompiling_of_outputOf failed) fun output => ?_
  exact .ofExcept fun _ failed => isOfCompiling_of_artifactOf failed

end Compiler

end SourceAttest
