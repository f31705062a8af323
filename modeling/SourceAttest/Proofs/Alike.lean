import SourceAttest.Proofs.Action

/-!
# Sessions that are alike

Two ways to one end make different calls and report different events on their way. An action that
asks nothing of the network itself cannot tell the sessions apart that they leave.
-/
namespace SourceAttest

open SourceAttest.Action

/-- Two sessions that differ at most in the calls made and the events reported. -/
structure Session.Alike (first second : Session) : Prop where
  lookups : first.lookups = second.lookups
  runs : first.runs = second.runs
  verifications : first.verifications = second.verifications
  tree : first.tree = second.tree

namespace Session.Alike

variable {first second third : Session}

theorem refl (session : Session) : Alike session session := ⟨rfl, rfl, rfl, rfl⟩

theorem symm (alike : Alike first second) : Alike second first :=
  ⟨alike.lookups.symm, alike.runs.symm, alike.verifications.symm, alike.tree.symm⟩

theorem trans (alike : Alike first second) (other : Alike second third) : Alike first third :=
  ⟨alike.lookups.trans other.lookups, alike.runs.trans other.runs,
    alike.verifications.trans other.verifications, alike.tree.trans other.tree⟩

theorem of_events (session : Session) (events : List Event) :
    Alike { session with events := events } session :=
  ⟨rfl, rfl, rfl, rfl⟩

end Session.Alike

/-- In sessions that are alike, an action comes to the same and leaves them alike. -/
structure Action.IgnoresCalls {α : Type} (world : World) (action : Action α) : Prop where
  same : ∀ {first second}, first.Alike second →
    (action world first).1 = (action world second).1 ∧
      (action world first).2.Alike (action world second).2

namespace Action.IgnoresCalls

variable {α β : Type} {world : World} {first second final : Session}

theorem run_eq {action : Action α} {outcome : Except Fault α} (ignores : action.IgnoresCalls world)
    (alike : first.Alike second) (run : action world first = (outcome, final)) :
    ∃ other, action world second = (outcome, other) ∧ final.Alike other := by
  obtain ⟨outcomes, sessions⟩ := ignores.same alike
  rw [run] at outcomes sessions
  exact ⟨(action world second).2, Prod.ext outcomes.symm rfl, sessions⟩

theorem pure (value : α) : (Pure.pure value : Action α).IgnoresCalls world :=
  ⟨fun alike => ⟨rfl, alike⟩⟩

theorem fail (fault : Fault) : (Action.fail fault : Action α).IgnoresCalls world :=
  ⟨fun alike => ⟨rfl, alike⟩⟩

theorem bind {action : Action α} {next : α → Action β} (before : action.IgnoresCalls world)
    (after : ∀ value, (next value).IgnoresCalls world) : (action >>= next).IgnoresCalls world := by
  constructor
  intro first second alike
  cases run : action world first with
  | mk outcome middle =>
    obtain ⟨other, run', alike'⟩ := before.run_eq alike run
    cases outcome with
    | error fault =>
      rw [bind_of_error run, bind_of_error run']
      exact ⟨rfl, alike'⟩
    | ok value =>
      rw [bind_of_ok run, bind_of_ok run']
      exact (after value).same alike'

theorem attempt {action : Action α} (ignores : action.IgnoresCalls world) :
    action.attempt.IgnoresCalls world := by
  constructor
  intro first second alike
  obtain ⟨outcomes, sessions⟩ := ignores.same alike
  rw [attempt_run, attempt_run, outcomes]
  exact ⟨rfl, sessions⟩

theorem ofShape (outcome : Except ShapeFault α) : (Action.ofShape outcome).IgnoresCalls world := by
  cases outcome
  · exact fail _
  · exact pure _

theorem report (logger : Logger) (level : Level) (text : String) (fields : Table String Json) :
    (logger.report level text fields).IgnoresCalls world :=
  ⟨fun alike => ⟨rfl, alike.lookups, alike.runs, alike.verifications, alike.tree⟩⟩

theorem onTree (step : Tree → Except Fault α × Tree) : (Action.onTree step).IgnoresCalls world := by
  constructor
  intro first second alike
  rw [Action.onTree, Action.onTree, alike.tree]
  exact ⟨rfl, alike.lookups, alike.runs, alike.verifications, rfl⟩

end Action.IgnoresCalls

end SourceAttest
