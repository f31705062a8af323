import SourceAttest.Action
import SourceAttest.Proofs.Outcome

/-!
# Runs of actions

A run of several actions that returns is taken apart by `bind_eq_ok`, one action at a time. Actions
that leave the file tree alone are closed under all ways of putting actions together, and so are
those whose outcome does not depend on what has happened before.
-/
namespace SourceAttest.Action

variable {α β : Type} {world : World} {session final : Session}

/-! ### Runs that return -/

theorem bind_eq_ok {action : Action α} {next : α → Action β} {value : β} :
    (action >>= next) world session = (.ok value, final) ↔
      ∃ first middle, action world session = (.ok first, middle) ∧
        next first world middle = (.ok value, final) := by
  change Action.bind action next world session = _ ↔ _
  unfold Action.bind
  rcases action world session with ⟨_ | first, middle⟩
  · simp
  · simp only [Prod.mk.injEq, Except.ok.injEq]
    constructor
    · intro returned
      exact ⟨first, middle, ⟨rfl, rfl⟩, returned⟩
    · rintro ⟨_, _, ⟨rfl, rfl⟩, returned⟩
      exact returned

theorem pure_eq_ok {returned value : α} :
    (pure returned : Action α) world session = (.ok value, final) ↔
      returned = value ∧ session = final := by
  change (Except.ok returned, session) = (Except.ok value, final) ↔ _
  simp

theorem fail_ne_ok {fault : Fault} {value : α} :
    (fail fault : Action α) world session ≠ (.ok value, final) := by
  intro returned
  cases returned

theorem attempt_eq_ok {action : Action α} {outcome : Except Fault α} :
    action.attempt world session = (.ok outcome, final) ↔ action world session = (outcome, final) := by
  unfold attempt
  rcases action world session with ⟨reached, middle⟩
  simp

theorem ofExcept_eq_ok {outcome : Except Fault α} {value : α} :
    ofExcept outcome world session = (.ok value, final) ↔ outcome = .ok value ∧ session = final := by
  cases outcome with
  | error fault => simp [ofExcept, fail]
  | ok reached => simp [ofExcept, Action.pure]

theorem ofShape_eq_ok {outcome : Except ShapeFault α} {value : α} :
    ofShape outcome world session = (.ok value, final) ↔ outcome = .ok value ∧ session = final := by
  cases outcome with
  | error why => simp [ofShape, fail]
  | ok reached => simp [ofShape, Action.pure]

theorem onTree_eq_ok {step : Tree → Except Fault α × Tree} {value : α} :
    onTree step world session = (.ok value, final) ↔
      ∃ tree, step session.tree = (.ok value, tree) ∧ { session with tree := tree } = final := by
  unfold onTree
  rcases step session.tree with ⟨outcome, tree⟩
  simp [and_assoc]

theorem tree_of_onTree (step : Tree → Except Fault α × Tree) :
    (onTree step world session).2.tree = (step session.tree).2 := rfl

theorem bind_of_ok {action : Action α} {next : α → Action β} {value : α}
    (first : action world session = (.ok value, final)) :
    (action >>= next) world session = next value world final := by
  change Action.bind action next world session = _
  rw [Action.bind, first]

theorem bind_of_error {action : Action α} {next : α → Action β} {fault : Fault}
    (first : action world session = (.error fault, final)) :
    (action >>= next) world session = (.error fault, final) := by
  change Action.bind action next world session = _
  rw [Action.bind, first]

/-- A run of two actions ends with the fault of the first, or as the second one does after it. -/
theorem bind_cases {action : Action α} {next : α → Action β} {outcome : Except Fault β}
    (run : (action >>= next) world session = (outcome, final)) :
    (∃ fault, outcome = .error fault ∧ action world session = (.error fault, final)) ∨
    ∃ value middle, action world session = (.ok value, middle) ∧
      next value world middle = (outcome, final) := by
  cases first : action world session with
  | mk reached middle =>
    cases reached with
    | error fault =>
      cases (bind_of_error first).symm.trans run
      exact .inl ⟨fault, rfl, rfl⟩
    | ok value => exact .inr ⟨value, middle, rfl, (bind_of_ok first).symm.trans run⟩

theorem attempt_run (action : Action α) (world : World) (session : Session) :
    action.attempt world session = (.ok (action world session).1, (action world session).2) := rfl

theorem ofExcept_run (outcome : Except Fault α) :
    ofExcept outcome world session = (outcome, session) := by
  cases outcome with
  | error fault => rfl
  | ok value => rfl

theorem ofShape_run (outcome : Except ShapeFault α) :
    ofShape outcome world session = (outcome.mapError .shape, session) := by
  cases outcome with
  | error why => rfl
  | ok value => rfl

theorem ofShape_ok_bind (value : α) (next : α → Action β) :
    ofShape (.ok value) >>= next = next value := rfl

theorem ofShape_error_bind (why : ShapeFault) (next : α → Action β) :
    ofShape (.error why) >>= next = fail (.shape why) := rfl

theorem eq_ok_of_toOption {run : Except Fault α × Session} {value : α}
    (returned : run.1.toOption = some value) : run = (.ok value, run.2) :=
  -- A run is its outcome and the session that it leaves.
  Prod.ext (Outcome.eq_ok_of_toOption returned) rfl

/-! ### Actions that leave the tree alone -/

/-- Whatever comes of an action, the file tree is as before. -/
structure KeepsTree (action : Action α) : Prop where
  same : ∀ world session, (action world session).2.tree = session.tree

namespace KeepsTree

theorem tree_eq {action : Action α} {outcome : Except Fault α} (keeps : action.KeepsTree)
    (run : action world session = (outcome, final)) : final.tree = session.tree := by
  have kept := keeps.same world session
  rwa [run] at kept

theorem pure (value : α) : (Pure.pure value : Action α).KeepsTree := ⟨fun _ _ => rfl⟩

theorem fail (fault : Fault) : (Action.fail fault : Action α).KeepsTree := ⟨fun _ _ => rfl⟩

theorem bind {action : Action α} {next : α → Action β} (first : action.KeepsTree)
    (second : ∀ value, (next value).KeepsTree) : (action >>= next).KeepsTree := by
  constructor
  intro world session
  -- The tree is the same after the first action, and the second one starts from there.
  have kept := first.same world session
  change (Action.bind action next world session).2.tree = _
  unfold Action.bind
  cases run : action world session with
  | mk outcome middle =>
    rw [run] at kept
    cases outcome with
    | error fault => exact kept
    | ok value => exact ((second value).same world middle).trans kept

/-- Either the first action fails and the tree is as before, or the run goes on with the second. -/
theorem bind_cases {action : Action α} (keeps : action.KeepsTree) (next : α → Action β) :
    ((action >>= next) world session).2.tree = session.tree ∨
    ∃ value middle, action world session = (.ok value, middle) ∧
      (action >>= next) world session = next value world middle := by
  cases run : action world session with
  | mk outcome middle =>
    cases outcome with
    | error fault =>
      left
      rw [bind_of_error run]
      exact keeps.tree_eq run
    | ok value => exact .inr ⟨value, middle, rfl, bind_of_ok run⟩

/-- What comes after an action does not matter if it keeps the tree. -/
theorem tree_of_bind (action : Action α) {next : α → Action β}
    (later : ∀ value, (next value).KeepsTree) :
    ((action >>= next) world session).2.tree = (action world session).2.tree := by
  cases run : action world session with
  | mk outcome middle =>
    cases outcome with
    | error fault => rw [bind_of_error run]
    | ok value =>
      rw [bind_of_ok run]
      exact (later value).same world middle

theorem attempt {action : Action α} (keeps : action.KeepsTree) : action.attempt.KeepsTree := by
  constructor
  intro world session
  have kept := keeps.same world session
  unfold Action.attempt
  cases run : action world session with
  | mk outcome middle =>
    rw [run] at kept
    exact kept

theorem ofExcept (outcome : Except Fault α) : (Action.ofExcept outcome).KeepsTree := by
  cases outcome
  · exact fail _
  · exact pure _

theorem ofShape (outcome : Except ShapeFault α) : (Action.ofShape outcome).KeepsTree := by
  cases outcome
  · exact fail _
  · exact pure _

theorem ask (question : World → α) : (Action.ask question).KeepsTree := ⟨fun _ _ => rfl⟩

theorem send (request : HttpRequest) : (Action.send request).KeepsTree := ⟨fun _ _ => rfl⟩

theorem nextCallNumber : Action.nextCallNumber.KeepsTree := ⟨fun _ _ => rfl⟩

theorem nextVerification : Action.nextVerification.KeepsTree := ⟨fun _ _ => rfl⟩

theorem compile (job : CompilerRun) : (Action.compile job).KeepsTree := ⟨fun _ _ => rfl⟩

theorem lookUp (question : Lookup) (answer : Except Fault α) :
    (Action.lookUp question answer).KeepsTree := ⟨fun _ _ => rfl⟩

theorem report (logger : Logger) (level : Level) (text : String) (fields : Table String Json) :
    (logger.report level text fields).KeepsTree := ⟨fun _ _ => rfl⟩

theorem map {action : Action α} (keeps : action.KeepsTree) (f : α → β) :
    (f <$> action).KeepsTree :=
  bind keeps fun _ => pure _

end KeepsTree

/-! ### Outcomes that do not depend on the session -/

/-- In a world, an action has this outcome whatever has happened before. -/
structure Gives (world : World) (action : Action α) (outcome : Except Fault α) : Prop where
  same : ∀ session, (action world session).1 = outcome

namespace Gives

variable {outcome : Except Fault α}

theorem run_eq {action : Action α} (gives : action.Gives world outcome) (session : Session) :
    ∃ final, action world session = (outcome, final) :=
  ⟨_, Prod.ext (gives.same session) rfl⟩

theorem pure (value : α) : (Pure.pure value : Action α).Gives world (.ok value) := ⟨fun _ => rfl⟩

theorem ofShape (value : α) : (Action.ofShape (.ok value)).Gives world (.ok value) := ⟨fun _ => rfl⟩

theorem bind {action : Action α} {next : α → Action β} {value : α} {last : Except Fault β}
    (first : action.Gives world (.ok value)) (second : (next value).Gives world last) :
    (action >>= next).Gives world last := by
  constructor
  intro session
  obtain ⟨middle, run⟩ := first.run_eq session
  rw [bind_of_ok run]
  exact second.same middle

theorem attempt {action : Action α} (gives : action.Gives world outcome) :
    action.attempt.Gives world (.ok outcome) := by
  constructor
  intro session
  rw [attempt_run, gives.same]

end Gives

end SourceAttest.Action
