import SourceAttest.Proofs.Action

/-!
# What actions may send and how they may fail

Two limits of actions, each closed under the ways of putting actions together: an action sends none
but requests of some kind and calls no node, and an action fails with none but faults of some kind.
-/
namespace SourceAttest

open SourceAttest.Action

/-! ### Requests -/

/-- Since the first session, none but the allowed requests have been sent, and no node was called. -/
structure Session.Sends (allowed : HttpRequest → Prop) (before after : Session) : Prop where
  requests : ∃ sent, after.requests = before.requests ++ sent ∧ ∀ request ∈ sent, allowed request
  rpcCalls : after.rpcCalls = before.rpcCalls

namespace Session.Sends

variable {allowed : HttpRequest → Prop} {before middle after : Session}

theorem of_same (requests : after.requests = before.requests)
    (rpcCalls : after.rpcCalls = before.rpcCalls) : Sends allowed before after :=
  ⟨⟨[], by rw [requests, List.append_nil], fun _ member => absurd member List.not_mem_nil⟩, rpcCalls⟩

theorem trans (first : Sends allowed before middle) (second : Sends allowed middle after) :
    Sends allowed before after := by
  obtain ⟨⟨sent, isMiddle, all⟩, calls⟩ := first
  obtain ⟨⟨sent', isAfter, all'⟩, calls'⟩ := second
  refine ⟨⟨sent ++ sent', by rw [isAfter, isMiddle, List.append_assoc], ?_⟩, calls'.trans calls⟩
  intro request member
  rcases List.mem_append.mp member with early | late
  · exact all request early
  · exact all' request late

theorem mono {other : HttpRequest → Prop} (sends : Sends allowed before after)
    (also : ∀ request, allowed request → other request) : Sends other before after := by
  obtain ⟨⟨sent, isAfter, all⟩, calls⟩ := sends
  exact ⟨⟨sent, isAfter, fun request member => also request (all request member)⟩, calls⟩

/-- Where nothing is allowed, nothing has been sent. -/
theorem requests_eq (sends : Sends (fun _ => False) before after) :
    after.requests = before.requests := by
  obtain ⟨⟨sent, isAfter, none⟩, -⟩ := sends
  rw [isAfter, List.eq_nil_iff_forall_not_mem.mpr none, List.append_nil]

end Session.Sends

/-- Whatever comes of an action, it sends none but the allowed requests and calls no node. -/
structure Action.SendsOnly {α : Type} (allowed : HttpRequest → Prop) (action : Action α) : Prop where
  sends : ∀ (world : World) (session : Session), session.Sends allowed (action world session).2

namespace Action.SendsOnly

variable {α β : Type} {allowed : HttpRequest → Prop}

theorem sends_eq {action : Action α} {world : World} {session final : Session}
    {outcome : Except Fault α} (limited : action.SendsOnly allowed)
    (run : action world session = (outcome, final)) : session.Sends allowed final := by
  have sent := limited.sends world session
  rwa [run] at sent

theorem pure (value : α) : (Pure.pure value : Action α).SendsOnly allowed :=
  ⟨fun _ _ => .of_same rfl rfl⟩

theorem fail (fault : Fault) : (Action.fail fault : Action α).SendsOnly allowed :=
  ⟨fun _ _ => .of_same rfl rfl⟩

/-- A run that keeps to a limit goes on to keep to it. -/
theorem bind_run {action : Action α} {next : α → Action β} {world : World} {session : Session}
    (first : session.Sends allowed (action world session).2)
    (second : ∀ value, (next value).SendsOnly allowed) :
    session.Sends allowed ((action >>= next) world session).2 := by
  cases run : action world session with
  | mk outcome middle =>
    rw [run] at first
    cases outcome with
    | error fault =>
      rw [bind_of_error run]
      exact first
    | ok value =>
      rw [bind_of_ok run]
      exact first.trans ((second value).sends world middle)

theorem bind {action : Action α} {next : α → Action β} (first : action.SendsOnly allowed)
    (second : ∀ value, (next value).SendsOnly allowed) : (action >>= next).SendsOnly allowed :=
  ⟨fun world session => bind_run (first.sends world session) second⟩

theorem attempt {action : Action α} (limited : action.SendsOnly allowed) :
    action.attempt.SendsOnly allowed := by
  constructor
  intro world session
  rw [attempt_run]
  exact limited.sends world session

theorem mono {other : HttpRequest → Prop} {action : Action α} (limited : action.SendsOnly allowed)
    (also : ∀ request, allowed request → other request) : action.SendsOnly other :=
  ⟨fun world session => (limited.sends world session).mono also⟩

theorem ofExcept (outcome : Except Fault α) : (Action.ofExcept outcome).SendsOnly allowed := by
  cases outcome
  · exact fail _
  · exact pure _

theorem ofShape (outcome : Except ShapeFault α) : (Action.ofShape outcome).SendsOnly allowed := by
  cases outcome
  · exact fail _
  · exact pure _

theorem ofShape_bind {outcome : Except ShapeFault α} {next : α → Action β}
    (returned : ∀ value, outcome = .ok value → (next value).SendsOnly allowed) :
    (Action.ofShape outcome >>= next).SendsOnly allowed := by
  cases outcome with
  | error why => exact fail _
  | ok value => exact returned value rfl

theorem ask (question : World → α) : (Action.ask question).SendsOnly allowed :=
  ⟨fun _ _ => .of_same rfl rfl⟩

theorem compile (job : CompilerRun) : (Action.compile job).SendsOnly allowed :=
  ⟨fun _ _ => .of_same rfl rfl⟩

theorem report (logger : Logger) (level : Level) (text : String) (fields : Table String Json) :
    (logger.report level text fields).SendsOnly allowed :=
  ⟨fun _ _ => .of_same rfl rfl⟩

theorem send {request : HttpRequest} (may : allowed request) :
    (Action.send request).SendsOnly allowed := by
  constructor
  intro world session
  refine ⟨⟨[request], rfl, ?_⟩, rfl⟩
  intro other member
  rw [List.mem_singleton.mp member]
  exact may

end Action.SendsOnly

/-! ### Faults -/

/-- If an action fails, then with an allowed fault. -/
structure Action.FailsOnly {α : Type} (allowed : Fault → Prop) (action : Action α) : Prop where
  faults : ∀ {world session fault}, (action world session).1 = .error fault → allowed fault

namespace Action.FailsOnly

variable {α β : Type} {allowed : Fault → Prop}

theorem pure (value : α) : (Pure.pure value : Action α).FailsOnly allowed := ⟨nofun⟩

theorem fail {fault : Fault} (may : allowed fault) : (Action.fail fault : Action α).FailsOnly allowed := by
  constructor
  intro _ _ other failed
  cases failed
  exact may

/-- A sequence fails as its first part fails, or as the second one does after a value of the first. -/
theorem bind_of {action : Action α} {next : α → Action β} (first : action.FailsOnly allowed)
    (second : ∀ value, (∃ world session, (action world session).1 = .ok value) →
      (next value).FailsOnly allowed) : (action >>= next).FailsOnly allowed := by
  constructor
  intro world session fault failed
  cases run : action world session with
  | mk outcome middle =>
    cases outcome with
    | error why =>
      rw [bind_of_error run] at failed
      cases failed
      exact first.faults (congrArg Prod.fst run)
    | ok value =>
      rw [bind_of_ok run] at failed
      exact (second value ⟨world, session, congrArg Prod.fst run⟩).faults failed

theorem bind {action : Action α} {next : α → Action β} (first : action.FailsOnly allowed)
    (second : ∀ value, (next value).FailsOnly allowed) : (action >>= next).FailsOnly allowed :=
  first.bind_of fun value _ => second value

theorem attempt (action : Action α) : action.attempt.FailsOnly allowed := by
  constructor
  intro _ _ _ failed
  rw [attempt_run] at failed
  cases failed

/-- What is done about a fault has to do only with faults that the action may have. -/
theorem attempt_bind {action : Action α} {next : Except Fault α → Action β}
    (limited : action.FailsOnly allowed) (returned : ∀ value, (next (.ok value)).FailsOnly allowed)
    (failed : ∀ fault, allowed fault → (next (.error fault)).FailsOnly allowed) :
    (action.attempt >>= next).FailsOnly allowed := by
  refine (attempt action).bind_of fun outcome reached => ?_
  obtain ⟨world, session, run⟩ := reached
  rw [attempt_run] at run
  cases outcome with
  | ok value => exact returned value
  | error fault => exact failed fault (limited.faults (Except.ok.inj run))

theorem mono {other : Fault → Prop} {action : Action α} (limited : action.FailsOnly allowed)
    (also : ∀ fault, allowed fault → other fault) : action.FailsOnly other :=
  ⟨fun failed => also _ (limited.faults failed)⟩

theorem ofExcept {outcome : Except Fault α} (may : ∀ fault, outcome = .error fault → allowed fault) :
    (Action.ofExcept outcome).FailsOnly allowed := by
  cases outcome with
  | error fault => exact fail (may fault rfl)
  | ok value => exact pure value

theorem ofShape {outcome : Except ShapeFault α} (may : ∀ why, allowed (.shape why)) :
    (Action.ofShape outcome).FailsOnly allowed := by
  cases outcome with
  | error why => exact fail (may why)
  | ok value => exact pure value

theorem report (logger : Logger) (level : Level) (text : String) (fields : Table String Json) :
    (logger.report level text fields).FailsOnly allowed := ⟨nofun⟩

theorem send (request : HttpRequest) : (Action.send request).FailsOnly allowed := ⟨nofun⟩

theorem ask (question : World → α) : (Action.ask question).FailsOnly allowed := ⟨nofun⟩

theorem compile (job : CompilerRun) : (Action.compile job).FailsOnly allowed := ⟨nofun⟩

theorem nextCallNumber : Action.nextCallNumber.FailsOnly allowed := ⟨nofun⟩

theorem onTree {step : Tree → Except Fault α × Tree}
    (may : ∀ tree fault, (step tree).1 = .error fault → allowed fault) :
    (Action.onTree step).FailsOnly allowed := by
  constructor
  intro _ session fault failed
  exact may session.tree fault failed

end Action.FailsOnly

end SourceAttest
