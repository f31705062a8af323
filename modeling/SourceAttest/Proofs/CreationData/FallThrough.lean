import SourceAttest.Proofs.Asking

/-!
# Falling through the ways to creation data

The ways that a chain is configured for are tried in a fixed order until one of them returns. The
main result is `resolve_falls_through`: whatever a way fails with is reported once and goes no
further, and the only fault that leaves the resolution is that there are no creation data.
-/
namespace SourceAttest.CreationData

open SourceAttest.Action

/-- For which contract creation data are looked for, and in whose name this is reported. -/
structure Inquiry where
  logger : Logger
  chain : Chain
  address : Json

/-- One way that was tried: the calls that it made and what came of it. The sessions are those before
it was announced, where it stopped, and after its failure was reported. -/
structure Attempt where
  strategy : Strategy
  calls : List HttpRequest
  outcome : Except Fault String
  before : Session
  stopped : Session
  after : Session

/-- The settings of a chain that a way to creation data needs. -/
def offers (chain : Chain) : Strategy → Bool
  | .scrape => chain.explorerPage.isTruthy && chain.explorerPattern.isTruthy
  | .graphql => chain.index.isTruthy
  | .archive => chain.archive.isTruthy

theorem configured_eq_filter (chain : Chain) :
    configured chain = [.scrape, .graphql, .archive].filter (offers chain) := by
  simp only [configured, List.filter, offers]
  cases chain.explorerPage.isTruthy && chain.explorerPattern.isTruthy <;>
    cases chain.index.isTruthy <;> cases chain.archive.isTruthy <;> rfl

namespace Inquiry

def action (inquiry : Inquiry) (strategy : Strategy) : Action String :=
  findBy strategy inquiry.chain inquiry.address

/-- What is reported before a way is tried. -/
def announcement (inquiry : Inquiry) (strategy : Strategy) : Event :=
  ⟨.info, inquiry.logger, "Fetching creation data",
    subject inquiry.chain inquiry.address ++ [("strategy", .string strategy.text)]⟩

/-- What is reported when a way has failed. -/
def complaint (inquiry : Inquiry) (strategy : Strategy) (fault : Fault) : Event :=
  ⟨.warning, inquiry.logger, "Creation data strategy failed",
    subject inquiry.chain inquiry.address ++
      [("strategy", .string strategy.text), ("err", .string fault.message)]⟩

/-- What is reported when no way is left. -/
def surrender (inquiry : Inquiry) : Event :=
  ⟨.error, inquiry.logger, "Cannot fetch creation data", subject inquiry.chain inquiry.address⟩

/-- The events of an attempt: a warning follows the announcement if and only if it has failed. -/
def reports (inquiry : Inquiry) (attempt : Attempt) : List Event :=
  inquiry.announcement attempt.strategy ::
    match attempt.outcome with
    | .ok _ => []
    | .error fault => [inquiry.complaint attempt.strategy fault]

/-- How an attempt is made. -/
structure Makes (inquiry : Inquiry) (world : World) (attempt : Attempt) : Prop where
  run : inquiry.action attempt.strategy world
      { attempt.before with
        events := attempt.before.events ++ [inquiry.announcement attempt.strategy] }
    = (attempt.outcome, attempt.stopped)
  calls : attempt.stopped.requests = attempt.before.requests ++ attempt.calls
  reports : attempt.after
    = { attempt.stopped with events := attempt.before.events ++ inquiry.reports attempt }

/-- Attempts one after the other, from a first session to a last one. -/
inductive Attempts (inquiry : Inquiry) (world : World) : Session → List Attempt → Session → Prop
  | none (session : Session) : Attempts inquiry world session [] session
  | next {attempt : Attempt} {rest : List Attempt} {final : Session}
      (makes : inquiry.Makes world attempt) (others : Attempts inquiry world attempt.after rest final) :
      Attempts inquiry world attempt.before (attempt :: rest) final

/-- What attempts on a list of ways come to, where they end in a session. -/
inductive Concludes (inquiry : Inquiry) (strategies : List Strategy) (now : Session) :
    List Attempt → Except Fault String × Session → Prop
  /-- The last attempt is the first one that returns. -/
  | found {failed : List Attempt} {last : Attempt} {data : String}
      (failures : ∀ attempt ∈ failed, ∃ fault, attempt.outcome = .error fault)
      (returned : last.outcome = .ok data)
      (inTurn : (failed ++ [last]).map Attempt.strategy <+: strategies) :
      Concludes inquiry strategies now (failed ++ [last]) (.ok data, now)
  /-- All ways, of which there may be none, have failed. -/
  | exhausted {failed : List Attempt}
      (failures : ∀ attempt ∈ failed, ∃ fault, attempt.outcome = .error fault)
      (inTurn : failed.map Attempt.strategy = strategies) :
      Concludes inquiry strategies now failed
        (.error (.creationDataNotFound inquiry.address inquiry.chain.id),
          { now with events := now.events ++ [inquiry.surrender] })

section

variable {inquiry : Inquiry} {world : World} {session now : Session}

theorem Attempts.requests_eq {attempts : List Attempt}
    (made : inquiry.Attempts world session attempts now) :
    now.requests = session.requests ++ attempts.flatMap Attempt.calls := by
  induction made with
  | none session => exact (List.append_nil _).symm
  | next makes others sent =>
    rw [sent, makes.reports, makes.calls, List.flatMap_cons, List.append_assoc]

theorem Attempts.events_eq {attempts : List Attempt}
    (made : inquiry.Attempts world session attempts now) :
    now.events = session.events ++ attempts.flatMap inquiry.reports := by
  induction made with
  | none session => exact (List.append_nil _).symm
  | next makes others reported =>
    rw [reported, makes.reports, List.flatMap_cons, List.append_assoc]

/-- A failed attempt in front of others changes neither their end nor what they come to. -/
theorem Concludes.after_failure {attempt : Attempt} {fault : Fault} {strategies : List Strategy}
    {attempts : List Attempt} {result : Except Fault String × Session}
    (failed : attempt.outcome = .error fault)
    (concludes : inquiry.Concludes strategies now attempts result) :
    inquiry.Concludes (attempt.strategy :: strategies) now (attempt :: attempts) result := by
  cases concludes with
  | @found others last data failures returned inTurn =>
    rw [← List.cons_append]
    refine .found (List.forall_mem_cons.mpr ⟨⟨fault, failed⟩, failures⟩) returned ?_
    rw [List.cons_append, List.map_cons]
    exact List.cons_prefix_cons.mpr ⟨rfl, inTurn⟩
  | exhausted failures inTurn =>
    refine .exhausted (List.forall_mem_cons.mpr ⟨⟨fault, failed⟩, failures⟩) ?_
    rw [List.map_cons, inTurn]

/-- One step: a way is announced and tried, and its failure is reported and passed over. -/
theorem tryEach_cons_run (inquiry : Inquiry) (world : World) (session : Session)
    (strategy : Strategy) (rest : List Strategy) :
    ∃ attempt : Attempt, attempt.before = session ∧ attempt.strategy = strategy ∧
      inquiry.Makes world attempt ∧
      tryEach inquiry.logger inquiry.chain inquiry.address (strategy :: rest) world session
        = match attempt.outcome with
          | .ok data => (.ok data, attempt.after)
          | .error _ => tryEach inquiry.logger inquiry.chain inquiry.address rest world attempt.after := by
  let begun : Session :=
    { session with events := session.events ++ [inquiry.announcement strategy] }
  have announced : inquiry.logger.info "Fetching creation data"
      (subject inquiry.chain inquiry.address ++ [("strategy", .string strategy.text)]) world session
    = (.ok (), begun) := rfl
  obtain ⟨⟨calls, sent⟩, silent⟩ :=
    (asksSilently_findBy strategy inquiry.chain inquiry.address).adds_calls world begun
  have attempted := attempt_run (inquiry.action strategy) world begun
  cases run : inquiry.action strategy world begun with
  | mk outcome stopped =>
    rw [run] at attempted
    rw [← action, run] at sent silent
    rw [tryEach, bind_of_ok announced, ← action, bind_of_ok attempted]
    cases outcome with
    | ok data =>
      refine ⟨⟨strategy, calls, .ok data, session, stopped, stopped⟩, rfl, rfl,
        ⟨run, sent, ?_⟩, rfl⟩
      -- The announcement is all that has been reported.
      change stopped = { stopped with events := begun.events }
      rw [← silent]
    | error fault =>
      refine ⟨⟨strategy, calls, .error fault, session, stopped,
        { stopped with events := stopped.events ++ [inquiry.complaint strategy fault] }⟩, rfl, rfl,
        ⟨run, sent, ?_⟩, rfl⟩
      rw [silent, List.append_assoc]
      rfl

/-- The induction follows the list of ways. -/
theorem tryEach_concludes (inquiry : Inquiry) (world : World) (session : Session)
    (strategies : List Strategy) :
    ∃ attempts now, inquiry.Attempts world session attempts now ∧
      inquiry.Concludes strategies now attempts
        (tryEach inquiry.logger inquiry.chain inquiry.address strategies world session) := by
  induction strategies generalizing session with
  | nil => exact ⟨[], session, .none session, .exhausted (List.forall_mem_nil _) rfl⟩
  | cons strategy rest tried =>
    obtain ⟨attempt, rfl, rfl, makes, run⟩ := tryEach_cons_run inquiry world session strategy rest
    rw [run]
    cases ended : attempt.outcome with
    | ok data =>
      refine ⟨[attempt], attempt.after, .next makes (.none _), ?_⟩
      rw [← List.nil_append [attempt]]
      exact .found (List.forall_mem_nil _) ended ⟨rest, rfl⟩
    | error fault =>
      obtain ⟨attempts, now, made, concludes⟩ := tried attempt.after
      exact ⟨attempt :: attempts, now, .next makes made, concludes.after_failure ended⟩

end

end Inquiry

/-- Creation data are looked for in the ways that the settings of the chain offer, in order and up to
the first that returns. The calls are those of the attempts, one after the other. Each failure is
reported once and then passed over, and the resolution itself fails in one way only. -/
theorem resolve_falls_through (inquiry : Inquiry) (world : World) (session : Session) :
    ∃ attempts now, inquiry.Attempts world session attempts now ∧
      now.requests = session.requests ++ attempts.flatMap Attempt.calls ∧
      now.events = session.events ++ attempts.flatMap inquiry.reports ∧
      inquiry.Concludes ([.scrape, .graphql, .archive].filter (offers inquiry.chain)) now attempts
        (resolve inquiry.logger inquiry.chain inquiry.address world session) := by
  obtain ⟨attempts, now, made, concludes⟩ :=
    inquiry.tryEach_concludes world session (configured inquiry.chain)
  refine ⟨attempts, now, made, made.requests_eq, made.events_eq, ?_⟩
  rw [← configured_eq_filter]
  exact concludes

end SourceAttest.CreationData
