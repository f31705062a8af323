import SourceAttest.Proofs.Json.Shape
import SourceAttest.Proofs.Network.Rpc

/-!
# What a node's reply comes to

A reply is outside text. It delivers a result (`Delivers`), it makes the call fail as calls of nodes
fail (`Refuses`), or it has a body that is no object and gets past the checks, so that the call ends
with a fault of another kind (`Strays`). Every reply is of one of these sorts (`cases_of_reply`), and
the main result `call_outcome` says that each sort has its own outcome.
-/
namespace SourceAttest

namespace Rpc

/-! ### Replies -/

/-- A name is mentioned where there are no members: in a text, or as an item of a list. -/
inductive Mentions (name : String) : Json → Prop
  | text {content : String} (within : name.toList <:+: content.toList) :
      Mentions name (.string content)
  | halves {content : UnpairedText} (within : name.toList <:+: content.shown.toList) :
      Mentions name (.unpaired content)
  | item {items : List Json} (listed : Json.string name ∈ items) : Mentions name (.array items)

/-- An accepted answer whose body is an object with this result and without an error. -/
inductive Delivers : HttpReply → Json → Prop
  | result {phrase text : String} {members : List (String × Json)} {result : Json}
      (read : Json.read text = .ok (.object members)) (noError : Table.get? "error" members = none)
      (found : Table.get? "result" members = some result) :
      Delivers (.answered 200 phrase text) result

/-- A reply that is reported as the failure of a call, and as which one. -/
inductive Refuses (method : Json) : HttpReply → RpcFault → Prop
  | unanswered (reason : String) : Refuses method (.failed reason) (.network method reason)
  | status {code : Int} {phrase text : String} (bad : code ≠ 200) :
      Refuses method (.answered code phrase text) (.status method code)
  | malformed {phrase text : String} {why : Json.ReadError} (read : Json.read text = .error why)
      (malformed : why.isMalformed = true) :
      Refuses method (.answered 200 phrase text) (.network method why.message)
  | overlong {phrase text : String} {digits : Nat}
      (read : Json.read text = .error (.overlongInteger digits)) :
      Refuses method (.answered 200 phrase text) (.unreadable method (.overlongInteger digits))
  | reported {phrase text : String} {members : List (String × Json)} {error : Json}
      (read : Json.read text = .ok (.object members))
      (found : Table.get? "error" members = some error) :
      Refuses method (.answered 200 phrase text) (.reported method error)
  | noResult {phrase text : String} {members : List (String × Json)}
      (read : Json.read text = .ok (.object members)) (noError : Table.get? "error" members = none)
      (absent : Table.get? "result" members = none) :
      Refuses method (.answered 200 phrase text) (.noResult method)
  | unmentioned {phrase text : String} {body : Json} (read : Json.read text = .ok body)
      (parted : body.isSingle = false) (noObject : ∀ members, body ≠ .object members)
      (silent : ∀ name ∈ ["error", "result"], ¬ Mentions name body) :
      Refuses method (.answered 200 phrase text) (.noResult method)

/-- A reply that no check is made for, and the kind of fault that it ends in: a body that is nested
too deeply, one without parts, and a text or list that mentions what members are looked for. -/
inductive Strays : HttpReply → FaultKind → Prop
  | tooDeep {phrase text : String} {container : Json.Container}
      (read : Json.read text = .error (.tooDeep container)) :
      Strays (.answered 200 phrase text) .depth
  | single {phrase text : String} {body : Json} (read : Json.read text = .ok body)
      (single : body.isSingle = true) : Strays (.answered 200 phrase text) .type
  | mentioned {phrase text : String} {body : Json} {name : String}
      (read : Json.read text = .ok body) (known : name ∈ ["error", "result"])
      (mentions : Mentions name body) : Strays (.answered 200 phrase text) .type

theorem cases_of_reply (method : Json) (reply : HttpReply) :
    (∃ result, Delivers reply result) ∨ (∃ why, Refuses method reply why) ∨
      ∃ kind, Strays reply kind := by
  cases reply with
  | failed reason => exact .inr (.inl ⟨_, .unanswered reason⟩)
  | answered code phrase text =>
    by_cases accepted : code = 200
    case neg => exact .inr (.inl ⟨_, .status accepted⟩)
    subst accepted
    -- The body is read, then searched for the two names, and only an object is looked into.
    cases read : Json.read text with
    | error why =>
      cases why with
      | malformed => exact .inr (.inl ⟨_, .malformed read rfl⟩)
      | overlongInteger digits => exact .inr (.inl ⟨_, .overlong read⟩)
      | tooDeep container => exact .inr (.inr ⟨_, .tooDeep read⟩)
    | ok body =>
      by_cases single : body.isSingle = true
      · exact .inr (.inr ⟨_, .single read single⟩)
      by_cases isObject : ∃ members, body = .object members
      · obtain ⟨members, rfl⟩ := isObject
        cases error : Table.get? "error" members with
        | some error' => exact .inr (.inl ⟨_, .reported read error⟩)
        | none =>
          cases found : Table.get? "result" members with
          | some result => exact .inl ⟨result, .result read error found⟩
          | none => exact .inr (.inl ⟨_, .noResult read error found⟩)
      · by_cases mentioned : ∃ name ∈ ["error", "result"], Mentions name body
        · obtain ⟨name, known, mentions⟩ := mentioned
          exact .inr (.inr ⟨_, .mentioned read known mentions⟩)
        · have noObject (members : List (String × Json)) : body ≠ .object members :=
            fun same => isObject ⟨members, same⟩
          have silent (name : String) (known : name ∈ ["error", "result"]) : ¬ Mentions name body :=
            fun mentions => mentioned ⟨name, known, mentions⟩
          exact .inr (.inl ⟨_, .unmentioned read (Bool.eq_false_iff.mpr single) noObject silent⟩)

/-- A reply that delivers is not nested too deeply. -/
theorem Delivers.not_deep {reply : HttpReply} {result : Json} (delivers : Delivers reply result) :
    ¬Strays reply .depth := by
  intro deep
  cases deep with
  | tooDeep read =>
    cases delivers with
    | result read' noError found => cases read.symm.trans read'

/-- Nor is one that is refused. -/
theorem Refuses.not_deep {method : Json} {reply : HttpReply} {why : RpcFault}
    (refuses : Refuses method reply why) : ¬Strays reply .depth := by
  intro deep
  cases deep with
  | tooDeep read =>
    cases refuses with
    | status bad => exact bad rfl
    | malformed read' malformed =>
      cases read.symm.trans read'
      cases malformed
    | overlong read' | reported read' | noResult read' | unmentioned read' => cases read.symm.trans read'

/-! ### Bodies -/

section

variable {name : String} {body : Json}

theorem Mentions.mentions_eq (mentions : Mentions name body) : body.mentions name = .ok true := by
  cases mentions with
  | text within => exact congrArg Except.ok (Text.occursIn_iff.mpr within)
  | halves within => exact congrArg Except.ok (Text.occursIn_iff.mpr within)
  | item listed =>
    apply congrArg Except.ok
    exact List.any_eq_true.mpr ⟨_, listed, Json.equals_string_iff.mpr rfl⟩

theorem Mentions.parted (mentions : Mentions name body) : body.isSingle = false := by
  cases mentions <;> rfl

theorem Mentions.ne_object (mentions : Mentions name body) (members : List (String × Json)) :
    body ≠ .object members := by
  rintro rfl
  cases mentions

/-- Nothing can be taken by its name out of a text or a list. -/
theorem Mentions.member_eq (mentions : Mentions name body) :
    ∃ why, body.member name = .error why ∧ why.kind = .type := by
  cases mentions with
  | text within => exact ⟨_, rfl, rfl⟩
  | halves within => exact ⟨_, rfl, rfl⟩
  | item listed => exact ⟨_, rfl, rfl⟩

theorem mentions_eq_false (parted : body.isSingle = false)
    (noObject : ∀ members, body ≠ .object members) (silent : ¬ Mentions name body) :
    body.mentions name = .ok false := by
  cases body with
  | string content =>
    apply congrArg Except.ok
    exact Bool.eq_false_iff.mpr fun occurs => silent (.text (Text.occursIn_iff.mp occurs))
  | unpaired content =>
    apply congrArg Except.ok
    exact Bool.eq_false_iff.mpr fun occurs => silent (.halves (Text.occursIn_iff.mp occurs))
  | array items =>
    apply congrArg Except.ok
    apply List.any_eq_false.mpr
    rintro item listed same
    cases Json.equals_string_iff.mp same
    exact silent (.item listed)
  | object members => exact absurd rfl (noObject members)
  | _ => cases parted

theorem mentions_of_isSingle (single : body.isSingle = true) :
    body.mentions name = .error (.notSearchable body.kindName) := by
  cases body with
  | string content => cases single
  | unpaired content => cases single
  | array items => cases single
  | object members => cases single
  | _ => rfl

end

section

variable {method body : Json}

theorem bodyOf_of_read {phrase text : String} (read : Json.read text = .ok body) :
    bodyOf method (.answered 200 phrase text) = .ok body := by
  rw [bodyOf, if_neg (not_not_intro rfl), read]

theorem resultOf_of_unsearchable {why : ShapeFault} (failed : body.mentions "error" = .error why) :
    resultOf method body = .error (.shape why) := by
  rw [resultOf, failed]
  rfl

theorem resultOf_of_error {error : Except ShapeFault Json} (mentions : body.mentions "error" = .ok true)
    (found : body.member "error" = error) :
    resultOf method body
      = (error.mapError .shape).bind fun error => .error (.rpc (.reported method error)) := by
  rw [resultOf, mentions, found]
  rfl

theorem resultOf_of_result {result : Except ShapeFault Json}
    (noError : body.mentions "error" = .ok false) (mentions : body.mentions "result" = .ok true)
    (found : body.member "result" = result) : resultOf method body = result.mapError .shape := by
  rw [resultOf, noError, mentions, found]
  rfl

theorem resultOf_of_neither (noError : body.mentions "error" = .ok false)
    (noResult : body.mentions "result" = .ok false) :
    resultOf method body = .error (.rpc (.noResult method)) := by
  rw [resultOf, noError, noResult]
  rfl

/-- The members of an object are what it mentions. -/
theorem mentions_object {members : List (String × Json)} {name : String} :
    (Json.object members).mentions name = .ok (Table.get? name members).isSome := rfl

theorem member_object {members : List (String × Json)} {name : String} {value : Json}
    (found : Table.get? name members = some value) :
    (Json.object members).member name = .ok value :=
  Json.member_eq_ok_iff.mpr (Json.at?_eq_some_iff.mpr ⟨members, rfl, found⟩)

theorem resultOf_of_mentioned {name : String} (known : name ∈ ["error", "result"])
    (mentions : Mentions name body) :
    ∃ why, resultOf method body = .error (.shape why) ∧ why.kind = .type := by
  by_cases error : Mentions "error" body
  · obtain ⟨why, failed, kind⟩ := error.member_eq
    exact ⟨why, resultOf_of_error error.mentions_eq failed, kind⟩
  · -- The error is looked for first, so here it is the result that is mentioned.
    have isResult : name = "result" := by
      rcases List.mem_cons.mp known with rfl | last
      · exact absurd mentions error
      · exact List.mem_singleton.mp last
    subst isResult
    obtain ⟨why, failed, kind⟩ := mentions.member_eq
    have noError := mentions_eq_false mentions.parted mentions.ne_object error
    exact ⟨why, resultOf_of_result noError mentions.mentions_eq failed, kind⟩

end

/-! ### Outcomes -/

section

variable {method : Json} {reply : HttpReply}

theorem answer_of_delivers {result : Json} (delivers : Delivers reply result) :
    (bodyOf method reply).bind (resultOf method) = .ok result := by
  cases delivers with
  | result read noError found =>
    rw [bodyOf_of_read read]
    apply resultOf_of_result _ _ (member_object found)
    · rw [mentions_object, noError]
      rfl
    · rw [mentions_object, found]
      rfl

theorem answer_of_refuses {why : RpcFault} (refuses : Refuses method reply why) :
    (bodyOf method reply).bind (resultOf method) = .error (.rpc why) := by
  -- The first four never get as far as a body; the others are told by what the body mentions.
  cases refuses with
  | unanswered reason => rfl
  | status bad =>
    rw [bodyOf, if_pos bad]
    rfl
  | @malformed _ _ why read malformed =>
    rw [bodyOf, if_neg (not_not_intro rfl), read]
    cases why with
    | malformed => rfl
    | _ => cases malformed
  | overlong read =>
    rw [bodyOf, if_neg (not_not_intro rfl), read]
    rfl
  | reported read found =>
    rw [bodyOf_of_read read]
    apply resultOf_of_error _ (member_object found)
    rw [mentions_object, found]
    rfl
  | noResult read noError absent =>
    rw [bodyOf_of_read read]
    apply resultOf_of_neither
    · rw [mentions_object, noError]
      rfl
    · rw [mentions_object, absent]
      rfl
  | unmentioned read parted noObject silent =>
    rw [bodyOf_of_read read]
    apply resultOf_of_neither
    · exact mentions_eq_false parted noObject (silent _ (by simp))
    · exact mentions_eq_false parted noObject (silent _ (by simp))

theorem answer_of_strays (method : Json) {kind : FaultKind} (strays : Strays reply kind) :
    ∃ fault, (bodyOf method reply).bind (resultOf method) = .error fault ∧ fault.kind = kind ∧
      ∀ why, fault ≠ .rpc why := by
  cases strays with
  | @tooDeep _ _ container read =>
    refine ⟨.unreadable (.tooDeep container), ?_, rfl, ?_⟩
    · rw [bodyOf, if_neg (not_not_intro rfl), read]
      rfl
    · rintro _ ⟨⟩
  | single read single =>
    rw [bodyOf_of_read read]
    refine ⟨_, resultOf_of_unsearchable (mentions_of_isSingle single), rfl, ?_⟩
    rintro _ ⟨⟩
  | mentioned read known mentions =>
    rw [bodyOf_of_read read]
    obtain ⟨why, failed, kind⟩ := resultOf_of_mentioned known mentions
    refine ⟨_, failed, kind, ?_⟩
    rintro _ ⟨⟩

theorem answer_eq_ok_iff {result : Json} :
    (bodyOf method reply).bind (resultOf method) = .ok result ↔ Delivers reply result := by
  refine ⟨fun answered => ?_, answer_of_delivers⟩
  rcases cases_of_reply method reply with ⟨other, delivers⟩ | ⟨why, refuses⟩ | ⟨kind, strays⟩
  · cases (answer_of_delivers delivers).symm.trans answered
    exact delivers
  · cases (answer_of_refuses refuses).symm.trans answered
  · obtain ⟨fault, failed, -⟩ := answer_of_strays method strays
    cases failed.symm.trans answered

/-- An answer that fails does so in one of three ways. -/
theorem kind_of_answer {fault : Fault}
    (failed : (bodyOf method reply).bind (resultOf method) = .error fault) :
    fault.kind ∈ [FaultKind.rpc, .depth, .type] := by
  rcases cases_of_reply method reply with ⟨result, delivers⟩ | ⟨why, refuses⟩ | ⟨kind, strays⟩
  · cases (answer_of_delivers delivers).symm.trans failed
  · cases (answer_of_refuses refuses).symm.trans failed
    exact List.mem_cons_self
  · obtain ⟨other, failed', isKind, -⟩ := answer_of_strays method strays
    cases failed'.symm.trans failed
    rw [isKind]
    cases strays <;> decide

end

/-- What a call is answered by. -/
def replyTo (endpoint : Endpoint) (method params timeout : Json) (world : World) (session : Session) :
    HttpReply :=
  world.network session.requests (requestOf endpoint method params timeout (session.rpcCalls + 1))

/-- A call returns the result if one is delivered, and fails as calls of nodes fail if the reply is
refused. There is a third outcome: on a reply that strays it ends with a fault of another kind. -/
theorem call_outcome (endpoint : Endpoint) (method params timeout : Json) (world : World)
    (session : Session) :
    (∀ result, (call endpoint method params timeout world session).1 = .ok result ↔
      Delivers (replyTo endpoint method params timeout world session) result) ∧
    (∀ why, (call endpoint method params timeout world session).1 = .error (.rpc why) ↔
      Refuses method (replyTo endpoint method params timeout world session) why) ∧
    ∀ kind, (∃ fault, (call endpoint method params timeout world session).1 = .error fault ∧
        fault.kind = kind ∧ ∀ why, fault ≠ .rpc why) ↔
      Strays (replyTo endpoint method params timeout world session) kind := by
  rw [call_run]
  apply Outcome.iff_of_cases (fun why other same => Fault.rpc.inj same) (cases_of_reply method _)
  · exact fun result delivers => answer_of_delivers delivers
  · exact fun why refuses => answer_of_refuses refuses
  · exact fun kind strays => answer_of_strays method strays

/-- A node that gives this text as its answer to everything. -/
def answering (text : String) : World :=
  ⟨fun _ _ => .answered 200 "OK" text, [], fun _ => .notFound, []⟩

/-- A node that answers `null` makes a call end with a fault that is not one of calls. -/
theorem call_of_null_body :
    let endpoint : Endpoint := .string "http://node"
    let method : Json := .string "eth_blockNumber"
    (call endpoint method (.array []) defaultTimeout (answering "null") (Session.fresh [])).1
        = .error (.shape (.notSearchable "NoneType")) ∧
      (Fault.shape (.notSearchable "NoneType")).kind ≠ .rpc := by
  exact ⟨rfl, by decide⟩

/-! ### Probing -/

/-- A node is reachable if it delivers anything, and out of reach if it refuses. A reply that strays is
no answer to the question: probing ends with the same fault as the call. -/
theorem isReachable_outcome (endpoint : Endpoint) (timeout : Json) (world : World) (session : Session)
    {reply : HttpReply} (replied : replyTo endpoint (.string "eth_blockNumber") (.array []) timeout
      world session = reply) :
    (∀ result, Delivers reply result → (isReachable endpoint timeout world session).1 = .ok true) ∧
    (∀ why, Refuses (.string "eth_blockNumber") reply why →
      (isReachable endpoint timeout world session).1 = .ok false) ∧
    ∀ kind, Strays reply kind →
      ∃ fault, (isReachable endpoint timeout world session).1 = .error fault ∧ fault.kind = kind := by
  have called := call_run endpoint (.string "eth_blockNumber") (.array []) timeout world session
  rw [← replyTo, replied] at called
  have run := Action.attempt_run (call endpoint (.string "eth_blockNumber") (.array []) timeout) world
    session
  rw [called] at run
  refine ⟨fun result delivers => ?_, fun why refuses => ?_, fun kind strays => ?_⟩
  · rw [isReachable, Action.bind_of_ok run, answer_of_delivers delivers]
    rfl
  · rw [isReachable, Action.bind_of_ok run, answer_of_refuses refuses]
    rfl
  · obtain ⟨fault, failed, isKind, -⟩ := answer_of_strays (.string "eth_blockNumber") strays
    have other : fault.kind ≠ .rpc := by
      rw [isKind]
      cases strays <;> decide
    refine ⟨fault, ?_, isKind⟩
    rw [isReachable, Action.bind_of_ok run, failed]
    dsimp only
    rw [if_neg other]
    rfl

/-- Probing is one call, whatever it finds. -/
theorem session_of_isReachable (endpoint : Endpoint) (timeout : Json) (world : World) (session : Session) :
    (isReachable endpoint timeout world session).2
      = afterCall endpoint (.string "eth_blockNumber") (.array []) timeout session := by
  have run := Action.attempt_run (call endpoint (.string "eth_blockNumber") (.array []) timeout) world
    session
  rw [call_run] at run
  rw [isReachable, Action.bind_of_ok run]
  dsimp only
  generalize (bodyOf _ _).bind _ = answer
  cases answer with
  | ok result => rfl
  | error fault =>
    dsimp only
    split <;> rfl

end Rpc

end SourceAttest
