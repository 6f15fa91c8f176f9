import Middleware.Reply

namespace Middleware

/-!
# What hooks may return

A hook may return nothing, a reply, a response, a request or an outcome, in any number
of optional layers, and any of these in place of a failure. Whichever it is, the reply
that it stands for carries what is found innermost, and nothing if a layer is absent or
if there is nothing innermost. So the outcome that a hook returns is the one that its
chain goes on with.
-/

namespace Reply

theorem outcome?_eq_some_iff
    {reply : Reply}
    {outcome : Outcome} :
    reply.outcome? = some outcome ↔ reply = outcome.toReply := by
  cases reply <;> cases outcome <;> simp [outcome?, Outcome.toReply]

theorem outcome?_eq_none_iff {reply : Reply} :
    reply.outcome? = none ↔ reply = .nothing := by
  cases reply <;> simp [outcome?]

/-- The validator that insists on an outcome gives what the other one does, if that is one. -/
theorem acceptOutcome_eq_ok_iff
    {reply : Reply}
    {outcome : Outcome} :
    reply.acceptOutcome = .ok outcome ↔ reply.acceptAny = .ok (some outcome) := by
  cases reply <;> simp [acceptOutcome, acceptAny, outcome?]

/-- Only a reply that carries nothing is refused, and it is handed back. -/
theorem acceptOutcome_eq_error_iff {reply refused : Reply} :
    reply.acceptOutcome = .error refused ↔ reply = .nothing ∧ refused = reply := by
  cases reply <;> simp [acceptOutcome, outcome?, eq_comm]

end Reply

/-- The types that hooks may return, failures apart. -/
inductive ReplyType where
  | unit
  | reply
  | response
  | request
  | outcome
  | optional (inner : ReplyType)

namespace ReplyType

/-- The values of a type. -/
def Carrier : ReplyType → Type
  | .unit => Unit
  | .reply => Reply
  | .response => Response
  | .request => Request
  | .outcome => Outcome
  | .optional inner => Option inner.Carrier

/-- How the values of a type stand for a reply. -/
instance toReplyOf : (type : ReplyType) → ToReply type.Carrier
  | .unit => inferInstanceAs (ToReply Unit)
  | .reply => inferInstanceAs (ToReply Reply)
  | .response => inferInstanceAs (ToReply Response)
  | .request => inferInstanceAs (ToReply Request)
  | .outcome => inferInstanceAs (ToReply Outcome)
  | .optional inner =>
      letI := toReplyOf inner
      inferInstanceAs (ToReply (Option inner.Carrier))

/-- How the values of a type stand for an answer. -/
instance toAnswerOf : (type : ReplyType) → ToAnswer type.Carrier
  | .unit => inferInstanceAs (ToAnswer Unit)
  | .reply => inferInstanceAs (ToAnswer Reply)
  | .response => inferInstanceAs (ToAnswer Response)
  | .request => inferInstanceAs (ToAnswer Request)
  | .outcome => inferInstanceAs (ToAnswer Outcome)
  | .optional inner => inferInstanceAs (ToAnswer (Option inner.Carrier))

/-- A value whose layers are all present, with a response or a request innermost. -/
inductive Holds : (type : ReplyType) → type.Carrier → Outcome → Prop where
  | response (value : Response) :
      Holds .response value (.response value)
  | request (value : Request) :
      Holds .request value (.request value)
  | outcome (value : Outcome) :
      Holds .outcome value value
  | replyResponse (value : Response) :
      Holds .reply (.response value) (.response value)
  | replyRequest (value : Request) :
      Holds .reply (.request value) (.request value)
  | present
      {inner : ReplyType}
      {value : inner.Carrier}
      {outcome : Outcome}
      (within : Holds inner value outcome) :
      Holds (.optional inner) (some value) outcome

/-- A value with a layer that is absent, or with nothing innermost. -/
inductive IsVoid : (type : ReplyType) → type.Carrier → Prop where
  | unit :
      IsVoid .unit ()
  | nothing :
      IsVoid .reply .nothing
  | absent (inner : ReplyType) :
      IsVoid (.optional inner) none
  | present
      {inner : ReplyType}
      {value : inner.Carrier}
      (within : IsVoid inner value) :
      IsVoid (.optional inner) (some value)

/-- A type in a number of optional layers. -/
def layered (type : ReplyType) : Nat → ReplyType
  | 0 => type
  | depth + 1 => .optional (type.layered depth)

/-- A value in a number of optional layers, all of them present. -/
def wrap
    (type : ReplyType)
    (value : type.Carrier) :
    (depth : Nat) →
    (type.layered depth).Carrier
  | 0 => value
  | depth + 1 => some (type.wrap value depth)

/-- The reply that a value stands for carries what the value holds. -/
theorem outcome?_toReply_eq_some_iff
    (type : ReplyType)
    (value : type.Carrier)
    (outcome : Outcome) :
    (ToReply.toReply value).outcome? = some outcome ↔ type.Holds value outcome := by
  induction type with
  | unit =>
      constructor
      · intro carried
        cases carried
      · intro holds
        cases holds
  | reply =>
      constructor
      · intro carried
        obtain rfl : value = outcome.toReply := Reply.outcome?_eq_some_iff.mp carried
        cases outcome with
        | response response => exact .replyResponse response
        | request request => exact .replyRequest request
      · intro holds
        cases holds <;> rfl
  | response =>
      constructor
      · intro carried
        obtain rfl := Option.some.inj carried
        exact .response value
      · intro holds
        cases holds
        rfl
  | request =>
      constructor
      · intro carried
        obtain rfl := Option.some.inj carried
        exact .request value
      · intro holds
        cases holds
        rfl
  | outcome =>
      constructor
      · intro carried
        obtain rfl : outcome = value := by
          cases value <;> exact (Option.some.inj carried).symm
        exact .outcome outcome
      · intro holds
        cases holds
        cases outcome <;> rfl
  | optional inner inductionHypothesis =>
      cases value with
      | none =>
          constructor
          · intro carried
            cases carried
          · intro holds
            cases holds
      | some value =>
          constructor
          · intro carried
            exact .present ((inductionHypothesis value).mp carried)
          · intro holds
            cases holds with
            | present within => exact (inductionHypothesis value).mpr within

/-- The reply that a value stands for carries nothing exactly if the value does not. -/
theorem outcome?_toReply_eq_none_iff
    (type : ReplyType)
    (value : type.Carrier) :
    (ToReply.toReply value).outcome? = none ↔ type.IsVoid value := by
  induction type with
  | unit => exact ⟨fun _ => .unit, fun _ => rfl⟩
  | reply =>
      constructor
      · intro carriesNothing
        obtain rfl : value = Reply.nothing := Reply.outcome?_eq_none_iff.mp carriesNothing
        exact .nothing
      · intro isVoid
        cases isVoid
        rfl
  | response =>
      constructor
      · intro carriesNothing
        cases carriesNothing
      · intro isVoid
        cases isVoid
  | request =>
      constructor
      · intro carriesNothing
        cases carriesNothing
      · intro isVoid
        cases isVoid
  | outcome =>
      constructor
      · intro carriesNothing
        cases value <;> cases carriesNothing
      · intro isVoid
        cases isVoid
  | optional inner inductionHypothesis =>
      cases value with
      | none => exact ⟨fun _ => .absent inner, fun _ => rfl⟩
      | some value =>
          constructor
          · intro carriesNothing
            exact .present ((inductionHypothesis value).mp carriesNothing)
          · intro isVoid
            cases isVoid with
            | present within => exact (inductionHypothesis value).mpr within

/-- Where a value stands for a reply, the answer it stands for is that reply. -/
theorem toAnswer_eq_ok_toReply
    (type : ReplyType)
    (value : type.Carrier) :
    ToAnswer.toAnswer value = .ok (ToReply.toReply value) := by
  cases type <;> rfl

/-- Layers that are present do not change what a value holds. -/
theorem Holds.wrap
    {type : ReplyType}
    {value : type.Carrier}
    {outcome : Outcome}
    (holds : type.Holds value outcome)
    (depth : Nat) :
    (type.layered depth).Holds (type.wrap value depth) outcome := by
  induction depth with
  | zero => exact holds
  | succ depth inductionHypothesis => exact .present inductionHypothesis

/--
Whatever type a hook returns a value of, the reply that the value stands for carries
exactly the response or the request that it holds, and nothing if a layer of it is
absent or nothing is innermost. The answer that the value stands for is that reply, also
where it is returned in place of a failure, and a failure keeps its cause. The validator
that lets hooks go on never refuses and gives the outcome that the value holds, if there
is one. The other one gives the same, and refuses only the reply that carries nothing.
So an outcome that is returned in any number of layers is accepted unchanged.
-/
theorem toReply_carries_innermost :
    (∀ (type : ReplyType) (value : type.Carrier),
      let reply := ToReply.toReply value
      (reply = .nothing ↔ type.IsVoid value) ∧
        (∀ response, reply = .response response ↔ type.Holds value (.response response)) ∧
        (∀ request, reply = .request request ↔ type.Holds value (.request request)) ∧
        ToAnswer.toAnswer value = .ok reply ∧
        ToAnswer.toAnswer (Except.ok value : Except Cause type.Carrier) = .ok reply ∧
        (∀ cause,
          ToAnswer.toAnswer (Except.error cause : Except Cause type.Carrier) = .error cause) ∧
        (∃ carried,
          reply.acceptAny = .ok carried ∧
            (carried = none ↔ reply = .nothing) ∧
            ∀ outcome, carried = some outcome ↔ type.Holds value outcome) ∧
        (∀ outcome, reply.acceptOutcome = .ok outcome ↔ type.Holds value outcome) ∧
        ∀ refused, reply.acceptOutcome = .error refused ↔ reply = .nothing ∧ refused = reply) ∧
      ∀ (depth : Nat) (outcome : Outcome),
        let value := ReplyType.outcome.wrap outcome depth
        (ToReply.toReply value).acceptAny = .ok (some outcome) ∧
          (ToReply.toReply value).acceptOutcome = .ok outcome := by
  have accepts :
      ∀ (type : ReplyType) (value : type.Carrier) (outcome : Outcome),
        (ToReply.toReply value).acceptOutcome = .ok outcome ↔ type.Holds value outcome := by
    intro type value outcome
    rw [← type.outcome?_toReply_eq_some_iff, Reply.acceptOutcome_eq_ok_iff, Reply.acceptAny,
      Except.ok.injEq]
  constructor
  · intro type value reply
    have holds_iff := type.outcome?_toReply_eq_some_iff value
    refine
      ⟨?nothing, ?response, ?request, type.toAnswer_eq_ok_toReply value, rfl, fun _ => rfl,
        ⟨reply.outcome?, rfl, Reply.outcome?_eq_none_iff, holds_iff⟩, accepts type value,
        fun _ => Reply.acceptOutcome_eq_error_iff⟩
    case nothing =>
      exact Reply.outcome?_eq_none_iff.symm.trans (type.outcome?_toReply_eq_none_iff value)
    case response =>
      intro response
      exact Reply.outcome?_eq_some_iff.symm.trans (holds_iff (.response response))
    case request =>
      intro request
      exact Reply.outcome?_eq_some_iff.symm.trans (holds_iff (.request request))
  · intro depth outcome value
    have holds := (Holds.outcome outcome).wrap depth
    have accepted := (accepts _ _ outcome).mpr holds
    exact ⟨Reply.acceptOutcome_eq_ok_iff.mp accepted, accepted⟩

/-- A layer that is absent within one that is present stands for no reply. -/
example : ToReply.toReply (some none : Option (Option Response)) = .nothing :=
  rfl

end ReplyType

end Middleware
