import Middleware.Telemetry.Observer

namespace Middleware

/-!
# What a download shows of itself

Among the signals of a download are those of its hooks, its transport and its
observer. What is left without them is the outline of the download: its calls
and what they come back with, the events it hands to the observer, and the
lines it logs itself when a hook settles a chain.
-/

variable {σ ν : Type}

/-- The messages of the lines that say that a hook has settled a chain. -/
def settledMessages : List String :=
  ["request chain short-circuited",
    "exception resolved",
    "response chain returned a request"]

namespace Signal

/-- The event that a signal hands to the observer. -/
def event? : Signal ν → Option Event
  | .event value => some value
  | _ => none

/-- Whether a signal belongs to the outline of a download. -/
def isOwn : Signal ν → Bool
  | .call _ | .returned _ | .event _ => true
  | .note _ => false
  | .log line => line.message ∈ settledMessages

end Signal

/-- The phase and the middleware of a hook call; absent for a call of the transport. -/
def Call.hook? : Call → Option (Phase × String)
  | .request middleware _ _ => some (.request, middleware)
  | .response middleware _ _ _ => some (.response, middleware)
  | .exception middleware _ _ _ => some (.exception, middleware)
  | .transport _ => none

/-- The middleware of a call, if it is the call of a hook of a phase. -/
def Call.hookIn?
    (phase : Phase)
    (call : Call) :
    Option String :=
  match call.hook? with
  | some (called, middleware) => if called = phase then some middleware else none
  | none => none

/-- The middleware that a signal calls, if it is the call of a hook of a phase. -/
def Signal.hookCallIn?
    (phase : Phase) :
    Signal ν →
    Option String
  | .call value => value.hookIn? phase
  | _ => none

/-- What a download shows of itself. -/
def outline (signals : List (Signal ν)) : List (Signal ν) :=
  signals.filter Signal.isOwn

/-- The events among signals. -/
def eventsIn (signals : List (Signal ν)) : List Event :=
  signals.filterMap Signal.event?

/-- The middlewares whose hooks of a phase are called, in the order of the calls. -/
def hookCallsIn
    (phase : Phase)
    (signals : List (Signal ν)) :
    List String :=
  signals.filterMap (Signal.hookCallIn? phase)

/-- What the call before some signals comes back with, if it does. -/
def replyTo : List (Signal ν) → Option Return
  | [] => none
  | .returned value :: _ => some value
  | .call _ :: _ => none
  | .event _ :: rest => replyTo rest
  | .note _ :: rest => replyTo rest
  | .log _ :: rest => replyTo rest

/-- The calls among signals, each with what it comes back with, if it does. -/
def callsIn : List (Signal ν) → List (Call × Option Return)
  | [] => []
  | .call call :: rest => (call, replyTo rest) :: callsIn rest
  | .returned _ :: rest => callsIn rest
  | .event _ :: rest => callsIn rest
  | .note _ :: rest => callsIn rest
  | .log _ :: rest => callsIn rest

@[simp] theorem outline_append
    (first second : List (Signal ν)) :
    outline (first ++ second) = outline first ++ outline second := by
  simp [outline]

@[simp] theorem outline_notes (notes : List ν) :
    outline (notes.map Signal.note) = [] := by
  simp [outline, Signal.isOwn]

@[simp] theorem eventsIn_append
    (first second : List (Signal ν)) :
    eventsIn (first ++ second) = eventsIn first ++ eventsIn second := by
  simp [eventsIn]

@[simp] theorem outline_nil :
    outline ([] : List (Signal ν)) = [] :=
  rfl

@[simp] theorem outline_call
    (call : Call)
    (rest : List (Signal ν)) :
    outline (.call call :: rest) = .call call :: outline rest :=
  rfl

@[simp] theorem outline_returned
    (value : Return)
    (rest : List (Signal ν)) :
    outline (.returned value :: rest) = .returned value :: outline rest :=
  rfl

@[simp] theorem outline_event
    (event : Event)
    (rest : List (Signal ν)) :
    outline (.event event :: rest) = .event event :: outline rest :=
  rfl

@[simp] theorem outline_note
    (note : ν)
    (rest : List (Signal ν)) :
    outline (.note note :: rest) = outline rest :=
  rfl

theorem outline_log
    (line : LogLine)
    (rest : List (Signal ν)) :
    outline (.log line :: rest) =
      if line.message ∈ settledMessages then
        .log line :: outline rest
      else
        outline rest := by
  simp [outline, List.filter_cons, Signal.isOwn]

@[simp] theorem eventsIn_nil :
    eventsIn ([] : List (Signal ν)) = [] :=
  rfl

@[simp] theorem eventsIn_call
    (call : Call)
    (rest : List (Signal ν)) :
    eventsIn (.call call :: rest) = eventsIn rest :=
  rfl

@[simp] theorem eventsIn_returned
    (value : Return)
    (rest : List (Signal ν)) :
    eventsIn (.returned value :: rest) = eventsIn rest :=
  rfl

@[simp] theorem eventsIn_event
    (event : Event)
    (rest : List (Signal ν)) :
    eventsIn (.event event :: rest) = event :: eventsIn rest :=
  rfl

@[simp] theorem eventsIn_note
    (note : ν)
    (rest : List (Signal ν)) :
    eventsIn (.note note :: rest) = eventsIn rest :=
  rfl

@[simp] theorem eventsIn_log
    (line : LogLine)
    (rest : List (Signal ν)) :
    eventsIn (.log line :: rest) = eventsIn rest :=
  rfl

@[simp] theorem hookCallsIn_nil (phase : Phase) :
    hookCallsIn phase ([] : List (Signal ν)) = [] :=
  rfl

@[simp] theorem hookCallsIn_call
    (phase : Phase)
    (call : Call)
    (rest : List (Signal ν)) :
    hookCallsIn phase (.call call :: rest) =
      (call.hookIn? phase).toList ++ hookCallsIn phase rest := by
  cases called : call.hookIn? phase <;>
    simp [hookCallsIn, Signal.hookCallIn?, called]

@[simp] theorem hookCallsIn_returned
    (phase : Phase)
    (value : Return)
    (rest : List (Signal ν)) :
    hookCallsIn phase (.returned value :: rest) = hookCallsIn phase rest :=
  rfl

@[simp] theorem hookCallsIn_event
    (phase : Phase)
    (event : Event)
    (rest : List (Signal ν)) :
    hookCallsIn phase (.event event :: rest) = hookCallsIn phase rest :=
  rfl

@[simp] theorem hookCallsIn_note
    (phase : Phase)
    (note : ν)
    (rest : List (Signal ν)) :
    hookCallsIn phase (.note note :: rest) = hookCallsIn phase rest :=
  rfl

@[simp] theorem hookCallsIn_log
    (phase : Phase)
    (line : LogLine)
    (rest : List (Signal ν)) :
    hookCallsIn phase (.log line :: rest) = hookCallsIn phase rest :=
  rfl

@[simp] theorem hookCallsIn_append
    (phase : Phase)
    (first second : List (Signal ν)) :
    hookCallsIn phase (first ++ second) =
      hookCallsIn phase first ++ hookCallsIn phase second := by
  simp [hookCallsIn]

/-- The outline keeps all that is read off signals of the download itself. -/
theorem filterMap_outline
    {α : Type}
    {read : Signal ν → Option α}
    (readsOwn : ∀ signal, signal.isOwn = false → read signal = none)
    (signals : List (Signal ν)) :
    (outline signals).filterMap read = signals.filterMap read := by
  induction signals with
  | nil =>
      rfl
  | cons signal rest inductionHypothesis =>
      cases own : signal.isOwn with
      | true =>
          have kept : outline (signal :: rest) = signal :: outline rest := by
            simp [outline, own]
          rw [kept, List.filterMap_cons, List.filterMap_cons, inductionHypothesis]
      | false =>
          have left : outline (signal :: rest) = outline rest := by
            simp [outline, own]
          rw [left, inductionHypothesis, List.filterMap_cons_none (readsOwn signal own)]

/-- The outline keeps all events. -/
@[simp] theorem eventsIn_outline
    (signals : List (Signal ν)) :
    eventsIn (outline signals) = eventsIn signals := by
  apply filterMap_outline
  intro signal notOwn
  cases signal with
  | event event => cases notOwn
  | _ => rfl

/-- The outline keeps all hook calls. -/
@[simp] theorem hookCallsIn_outline
    (phase : Phase)
    (signals : List (Signal ν)) :
    hookCallsIn phase (outline signals) = hookCallsIn phase signals := by
  apply filterMap_outline
  intro signal notOwn
  cases signal with
  | call call => cases notOwn
  | _ => rfl

/-- The outline keeps what calls come back with. -/
@[simp] theorem replyTo_outline
    (signals : List (Signal ν)) :
    replyTo (outline signals) = replyTo signals := by
  induction signals with
  | nil =>
      rfl
  | cons signal rest inductionHypothesis =>
      cases signal with
      | log line =>
          rw [outline_log]
          split <;> simp [replyTo, inductionHypothesis]
      | _ => simp [replyTo, inductionHypothesis]

/-- The outline keeps all calls. -/
@[simp] theorem callsIn_outline
    (signals : List (Signal ν)) :
    callsIn (outline signals) = callsIn signals := by
  induction signals with
  | nil =>
      rfl
  | cons signal rest inductionHypothesis =>
      cases signal with
      | log line =>
          rw [outline_log]
          split <;> simp [callsIn, inductionHypothesis]
      | _ => simp [callsIn, inductionHypothesis]

/-- Signals that begin without a return leave open what was open before them. -/
theorem replyTo_append
    (first : List (Signal ν))
    {second : List (Signal ν)}
    (noReturn : replyTo second = none) :
    replyTo (first ++ second) = replyTo first := by
  induction first with
  | nil =>
      exact noReturn
  | cons signal rest inductionHypothesis =>
      cases signal <;> simp [replyTo, inductionHypothesis]

/-- The calls of two stretches of signals, where no return goes from one to the other. -/
theorem callsIn_append
    (first : List (Signal ν))
    {second : List (Signal ν)}
    (noReturn : replyTo second = none) :
    callsIn (first ++ second) = callsIn first ++ callsIn second := by
  induction first with
  | nil =>
      rfl
  | cons signal rest inductionHypothesis =>
      cases signal <;>
        simp [callsIn, inductionHypothesis, replyTo_append rest noReturn]

/-- The messages of the lines that observers log about the events they are handed. -/
def observerMessages : List String :=
  ["middleware method complete",
    "middleware chain complete",
    "observer backend panicked, event dropped"]

namespace Observer

/-- A view of signals that leaves out what observers emit: their notes and their lines. -/
structure IsForeignTo (keeps : Signal ν → Bool) : Prop where
  notes : ∀ note, keeps (.note note) = false
  lines : ∀ line, line.message ∈ observerMessages → keeps (.log line) = false

variable {keeps : Signal ν → Bool}

/-- A contained delivery adds at most the warning about a panic. -/
theorem filter_contained
    {message : String}
    (dropsWarning : ∀ line, line.message = message → keeps (.log line) = false)
    (receiver : String)
    (event : Event)
    {delivery : Delivery σ (Signal ν)}
    (delivered : delivery.signals.filter keeps = []) :
    (contained message receiver event delivery).1.filter keeps = [] := by
  rcases delivery with ⟨signals, state, panic⟩
  cases panic with
  | none =>
      exact delivered
  | some text =>
      have dropped := dropsWarning (panicWarning message receiver event) rfl
      simp only [contained, List.filter_append]
      simp [delivered, dropped]

mutual

/-- Nothing that an observer emits is in a view that leaves observers out. -/
theorem filter_deliver
    (foreign : IsForeignTo keeps)
    (event : Event)
    (elapsed : Duration)
    (observer : Observer σ ν)
    (state : σ) :
    (observer.deliver event elapsed state).signals.filter keeps = [] := by
  match observer with
  | .silent =>
      rfl
  | .log =>
      have dropped : keeps (.log (event.logLine elapsed)) = false := by
        apply foreign.lines
        cases event <;>
          simp [Event.logLine, MethodReport.logLine, ChainReport.logLine, observerMessages]
      simp [deliver, dropped]
  | .sink target =>
      simp [deliver, foreign.notes]
  | .fanOut backends =>
      simpa [deliver] using filter_deliverAll foreign event elapsed backends state

/-- Nothing that backends emit is in a view that leaves observers out. -/
theorem filter_deliverAll
    (foreign : IsForeignTo keeps)
    (event : Event)
    (elapsed : Duration)
    (backends : List (Observer σ ν))
    (state : σ) :
    (deliverAll event elapsed backends state).signals.filter keeps = [] := by
  match backends with
  | [] =>
      rfl
  | backend :: rest =>
      have dropsWarning :
          ∀ line : LogLine,
            line.message = "observer backend panicked, event dropped" →
              keeps (.log line) = false := by
        intro line sameMessage
        apply foreign.lines
        simp [sameMessage, observerMessages]
      have delivered := filter_deliver foreign event elapsed backend state
      simp only [deliverAll, List.filter_append]
      rw [filter_contained dropsWarning backend.name event delivered]
      simpa using filter_deliverAll foreign event elapsed rest _

end

/-- The outline of a download leaves observers out. -/
theorem isForeignTo_isOwn : IsForeignTo (Signal.isOwn : Signal ν → Bool) where
  notes _ := rfl
  lines line isObservers := by
    have notSettled : ∀ message ∈ observerMessages, message ∉ settledMessages := by decide
    simpa [Signal.isOwn] using notSettled line.message isObservers

end Observer

/-- A report shows as the event that is handed to the observer. -/
@[simp] theorem Reporter.outline_report
    (reporter : Reporter σ ν)
    (event : Event)
    (state : σ) :
    outline (reporter.report event state).1 = [.event event] := by
  have delivered :=
    Observer.filter_deliver Observer.isForeignTo_isOwn event
      (reporter.stopwatch event state) reporter.observer state
  have dropsWarning :
      ∀ line : LogLine,
        line.message = "trace observer panicked, event dropped" →
          (Signal.log line : Signal ν).isOwn = false := by
    intro line sameMessage
    simp [Signal.isOwn, sameMessage, settledMessages]
  have contained :=
    Observer.filter_contained dropsWarning reporter.observer.name event delivered
  simp only [report, outline_event]
  exact congrArg (Signal.event event :: ·) contained

end Middleware
