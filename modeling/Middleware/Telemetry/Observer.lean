import Middleware.Failure.Message
import Middleware.Telemetry.Signal
import Middleware.Text.Quoted

namespace Middleware

/-!
# Observers

Observers receive events and return nothing. A sink may panic on an event; a
fan-out contains the panic of each of its backends, logs a warning for it and
goes on with the next backend.
-/

/-- What a delivery to a sink does: its notes, the state it leaves and its panic, if any. -/
structure Delivery (σ ο : Type) where
  signals : List ο
  state : σ
  panic : Option String

/-- A named receiver of events. -/
structure Sink (σ ν : Type) where
  name : String
  receive : Event → Duration → σ → Delivery σ ν

/-- The observers of a download. -/
inductive Observer (σ ν : Type) where
  /-- Discards every event. -/
  | silent
  /-- Logs every event. -/
  | log
  /-- Hands every event to a sink. -/
  | sink (target : Sink σ ν)
  /-- Hands every event to each of its backends in order. -/
  | fanOut (backends : List (Observer σ ν))

/-- The log line that reports a hook call. -/
def MethodReport.logLine
    (report : MethodReport)
    (elapsed : Duration) :
    LogLine where
  level := .debug
  message := "middleware method complete"
  fields :=
    [("manager", .text managerLabel),
      ("hook", .text report.phase.label),
      ("middleware", .text report.middleware),
      ("duration_secs", .duration elapsed),
      ("error", .text (failureText report.failure)),
      ("cancelled", .flag report.cancelled),
      ("panicked", .flag report.panicked)]

/-- The log line that reports a run of a chain. -/
def ChainReport.logLine
    (report : ChainReport)
    (elapsed : Duration) :
    LogLine where
  level := .debug
  message := "middleware chain complete"
  fields :=
    [("manager", .text managerLabel),
      ("hook", .text report.phase.label),
      ("middlewares", .text (Text.quotedList report.visited)),
      ("count", .count report.count),
      ("duration_secs", .duration elapsed),
      ("error", .text (failureText report.failure)),
      ("cancelled", .flag report.cancelled),
      ("panicked", .flag report.panicked)]

/-- The log line that reports an event. -/
def Event.logLine
    (event : Event)
    (elapsed : Duration) :
    LogLine :=
  match event with
  | .method report => report.logLine elapsed
  | .chain report => report.logLine elapsed

/-- The warning that a receiver of an event has panicked. -/
def panicWarning
    (message receiver : String)
    (event : Event) :
    LogLine where
  level := .warn
  message := message
  fields :=
    [("observer", .text receiver),
      ("hook", .text event.phase.label)]

namespace Observer

variable {σ ν : Type}

/-- The name under which an observer's panics are reported. -/
def name : Observer σ ν → String
  | .silent => "noop"
  | .log => "log"
  | .sink target => target.name
  | .fanOut _ => "multi"

/-- A delivery without its panic: the panic is logged as a warning about the receiver. -/
def contained
    (message receiver : String)
    (event : Event)
    (delivery : Delivery σ (Signal ν)) :
    List (Signal ν) × σ :=
  match delivery.panic with
  | none => (delivery.signals, delivery.state)
  | some _ =>
      (delivery.signals ++ [.log (panicWarning message receiver event)],
        delivery.state)

mutual

/-- Deliver an event to an observer. -/
def deliver
    (event : Event)
    (elapsed : Duration)
    (observer : Observer σ ν)
    (state : σ) :
    Delivery σ (Signal ν) :=
  match observer with
  | .silent => ⟨[], state, none⟩
  | .log => ⟨[.log (event.logLine elapsed)], state, none⟩
  | .sink target =>
      let delivery := target.receive event elapsed state
      ⟨delivery.signals.map .note, delivery.state, delivery.panic⟩
  | .fanOut backends => deliverAll event elapsed backends state

/-- Deliver an event to backends in order, each contained on its own. -/
def deliverAll
    (event : Event)
    (elapsed : Duration)
    (backends : List (Observer σ ν))
    (state : σ) :
    Delivery σ (Signal ν) :=
  match backends with
  | [] => ⟨[], state, none⟩
  | backend :: rest =>
      let (earlier, state) :=
        contained "observer backend panicked, event dropped" backend.name event
          (deliver event elapsed backend state)
      let later := deliverAll event elapsed rest state
      { later with signals := earlier ++ later.signals }

end

end Observer

/-- An observer with the clock that says how long what an event reports has taken. -/
structure Reporter (σ ν : Type) where
  observer : Observer σ ν
  stopwatch : Event → σ → Duration

/-- The reporter that logs events and takes no time. -/
def Reporter.default {σ ν : Type} : Reporter σ ν :=
  ⟨.log, fun _ _ => .zero⟩

/-- Hand an event to the observer and contain the observer's panic. -/
def Reporter.report
    {σ ν : Type}
    (reporter : Reporter σ ν)
    (event : Event) :
    Burst σ (Signal ν) :=
  fun state =>
    let (signals, state) :=
      Observer.contained "trace observer panicked, event dropped"
        reporter.observer.name event
        (reporter.observer.deliver event (reporter.stopwatch event state) state)
    (.event event :: signals, state)

end Middleware
