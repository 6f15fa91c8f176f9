import Middleware.Proofs.Download.Separation
import Middleware.Proofs.Telemetry.Outline

namespace Middleware

/-!
# What an observer receives

An observer that works on a state of its own receives the events of a download
one after another. Its state and the warnings about its panics are those of
these deliveries: no event is delivered twice, and on every event on which the
observer panics there is one warning, which follows the event.
-/

variable {τ ρ ν : Type}

/-- Whether a signal is an event, or the warning that the observer has panicked on one. -/
def Signal.isDelivery : Signal ν → Bool
  | .event _ => true
  | .log line => line.message = "trace observer panicked, event dropped"
  | .call _ | .returned _ | .note _ => false

/-- The events among signals, and the warnings that the observer has panicked on them. -/
def deliveriesIn (signals : List (Signal ν)) : List (Signal ν) :=
  signals.filter Signal.isDelivery

@[simp] theorem deliveriesIn_nil :
    deliveriesIn ([] : List (Signal ν)) = [] :=
  rfl

@[simp] theorem deliveriesIn_event
    (event : Event)
    (rest : List (Signal ν)) :
    deliveriesIn (.event event :: rest) = .event event :: deliveriesIn rest :=
  rfl

/-- The warning that the observer has panicked is one of its deliveries. -/
@[simp] theorem deliveriesIn_warning
    (receiver : String)
    (event : Event) :
    deliveriesIn
        [(.log (panicWarning "trace observer panicked, event dropped" receiver event) :
          Signal ν)] =
      [.log (panicWarning "trace observer panicked, event dropped" receiver event)] := by
  simp [deliveriesIn, Signal.isDelivery, panicWarning]

@[simp] theorem deliveriesIn_append
    (first second : List (Signal ν)) :
    deliveriesIn (first ++ second) = deliveriesIn first ++ deliveriesIn second := by
  simp [deliveriesIn]

@[simp] theorem deliveriesIn_notes (notes : List ν) :
    deliveriesIn (notes.map Signal.note) = [] := by
  simp [deliveriesIn, Signal.isDelivery]

@[simp] theorem eventsIn_notes (notes : List ν) :
    eventsIn (notes.map Signal.note) = [] := by
  simp [eventsIn, Signal.event?, Function.comp_def]

namespace Observer

/-- Deliveries leave out what observers emit themselves. -/
theorem isForeignTo_isDelivery : IsForeignTo (Signal.isDelivery : Signal ν → Bool) where
  notes _ := rfl
  lines line isObservers := by
    have otherMessages :
        ∀ message ∈ observerMessages, message ≠ "trace observer panicked, event dropped" := by
      decide
    simpa [Signal.isDelivery] using otherMessages line.message isObservers

/-- One delivery: the event, and the warning about the observer if it panics on the event. -/
def receive
    (observer : Observer ρ ν)
    (event : Event)
    (elapsed : Duration) :
    Burst ρ (Signal ν) :=
  fun rest =>
    let delivery := observer.deliver event elapsed rest
    match delivery.panic with
    | none => ([.event event], delivery.state)
    | some _ =>
        ([.event event,
            .log
              (panicWarning "trace observer panicked, event dropped" observer.name event)],
          delivery.state)

/-- Deliveries one after another, of events with the times that they report. -/
def receiveAll (observer : Observer ρ ν) : List (Event × Duration) → Burst ρ (Signal ν)
  | [] => .silent
  | (event, elapsed) :: later =>
      (observer.receive event elapsed).followedBy (observer.receiveAll later)

theorem receiveAll_append
    (observer : Observer ρ ν)
    (first second : List (Event × Duration)) :
    observer.receiveAll (first ++ second) =
      (observer.receiveAll first).followedBy (observer.receiveAll second) := by
  induction first with
  | nil =>
      rfl
  | cons timed later inductionHypothesis =>
      funext rest
      simp [receiveAll, inductionHypothesis, Burst.followedBy]

/--
Between two of its states an observer has received the events among signals and
nothing else, and the warnings among the signals are those of these deliveries.
-/
def HasReceived
    (observer : Observer ρ ν)
    (before : ρ)
    (signals : List (Signal ν))
    (after : ρ) :
    Prop :=
  ∃ timed : List (Event × Duration),
    timed.map Prod.fst = eventsIn signals ∧
      observer.receiveAll timed before = (deliveriesIn signals, after)

namespace HasReceived

variable {observer : Observer ρ ν}

theorem nothing
    {signals : List (Signal ν)}
    (noEvents : eventsIn signals = [])
    (noDeliveries : deliveriesIn signals = [])
    (rest : ρ) :
    observer.HasReceived rest signals rest :=
  ⟨[], noEvents.symm, by rw [noDeliveries]; rfl⟩

theorem append
    {before between after : ρ}
    {first second : List (Signal ν)}
    (earlier : observer.HasReceived before first between)
    (later : observer.HasReceived between second after) :
    observer.HasReceived before (first ++ second) after := by
  obtain ⟨firstTimed, firstEvents, firstReceived⟩ := earlier
  obtain ⟨secondTimed, secondEvents, secondReceived⟩ := later
  refine ⟨firstTimed ++ secondTimed, ?_, ?_⟩
  · simp [firstEvents, secondEvents]
  · simp [receiveAll_append, Burst.followedBy, firstReceived, secondReceived]

/-- A report to an observer of the second part of a state is received once. -/
theorem report
    (stopwatch : Event → τ × ρ → Duration)
    (event : Event)
    (state : τ)
    (rest : ρ) :
    let reported := (Reporter.mk observer.onSecond stopwatch).report event (state, rest)
    observer.HasReceived rest reported.1 reported.2.2 := by
  have noDeliveries :
      ∀ elapsed, deliveriesIn (observer.deliver event elapsed rest).signals = [] :=
    fun elapsed => observer.filter_deliver isForeignTo_isDelivery event elapsed rest
  have noEvents : ∀ elapsed, eventsIn (observer.deliver event elapsed rest).signals = [] := by
    intro elapsed
    have left : outline (observer.deliver event elapsed rest).signals = [] :=
      observer.filter_deliver isForeignTo_isOwn event elapsed rest
    rw [← eventsIn_outline, left, eventsIn_nil]
  rw [Reporter.report_onSecond]
  generalize stopwatch event (state, rest) = elapsed
  specialize noDeliveries elapsed
  specialize noEvents elapsed
  refine ⟨[(event, elapsed)], ?_, ?_⟩
  · cases panicked : (observer.deliver event elapsed rest).panic <;>
      simp [contained, panicked, noEvents]
  · cases panicked : (observer.deliver event elapsed rest).panic <;>
      simp [receiveAll, receive, Burst.followedBy, Burst.silent, contained, panicked,
        noDeliveries]

end HasReceived

end Observer

end Middleware
