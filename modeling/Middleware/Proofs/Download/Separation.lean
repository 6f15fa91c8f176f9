import Middleware.Proofs.Chain.Computation

namespace Middleware

/-!
# Hooks and observers with states of their own

The shared state of a download may be made up of a state that hooks and the
transport share and one that belongs to the observer. A task that works on the
first alone computes what it computes without the second, and reports to an
observer that works on the second alone leave the first as it is.
-/

variable {τ ρ ο ν α ι : Type}

/-- A burst that works on the first part of a state. -/
def Burst.onFirst (burst : Burst τ ο) : Burst (τ × ρ) ο :=
  fun (state, rest) =>
    let (emitted, after) := burst state
    (emitted, (after, rest))

/-- A task that works on the first part of a state. -/
def Task.onFirst : Task τ ο α → Task (τ × ρ) ο α
  | .done value => .done value
  | .panic message => .panic message
  | .act work next => .act work.onFirst fun state => (next state.1).onFirst
  | .suspend abandon next => .suspend abandon.onFirst next.onFirst
  | .hang abandon => .hang abandon.onFirst

/-- A hook that works on the first part of a state. -/
def Hook.onFirst : Hook τ ν ι → Hook (τ × ρ) ν ι
  | .plain start => .plain fun input => (start input).onFirst
  | .contextual start => .contextual fun input context => (start input context).onFirst

/-- A hook in a stack that works on the first part of a state. -/
def Entry.onFirst (entry : Entry τ ν ι) : Entry (τ × ρ) ν ι :=
  ⟨entry.middleware, entry.hook.onFirst⟩

/-- A layer whose hooks work on the first part of a state. -/
def Layer.onFirst (layer : Layer τ ν) : Layer (τ × ρ) ν where
  name := layer.name
  request := layer.request.map Hook.onFirst
  response := layer.response.map Hook.onFirst
  exception := layer.exception.map Hook.onFirst

/-- A stack whose hooks work on the first part of a state. -/
def Stack.onFirst (stack : Stack τ ν) : Stack (τ × ρ) ν where
  request := stack.request.map Entry.onFirst
  response := stack.response.map Entry.onFirst
  exception := stack.exception.map Entry.onFirst

/-- A transport that works on the first part of a state. -/
def Transport.onFirst (transport : Transport τ ν) : Transport (τ × ρ) ν :=
  fun request => (transport request).onFirst

/-- A delivery that is made in the second part of a state. -/
def Delivery.onSecond
    (state : τ)
    (delivery : Delivery ρ ο) :
    Delivery (τ × ρ) ο :=
  ⟨delivery.signals, (state, delivery.state), delivery.panic⟩

/-- A sink that works on the second part of a state. -/
def Sink.onSecond (sink : Sink ρ ν) : Sink (τ × ρ) ν where
  name := sink.name
  receive event elapsed := fun (state, rest) =>
    (sink.receive event elapsed rest).onSecond state

namespace Observer

mutual

/-- An observer that works on the second part of a state. -/
def onSecond : Observer ρ ν → Observer (τ × ρ) ν
  | .silent => .silent
  | .log => .log
  | .sink target => .sink target.onSecond
  | .fanOut backends => .fanOut (allOnSecond backends)

/-- Observers that work on the second part of a state. -/
def allOnSecond : List (Observer ρ ν) → List (Observer (τ × ρ) ν)
  | [] => []
  | backend :: rest => onSecond backend :: allOnSecond rest

end

/-- An observer reports its panics under the same name on any state. -/
@[simp] theorem name_onSecond (observer : Observer ρ ν) :
    (observer.onSecond : Observer (τ × ρ) ν).name = observer.name := by
  cases observer <;> rfl

/-- Containing a panic keeps a delivery in its part of the state. -/
theorem contained_onSecond
    (message receiver : String)
    (event : Event)
    (state : τ)
    (delivery : Delivery ρ (Signal ν)) :
    contained message receiver event (delivery.onSecond state) =
      ((contained message receiver event delivery).1,
        (state, (contained message receiver event delivery).2)) := by
  rcases delivery with ⟨signals, rest, panic⟩
  cases panic <;> rfl

mutual

/-- An observer of the second part of a state delivers there what it delivers on its own. -/
theorem deliver_onSecond
    (event : Event)
    (elapsed : Duration)
    (observer : Observer ρ ν)
    (state : τ)
    (rest : ρ) :
    observer.onSecond.deliver event elapsed (state, rest) =
      (observer.deliver event elapsed rest).onSecond state := by
  match observer with
  | .silent =>
      rfl
  | .log =>
      rfl
  | .sink target =>
      rfl
  | .fanOut backends =>
      simpa [onSecond, deliver] using
        deliverAll_allOnSecond event elapsed backends state rest

/-- Observers of the second part of a state deliver there what they deliver on their own. -/
theorem deliverAll_allOnSecond
    (event : Event)
    (elapsed : Duration)
    (backends : List (Observer ρ ν))
    (state : τ)
    (rest : ρ) :
    deliverAll event elapsed (allOnSecond backends) (state, rest) =
      (deliverAll event elapsed backends rest).onSecond state := by
  match backends with
  | [] =>
      rfl
  | backend :: later =>
      simp only [allOnSecond, deliverAll, name_onSecond]
      rw [deliver_onSecond event elapsed backend state rest, contained_onSecond,
        deliverAll_allOnSecond event elapsed later state]
      rfl

end

end Observer

/-- A report to an observer of the second part of a state is a delivery there. -/
theorem Reporter.report_onSecond
    (observer : Observer ρ ν)
    (stopwatch : Event → τ × ρ → Duration)
    (event : Event)
    (state : τ)
    (rest : ρ) :
    let elapsed := stopwatch event (state, rest)
    let delivered :=
      Observer.contained "trace observer panicked, event dropped" observer.name event
        (observer.deliver event elapsed rest)
    (Reporter.mk observer.onSecond stopwatch).report event (state, rest) =
      (.event event :: delivered.1, (state, delivered.2)) := by
  simp only [report, Observer.name_onSecond]
  rw [Observer.deliver_onSecond, Observer.contained_onSecond]

/-- Reports to an observer of the second part of a state leave the first part as it is. -/
theorem Reporter.keeps_onSecond
    (observer : Observer ρ ν)
    (stopwatch : Event → τ × ρ → Duration) :
    (Reporter.mk observer.onSecond stopwatch).Keeps Prod.fst := by
  rintro event ⟨state, rest⟩
  rw [report_onSecond]

/-- A task on the first part of a state realizes there what it computes. -/
theorem Realizes.onFirst (task : Task τ ο α) :
    Realizes Prod.fst (task.onFirst : Task (τ × ρ) ο α) task.complete := by
  induction task with
  | done value => exact fun _ => rfl
  | panic message => exact fun _ => rfl
  | act work next inductionHypothesis =>
      intro state
      exact inductionHypothesis state.1 (work.onFirst state).2
  | suspend abandon next inductionHypothesis => exact inductionHypothesis
  | hang abandon => exact fun _ => rfl

/-- A hook on the first part of a state realizes there what it computes. -/
theorem Realizes.start_onFirst
    (hook : Hook τ ν ι)
    (input : ι)
    (context : Context) :
    Realizes Prod.fst
      (hook.onFirst.start input context : Task (τ × ρ) ν Answer)
      (hook.start input context).complete := by
  cases hook with
  | plain start => exact .onFirst (start input)
  | contextual start => exact .onFirst (start input context)

end Middleware
