import Middleware.Proofs.Download.Observation

namespace Middleware

/-!
# Observers do not interfere

Two observers may panic on different events, log different lines and keep
different states. If they share no state with hooks and transports, downloads
run in the same turns do the same under both: they make the same calls, hand the
same events to the observer, in the same order and with the same flags, and come
to the same ends. What differs is what each observer does with its deliveries.
-/

variable {τ ρ υ ν : Type}

namespace Downloader

/-- The jobs of some downloads, none of them polled yet. -/
def jobsOf
    (downloader : Downloader τ ν)
    (downloads : List (Transport τ ν × Request)) :
    Pool τ (Signal ν) (Except Failure Outcome) :=
  downloads.map fun (transport, request) => .fresh (downloader.download transport request)

/-- Transports that work on the first part of a state, each with a request. -/
def downloadsOnFirst
    (downloads : List (Transport τ ν × Request)) :
    List (Transport (τ × ρ) ν × Request) :=
  downloads.map fun (transport, request) => (transport.onFirst, request)

/-- Downloads that report to an observer are the observed forms of those that report to nobody. -/
theorem observedAs_jobsOf
    (stack : Stack τ ν)
    (context : Context)
    (observer : Observer ρ ν)
    (stopwatch : Event → τ × ρ → Duration)
    (downloads : List (Transport τ ν × Request)) :
    Pool.ObservedAs observer
      ((bare stack context).jobsOf downloads)
      ((watched stack context observer stopwatch).jobsOf (downloadsOnFirst downloads)) := by
  intro index
  simp only [jobsOf, downloadsOnFirst, List.map_map, List.getElem?_map]
  cases downloads[index]? with
  | none =>
      exact .none
  | some download =>
      have observed := observedAs_download stack context observer stopwatch download.1 download.2
      exact .some (.fresh observed)

/--
Under two observers with states of their own, the same downloads in the same
turns show the same of themselves, in the same order: calls with all that is
passed, what they come back with, and events. They come to the same ends and
leave the same state of hooks and transports. Each observer is left as by
receiving the events one after another, and each of its panics is logged by one
warning, which follows the event and names the observer and the phase.
-/
theorem runs_agree_under_observers
    (stack : Stack τ ν)
    (context : Context)
    (first : Observer ρ ν)
    (firstStopwatch : Event → τ × ρ → Duration)
    (second : Observer υ ν)
    (secondStopwatch : Event → τ × υ → Duration)
    (downloads : List (Transport τ ν × Request))
    (turns : List Turn)
    (start : τ)
    (firstStart : ρ)
    (secondStart : υ) :
    let firstJobs :=
      (watched stack context first firstStopwatch).jobsOf (downloadsOnFirst downloads)
    let secondJobs :=
      (watched stack context second secondStopwatch).jobsOf (downloadsOnFirst downloads)
    let firstRun := firstJobs.follow (start, firstStart) turns
    let secondRun := secondJobs.follow (start, secondStart) turns
    Pool.outline firstRun.signals = Pool.outline secondRun.signals ∧
      firstRun.result.map Job.fate = secondRun.result.map Job.fate ∧
      firstRun.state.1 = secondRun.state.1 ∧
      first.HasReceived firstStart (firstRun.signals.map Prod.snd) firstRun.state.2 ∧
      second.HasReceived secondStart (secondRun.signals.map Prod.snd) secondRun.state.2 := by
  intro firstJobs secondJobs firstRun secondRun
  have firstObserved := observedAs_jobsOf stack context first firstStopwatch downloads
  have secondObserved := observedAs_jobsOf stack context second secondStopwatch downloads
  obtain ⟨firstShown, firstState, firstReceived, firstEnds⟩ :=
    firstObserved.follow turns start firstStart
  obtain ⟨secondShown, secondState, secondReceived, secondEnds⟩ :=
    secondObserved.follow turns start secondStart
  have sameEnds : firstRun.result.map Job.fate = secondRun.result.map Job.fate :=
    firstEnds.map_fate_eq.trans secondEnds.map_fate_eq.symm
  exact
    ⟨firstShown.trans secondShown.symm,
      sameEnds,
      firstState.trans secondState.symm,
      firstReceived,
      secondReceived⟩

end Downloader

end Middleware
