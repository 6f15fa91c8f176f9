import Middleware.Proofs.Chain.Course
import Middleware.Proofs.Task.Emission

namespace Middleware

/-!
# Where log lines come from

Hooks and the transport log no lines. All lines that a run of a chain logs come from
its reporter, but for the one that says that a hook has settled it.
-/

variable {σ ν ι κ : Type}

/-- The messages of the lines that a reporter and its observer log. -/
def reporterMessages : List String :=
  "trace observer panicked, event dropped" :: observerMessages

/-- Whether a signal is a line that neither a reporter logs nor a chain that is settled. -/
def Signal.isStray : Signal ν → Bool
  | .log line => line.message ∉ reporterMessages ++ settledMessages
  | .call _ | .returned _ | .note _ | .event _ => false

/-- A signal other than a stray line. -/
def Signal.IsAccounted (signal : Signal ν) : Prop :=
  signal.isStray = false

theorem Signal.isAccounted_call (call : Call) : (Signal.call call : Signal ν).IsAccounted :=
  rfl

theorem Signal.isAccounted_returned (value : Return) :
    (Signal.returned value : Signal ν).IsAccounted :=
  rfl

theorem Signal.isAccounted_note (note : ν) : (Signal.note note).IsAccounted :=
  rfl

theorem Observer.isForeignTo_isStray : IsForeignTo (Signal.isStray : Signal ν → Bool) where
  notes _ := rfl
  lines line isObservers := by
    simp [Signal.isStray, reporterMessages, isObservers]

/-- Nothing that a reporter emits is a stray line. -/
theorem Reporter.emitsOnly_report
    (reporter : Reporter σ ν)
    (event : Event) :
    (reporter.report event).EmitsOnly Signal.IsAccounted := by
  intro state signal emitted
  have delivered :=
    Observer.filter_deliver Observer.isForeignTo_isStray event
      (reporter.stopwatch event state) reporter.observer state
  have dropsWarning :
      ∀ line : LogLine,
        line.message = "trace observer panicked, event dropped" →
          (Signal.log line : Signal ν).isStray = false := by
    intro line sameMessage
    simp [Signal.isStray, sameMessage, reporterMessages]
  have noStray :=
    Observer.filter_contained dropsWarning reporter.observer.name event delivered
  rcases List.mem_cons.mp emitted with rfl | later
  · rfl
  · simpa [Signal.IsAccounted] using List.filter_eq_nil_iff.mp noStray signal later

namespace Downloader

theorem emitsOnly_callTransport
    (transport : Transport σ ν)
    (request : Request) :
    (callTransport transport request).EmitsOnly Signal.IsAccounted := by
  rw [callTransport_eq_bind]
  refine .bind (.emit (Signal.isAccounted_call _)) fun _ => ?_
  refine .bind (.relabel Signal.isAccounted_note _) fun _ => ?_
  exact .bind (.emit (Signal.isAccounted_returned _)) fun _ => .done _

end Downloader

namespace Chain

variable {chain : Chain σ ν ι κ}

theorem emitsOnly_call
    (chain : Chain σ ν ι κ)
    (entry : Entry σ ν ι)
    (carried : κ) :
    (chain.call entry carried).EmitsOnly Signal.IsAccounted := by
  have reports := chain.reporter.emitsOnly_report
  rw [call_eq_bind]
  refine .bind (.emit (Signal.isAccounted_call _)) fun _ => ?_
  refine .bind (.guarded (.relabel Signal.isAccounted_note _) fun _ => reports _) fun _ => ?_
  refine .bind (.emit (Signal.isAccounted_returned _)) fun _ => ?_
  exact .bind (.perform (reports _)) fun _ => .done _

theorem emitsOnly_finish
    (visited : List String)
    (result : Except Failure Outcome) :
    (chain.finish visited result).EmitsOnly Signal.IsAccounted :=
  .bind (.perform (chain.reporter.emitsOnly_report _)) fun _ => .done _

/-- From each hook on, a run of a chain logs no stray line. -/
theorem WellFormed.emitsOnly_resume
    (wellFormed : chain.WellFormed)
    (entries : List (Entry σ ν ι))
    (visited : List String)
    (carried : κ) :
    (chain.resume visited carried entries).EmitsOnly Signal.IsAccounted := by
  have reports := chain.reporter.emitsOnly_report
  induction entries generalizing visited carried with
  | nil =>
      have concludes : (chain.conclude carried).EmitsOnly Signal.IsAccounted := by
        rcases wellFormed.concludes carried with ⟨result, stated⟩ | ⟨transport, request, called⟩
        · rw [stated]
          exact .done result
        · rw [called]
          exact Downloader.emitsOnly_callTransport transport request
      rw [resume_nil]
      exact .bind (concludes.guarded fun _ => reports _) fun _ => emitsOnly_finish _ _
  | cons entry rest inductionHypothesis =>
      rw [resume_cons]
      refine .bind ((chain.emitsOnly_call entry carried).guarded fun _ => reports _) ?_
      intro verdict
      cases verdict with
      | error failure => exact emitsOnly_finish _ _
      | ok verdict =>
          cases verdict with
          | proceed next => exact inductionHypothesis _ next
          | settle outcome =>
              have settled := wellFormed.logs entry.middleware outcome
              refine .bind (.emit ?_) fun _ => emitsOnly_finish _ _
              simp [Signal.IsAccounted, Signal.isStray, settled]

end Chain

end Middleware
