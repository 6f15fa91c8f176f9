import Middleware.Proofs.Chain.Lines
import Middleware.Proofs.Chain.Settlement
import Middleware.Proofs.Download.Provenance

namespace Middleware

/-!
# Which chains of a download are logged as settled

A download logs a line for each of its chains that a hook settles, and for no other:
not for a chain whose hooks have all been passed, nor for one that fails, panics or
is dropped. The line stands between the report of the hook call and that of the run.
-/

variable {σ ν : Type}

/-- The failure that the request chain of a download is reported with, if it has failed. -/
def requestFailure? (signals : List (Signal ν)) : Option Failure :=
  (chainReportsIn signals).findSome? fun report =>
    if report.phase = .request then report.failure else none

@[simp] theorem requestFailure?_outline
    (signals : List (Signal ν)) :
    requestFailure? (outline signals) = requestFailure? signals := by
  simp [requestFailure?]

/-- A request chain that has failed is reported with its failure. -/
theorem IsBlockWith.requestFailure?_append
    {failure : Failure}
    {signals : List (Signal ν)}
    (block : IsBlockWith .request (some failure) (eventsIn signals))
    (later : List (Signal ν)) :
    requestFailure? (signals ++ later) = some failure := by
  obtain ⟨methods, report, events, _, samePhase, sameFailure⟩ := block
  have reports : chainReportsIn signals = [report] := by
    simp [chainReportsIn, events, Event.chain?]
  simp [requestFailure?, reports, samePhase, sameFailure]

namespace Downloader

variable {downloader : Downloader σ ν}
variable {transport : Transport σ ν}
variable {request : Request}

theorem settlesByPhase_requestChain
    (downloader : Downloader σ ν)
    (transport : Transport σ ν)
    (request : Request)
    (failed : Option Failure) :
    (downloader.requestChain transport request).SettlesByPhase request failed where
  toWellFormed := downloader.wellFormed_requestChain transport request
  settles_iff middleware reply outcome := by
    cases reply <;>
      simp [Chain.verdict, requestChain, Reply.acceptAny, Reply.outcome?, Phase.settles?,
        Except.map]
  settledLine_eq _ _ := rfl

theorem settlesByPhase_exceptionChain
    (downloader : Downloader σ ν)
    (request : Request)
    (failure : Failure) :
    (downloader.exceptionChain request failure).SettlesByPhase request (some failure) where
  toWellFormed := downloader.wellFormed_exceptionChain request failure
  settles_iff middleware reply outcome := by
    cases reply <;>
      simp [Chain.verdict, exceptionChain, Reply.acceptAny, Reply.outcome?, Phase.settles?,
        Except.map]
  settledLine_eq _ _ := rfl

theorem settlesByPhase_responseChain
    (downloader : Downloader σ ν)
    (request : Request)
    (response : Response)
    (failed : Option Failure) :
    (downloader.responseChain request response).SettlesByPhase request failed where
  toWellFormed := downloader.wellFormed_responseChain request response
  settles_iff middleware reply outcome := by
    cases reply <;>
      simp [Chain.verdict, responseChain, Reply.acceptOutcome, Reply.outcome?, Phase.settles?,
        Except.map]
  settledLine_eq _ _ := rfl

/-- Wherever a download stands, dropped or not, its lines tell which chains are settled. -/
theorem Course.logsSettlings
    {signals : List (Signal ν)}
    {standing : Standing σ (Signal ν) (Except Failure Outcome)}
    (course : downloader.Course transport request signals standing)
    (dropped : Option σ)
    (phase : Phase) :
    let shown := signals ++ outline (standing.closing dropped)
    LogsSettlings phase request (requestFailure? shown) shown := by
  have sends := downloader.settlesByPhase_requestChain transport request
  have recovers := downloader.settlesByPhase_exceptionChain request
  have receives := downloader.settlesByPhase_responseChain request
  intro shown
  cases course with
  | sending course _ =>
      exact course.logsSettlingsOf (sends _) dropped phase
  | pausing failed =>
      cases dropped with
      | none => exact failed.logsSettlingsOf (sends _) none phase
      | some state => exact failed.logsSettlingsOf (sends _) (some state) phase
  | @recovering first second standing failure left failed course =>
      have shownAs : shown = first ++ (second ++ outline (standing.closing dropped)) :=
        List.append_assoc ..
      have recoversFrom := recovers failure
      rw [shownAs, failed.isBlockWith.requestFailure?_append]
      exact
        failed.logsSettlings_append (sends _) (course.leavesOut recoversFrom dropped nofun)
          (course.logsSettlingsOf recoversFrom dropped) phase
  | @receiving first second standing value left responded course =>
      have shownAs : shown = first ++ (second ++ outline (standing.closing dropped)) :=
        List.append_assoc ..
      have receivesThen := receives value (requestFailure? shown)
      rw [shownAs] at receivesThen ⊢
      exact
        responded.logsSettlings_append (sends _) (course.leavesOut receivesThen dropped nofun)
          (course.logsSettlingsOf receivesThen dropped) phase
  | @receivingRecovered first second third standing failure value left _ failed responded course =>
      have shownAs :
          shown = first ++ (second ++ (third ++ outline (standing.closing dropped))) := by
        simp [shown]
      have recoversFrom := recovers failure
      have receivesThen := receives value (some failure)
      have inRecovery : LeavesOut .request second :=
        responded.leavesOut_of_finished recoversFrom nofun
      have inResponse : LeavesOut .request (third ++ outline (standing.closing dropped)) :=
        course.leavesOut receivesThen dropped nofun
      have requestLeftOut := inRecovery.append responded.isOrderly.allBack inResponse
      have recovered :=
        responded.logsSettlings_append recoversFrom (course.leavesOut receivesThen dropped nofun)
          (course.logsSettlingsOf receivesThen dropped)
      rw [shownAs, failed.isBlockWith.requestFailure?_append]
      exact failed.logsSettlings_append (sends _) requestLeftOut recovered phase

theorem emitsOnly_receive
    (downloader : Downloader σ ν)
    (request : Request)
    (outcome? : Option Outcome) :
    (downloader.receive request outcome?).EmitsOnly Signal.IsAccounted := by
  match outcome? with
  | none => exact .done _
  | some (.request retry) => exact .done _
  | some (.response response) =>
      exact (downloader.wellFormed_responseChain request response).emitsOnly_resume _ [] _

/-- A download logs no lines but those of its reporter and of chains that are settled. -/
theorem emitsOnly_download
    (downloader : Downloader σ ν)
    (transport : Transport σ ν)
    (request : Request) :
    (downloader.download transport request).EmitsOnly Signal.IsAccounted := by
  have sends : (downloader.send transport request).EmitsOnly Signal.IsAccounted :=
    (downloader.wellFormed_requestChain transport request).emitsOnly_resume _ [] _
  have recovers : ∀ failure, (downloader.recover request failure).EmitsOnly Signal.IsAccounted :=
    fun failure => (downloader.wellFormed_exceptionChain request failure).emitsOnly_resume _ [] _
  rw [download_eq_bind]
  refine .bind sends fun sent => ?_
  cases sent with
  | ok outcome => exact downloader.emitsOnly_receive request (some outcome)
  | error failure =>
      have pauses : (Burst.silent : Burst σ (Signal ν)).EmitsOnly Signal.IsAccounted :=
        fun _ => List.forall_mem_nil _
      refine .suspend pauses (.bind (recovers failure) fun recovered => ?_)
      cases recovered with
      | ok outcome => exact downloader.emitsOnly_receive request (some outcome)
      | error failure => exact .done _

/--
In any life of a download, the lines that it logs itself tell exactly how hook calls
have settled its chains. For each phase there is at most one, at the place of the call
that it tells of, and there is none if the chain does not succeed. All other lines are
those of its reporter.
-/
theorem lines_tell_settlings
    (downloader : Downloader σ ν)
    (transport : Transport σ ν)
    (request : Request)
    (life : Life σ) :
    let lived := (Job.fresh (downloader.download transport request)).live life
    (∀ phase, LogsSettlings phase request (requestFailure? lived.1) lived.1) ∧
      ∀ line,
        .log line ∈ lived.1 →
          line.message ∈ reporterMessages ∨ ∃ phase, line ∈ settledLinesIn phase lived.1 := by
  intro lived
  constructor
  · intro phase
    rcases downloader.course_of_live transport request life with
      nothing | ⟨_, signals, standing, _, course, shown, _⟩
    · rw [nothing]
      exact .ofUnsettled ⟨rfl, rfl⟩
    · rw [← requestFailure?_outline]
      apply LogsSettlings.ofOutline
      rw [shown]
      exact course.logsSettlings life.dropped phase
  · intro line logged
    have accounted : (Signal.log line : Signal ν).IsAccounted :=
      (downloader.emitsOnly_download transport request).live life _ logged
    have ofReporterOrSettled :
        line.message ∈ reporterMessages ∨ line.message ∈ settledMessages := by
      simpa [Signal.IsAccounted, Signal.isStray, Decidable.or_iff_not_imp_left] using accounted
    refine ofReporterOrSettled.imp_right fun settled => ?_
    obtain ⟨phase, sameMessage⟩ := Phase.exists_settledMessage_eq settled
    exact ⟨phase, mem_settledLinesIn.mpr ⟨logged, sameMessage⟩⟩

/--
The transport fails, and an exception hook puts a response in the place of the failure:
a line says so, with the text of the failure. It is no line of the reporter.
-/
theorem lines_tell_settlings_rescuing :
    let life : Life Nat := ⟨[0, 5, 7, 8], none⟩
    let lived := (Job.fresh Sample.download).live life
    let line : LogLine :=
      ⟨.debug, "exception resolved",
        [("middleware", .text "rescuing"), ("url", .text "/"),
          ("error", .text "fetch failed: timed out")]⟩
    .log line ∈ lived.1 ∧
      line.message ∉ reporterMessages ∧
      (∃ phase, line ∈ settledLinesIn phase lived.1) ∧
      settlingsIn .exception lived.1 = [⟨"rescuing", .response (.plain "/")⟩] := by
  intro life lived line
  have logged : .log line ∈ lived.1 := by decide +kernel
  have notReporters : line.message ∉ reporterMessages := by decide
  have told :=
    (lines_tell_settlings (.ofStack Sample.stack) Sample.failing (.get "/") life).2 line logged
  exact ⟨logged, notReporters, told.resolve_left notReporters, by decide +kernel⟩

end Downloader

end Middleware
