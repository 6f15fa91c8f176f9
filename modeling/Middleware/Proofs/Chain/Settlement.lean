import Middleware.Proofs.Chain.Passage
import Middleware.Proofs.Chain.Report

namespace Middleware

/-!
# How a settled chain is logged

A hook settles its chain by a reply on which the chain does not proceed. A line is
logged for this: after the report of the hook call, and before that of the run. All
other ways out of a chain are reported without such a line.
-/

variable {σ ν ι κ : Type}

namespace Phase

/-- The message of the line that says that a hook has settled the chain of a phase. -/
def settledMessage : Phase → String
  | .request => "request chain short-circuited"
  | .response => "response chain returned a request"
  | .exception => "exception resolved"

theorem settledMessage_inj
    {phase other : Phase} :
    phase.settledMessage = other.settledMessage ↔ phase = other := by
  cases phase <;> cases other <;> decide

theorem settledMessage_mem (phase : Phase) : phase.settledMessage ∈ settledMessages := by
  cases phase <;> decide

theorem exists_settledMessage_eq
    {message : String}
    (settled : message ∈ settledMessages) :
    ∃ phase : Phase, message = phase.settledMessage := by
  simp only [settledMessages, List.mem_cons, List.not_mem_nil, or_false] at settled
  rcases settled with rfl | rfl | rfl
  · exact ⟨.request, rfl⟩
  · exact ⟨.exception, rfl⟩
  · exact ⟨.response, rfl⟩

/-- The outcome with which a reply settles the chain of a phase, if it does. -/
def settles? : Phase → Reply → Option Outcome
  | .response, .response _ => none
  | _, reply => reply.outcome?

end Phase

/-- A hook call that has settled its chain: the middleware, and the outcome. -/
structure Settling where
  middleware : String
  outcome : Outcome
deriving DecidableEq

/-- How a call settles the chain of a phase, if it is a hook call that does. -/
def settling? (phase : Phase) : Call × Option Return → Option Settling
  | (call, some (.reply reply)) =>
      (call.hookIn? phase).bind fun middleware =>
        (phase.settles? reply).map fun outcome => ⟨middleware, outcome⟩
  | _ => none

/-- How calls among signals settle the chain of a phase. -/
def settlingsIn
    (phase : Phase)
    (signals : List (Signal ν)) :
    List Settling :=
  (callsIn signals).filterMap (settling? phase)

/-- The line that a signal logs, if it says that the chain of a phase is settled. -/
def Signal.settledLine?
    (phase : Phase) :
    Signal ν →
    Option LogLine
  | .log line => if line.message = phase.settledMessage then some line else none
  | _ => none

/-- The lines among signals that say that the chain of a phase is settled. -/
def settledLinesIn
    (phase : Phase)
    (signals : List (Signal ν)) :
    List LogLine :=
  signals.filterMap (Signal.settledLine? phase)

/--
The line for a chain that is settled, in the download of a request whose request chain
may have failed.
-/
def Settling.logLine
    (settling : Settling)
    (phase : Phase)
    (request : Request)
    (failed : Option Failure) :
    LogLine where
  level := .debug
  message := phase.settledMessage
  fields :=
    ("middleware", .text settling.middleware) ::
      match phase with
      | .request => [("url", .text request.url)]
      | .response => [("url", .text (Downloader.outcomeUrl settling.outcome))]
      | .exception =>
          ("url", .text request.url) ::
            failed.toList.map fun failure => ("error", .text failure.message)

/--
A hook call that settles the chain of a phase shows at its place: the call, its reply
and its report, the line, and the report of the run, which has visited it last.
-/
def ShowsSettling
    (phase : Phase)
    (line : LogLine)
    (settling : Settling)
    (signals : List (Signal ν)) :
    Prop :=
  ∃ before call reply report after,
    signals =
        before ++
          [.call call, .returned (.reply reply),
            .event (.method (.finished phase settling.middleware none)),
            .log line,
            .event (.chain report)] ++
          after ∧
      settling? phase (call, some (.reply reply)) = some settling ∧
      report.phase = phase ∧
      report.IsSuccess ∧
      report.visited.getLast? = some settling.middleware

/--
The lines for the chain of a phase tell exactly how it is settled: at most once, by a
hook call that shows at its place, and not at all if the chain does not succeed.
-/
structure LogsSettlings
    (phase : Phase)
    (request : Request)
    (failed : Option Failure)
    (signals : List (Signal ν)) :
    Prop where
  lines :
    settledLinesIn phase signals =
      (settlingsIn phase signals).map fun settling => settling.logLine phase request failed
  atMostOne : (settlingsIn phase signals).length ≤ 1
  shows :
    ∀ settling ∈ settlingsIn phase signals,
      ShowsSettling phase (settling.logLine phase request failed) settling (outline signals)
  notOtherwise :
    ∀ report ∈ chainReportsIn signals,
      report.phase = phase → ¬ report.IsSuccess → settledLinesIn phase signals = []

/-- Signals in which nothing settles the chain of a phase, and no line says so. -/
structure IsUnsettled
    (phase : Phase)
    (signals : List (Signal ν)) :
    Prop where
  noSettling : settlingsIn phase signals = []
  noLine : settledLinesIn phase signals = []

/-- Signals in which the chain of a phase does not show. -/
structure LeavesOut
    (phase : Phase)
    (signals : List (Signal ν)) :
    Prop extends IsUnsettled phase signals where
  noReport : ∀ report ∈ chainReportsIn signals, report.phase ≠ phase

theorem mem_settledLinesIn
    {phase : Phase}
    {signals : List (Signal ν)}
    {line : LogLine} :
    line ∈ settledLinesIn phase signals ↔
      .log line ∈ signals ∧ line.message = phase.settledMessage := by
  rw [settledLinesIn, List.mem_filterMap]
  constructor
  · rintro ⟨signal, emitted, isLine⟩
    cases signal with
    | log other =>
        rw [Signal.settledLine?] at isLine
        split at isLine
        case isTrue sameMessage =>
          cases isLine
          exact ⟨emitted, sameMessage⟩
        case isFalse => cases isLine
    | _ => cases isLine
  · rintro ⟨logged, sameMessage⟩
    exact ⟨.log line, logged, if_pos sameMessage⟩

@[simp] theorem settledLinesIn_append
    (phase : Phase)
    (first second : List (Signal ν)) :
    settledLinesIn phase (first ++ second) =
      settledLinesIn phase first ++ settledLinesIn phase second := by
  simp [settledLinesIn]

/-- The outline keeps all lines that say that a chain is settled. -/
@[simp] theorem settledLinesIn_outline
    (phase : Phase)
    (signals : List (Signal ν)) :
    settledLinesIn phase (outline signals) = settledLinesIn phase signals := by
  apply filterMap_outline
  intro signal notOwn
  cases signal with
  | log line =>
      have otherMessage : line.message ≠ phase.settledMessage := by
        intro same
        simp [Signal.isOwn, same, phase.settledMessage_mem] at notOwn
      exact if_neg otherMessage
  | _ => rfl

@[simp] theorem settlingsIn_outline
    (phase : Phase)
    (signals : List (Signal ν)) :
    settlingsIn phase (outline signals) = settlingsIn phase signals := by
  simp [settlingsIn]

theorem AllBack.settlingsIn_append
    {first : List (Signal ν)}
    (allBack : AllBack first)
    (phase : Phase)
    (second : List (Signal ν)) :
    settlingsIn phase (first ++ second) = settlingsIn phase first ++ settlingsIn phase second := by
  rw [settlingsIn, allBack.callsIn_append, List.filterMap_append]
  rfl

/-- Events neither settle a chain nor say so. -/
theorem IsUnsettled.append_events
    {phase : Phase}
    {signals closing : List (Signal ν)}
    (unsettled : IsUnsettled phase signals)
    (eventsOnly : ∃ events : List Event, closing = events.map .event) :
    IsUnsettled phase (signals ++ closing) := by
  obtain ⟨events, rfl⟩ := eventsOnly
  constructor
  · rw [settlingsIn, callsIn_append _ (replyTo_events events), callsIn_events, List.append_nil]
    exact unsettled.noSettling
  · have noLine : settledLinesIn phase (events.map (Signal.event : Event → Signal ν)) = [] := by
      simp [settledLinesIn, Signal.settledLine?]
    rw [settledLinesIn_append, unsettled.noLine, noLine, List.append_nil]

theorem ShowsSettling.append
    {phase : Phase}
    {line : LogLine}
    {settling : Settling}
    {signals : List (Signal ν)}
    (shows : ShowsSettling phase line settling signals)
    (earlier later : List (Signal ν)) :
    ShowsSettling phase line settling (earlier ++ signals ++ later) := by
  obtain ⟨before, call, reply, report, after, rfl, settles⟩ := shows
  exact ⟨earlier ++ before, call, reply, report, after ++ later, by simp, settles⟩

namespace LogsSettlings

variable {phase : Phase}
variable {request : Request}
variable {failed : Option Failure}
variable {first second : List (Signal ν)}

theorem ofUnsettled
    {signals : List (Signal ν)}
    (unsettled : IsUnsettled phase signals) :
    LogsSettlings phase request failed signals where
  lines := by rw [unsettled.noSettling, unsettled.noLine, List.map_nil]
  atMostOne := by simp [unsettled.noSettling]
  shows := by simp [unsettled.noSettling]
  notOtherwise _ _ _ _ := unsettled.noLine

/-- The law holds of a hook call that settles the chain, the line, and the report of the run. -/
theorem ofSettling
    {call : Call}
    {reply : Reply}
    {settling : Settling}
    {report : ChainReport}
    (settles : settling? phase (call, some (.reply reply)) = some settling)
    (samePhase : report.phase = phase)
    (success : report.IsSuccess)
    (visitedLast : report.visited.getLast? = some settling.middleware) :
    LogsSettlings phase request failed
      [(.call call : Signal ν),
        .returned (.reply reply),
        .event (.method (.finished phase settling.middleware none)),
        .log (settling.logLine phase request failed),
        .event (.chain report)] := by
  let line := settling.logLine phase request failed
  have isLine : line.message = phase.settledMessage := rfl
  have isOwn : line.message ∈ settledMessages := phase.settledMessage_mem
  have settlings :
      settlingsIn phase
          [(.call call : Signal ν), .returned (.reply reply),
            .event (.method (.finished phase settling.middleware none)), .log line,
            .event (.chain report)] =
        [settling] := by
    simp [settlingsIn, callsIn, replyTo, settles]
  constructor
  · rw [settlings]
    simp [settledLinesIn, List.filterMap, Signal.settledLine?, ← isLine, line]
  · rw [settlings]
    exact Nat.le_refl 1
  · intro other alsoSettles
    rw [settlings, List.mem_singleton] at alsoSettles
    subst alsoSettles
    refine ⟨[], call, reply, report, [], ?_, settles, samePhase, success, visitedLast⟩
    simp [outline_log, isOwn, line]
  · intro other reported _ unsuccessful
    obtain rfl : other = report := by
      simpa [mem_chainReportsIn] using reported
    exact (unsuccessful success).elim

/-- What is before and after some signals keeps the law if it leaves the chain out. -/
theorem surrounded
    {signals : List (Signal ν)}
    (logs : LogsSettlings phase request failed signals)
    (earlier later : List (Signal ν))
    (sameSettlings : settlingsIn phase (earlier ++ signals ++ later) = settlingsIn phase signals)
    (sameLines : settledLinesIn phase (earlier ++ signals ++ later) = settledLinesIn phase signals)
    (sameReports :
      ∀ report ∈ chainReportsIn (earlier ++ signals ++ later),
        report.phase = phase → report ∈ chainReportsIn signals) :
    LogsSettlings phase request failed (earlier ++ signals ++ later) := by
  constructor
  · rw [sameSettlings, sameLines]
    exact logs.lines
  · rw [sameSettlings]
    exact logs.atMostOne
  · intro settling settles
    rw [sameSettlings] at settles
    rw [outline_append, outline_append]
    exact (logs.shows settling settles).append (outline earlier) (outline later)
  · intro report reported samePhase unsuccessful
    rw [sameLines]
    exact
      logs.notOtherwise report (sameReports report reported samePhase) samePhase unsuccessful

/-- The law passes on to what follows signals that leave the chain out. -/
theorem behind
    (secondLogs : LogsSettlings phase request failed second)
    (leavesOut : LeavesOut phase first)
    (allBack : AllBack first) :
    LogsSettlings phase request failed (first ++ second) := by
  have whole : first ++ second ++ [] = first ++ second := List.append_nil _
  rw [← whole]
  apply secondLogs.surrounded first []
  · rw [whole, allBack.settlingsIn_append, leavesOut.noSettling, List.nil_append]
  · rw [whole, settledLinesIn_append, leavesOut.noLine, List.nil_append]
  · intro report reported samePhase
    rw [whole, chainReportsIn_append, List.mem_append] at reported
    exact reported.resolve_left fun inFirst => leavesOut.noReport report inFirst samePhase

/-- The law stays with what is followed by signals that leave the chain out. -/
theorem before
    (firstLogs : LogsSettlings phase request failed first)
    (allBack : AllBack first)
    (leavesOut : LeavesOut phase second) :
    LogsSettlings phase request failed (first ++ second) := by
  apply firstLogs.surrounded [] second
  · rw [List.nil_append, allBack.settlingsIn_append, leavesOut.noSettling, List.append_nil]
  · rw [List.nil_append, settledLinesIn_append, leavesOut.noLine, List.append_nil]
  · intro report reported samePhase
    rw [List.nil_append, chainReportsIn_append, List.mem_append] at reported
    exact reported.resolve_right fun inSecond => leavesOut.noReport report inSecond samePhase

/-- The law is one about the outline. -/
theorem ofOutline
    {signals : List (Signal ν)}
    (logs : LogsSettlings phase request failed (outline signals)) :
    LogsSettlings phase request failed signals := by
  have sameOutline : outline (outline signals) = outline signals := by
    simp [outline]
  constructor
  · simpa using logs.lines
  · simpa using logs.atMostOne
  · simpa [sameOutline] using logs.shows
  · simpa using logs.notOtherwise

end LogsSettlings

theorem LeavesOut.append
    {phase : Phase}
    {first second : List (Signal ν)}
    (firstOut : LeavesOut phase first)
    (allBack : AllBack first)
    (secondOut : LeavesOut phase second) :
    LeavesOut phase (first ++ second) where
  noSettling := by
    rw [allBack.settlingsIn_append, firstOut.noSettling, secondOut.noSettling, List.append_nil]
  noLine := by
    rw [settledLinesIn_append, firstOut.noLine, secondOut.noLine, List.append_nil]
  noReport report reported := by
    rw [chainReportsIn_append, List.mem_append] at reported
    rcases reported with inFirst | inSecond
    · exact firstOut.noReport report inFirst
    · exact secondOut.noReport report inSecond

namespace Chain

variable {chain : Chain σ ν ι κ}
variable {request : Request}
variable {failed : Option Failure}

/-- A chain is settled and logged as the chains of its phase are. -/
structure SettlesByPhase
    (chain : Chain σ ν ι κ)
    (request : Request)
    (failed : Option Failure) :
    Prop extends WellFormed chain where
  settles_iff :
    ∀ middleware reply outcome,
      chain.verdict middleware (.ok reply) = .ok (.settle outcome) ↔
        chain.phase.settles? reply = some outcome
  settledLine_eq :
    ∀ middleware outcome,
      chain.settledLine middleware outcome =
        Settling.logLine ⟨middleware, outcome⟩ chain.phase request failed

/-- A hook that settles the chain settles the one of its phase. -/
theorem SettlesByPhase.settling?_of_settle
    (settlesByPhase : chain.SettlesByPhase request failed)
    (entry : Entry σ ν ι)
    (carried : κ)
    {reply : Reply}
    {outcome : Outcome}
    (verdict : chain.verdict entry.middleware (.ok reply) = .ok (.settle outcome)) :
    settling? chain.phase (chain.callOf entry carried, some (.reply reply)) =
      some ⟨entry.middleware, outcome⟩ := by
  have settles := (settlesByPhase.settles_iff ..).mp verdict
  simp [settling?, settlesByPhase.hookIn?_callOf, settles]

/-- A hook that does not settle the chain settles none. -/
theorem SettlesByPhase.settling?_eq_none
    (settlesByPhase : chain.SettlesByPhase request failed)
    (entry : Entry σ ν ι)
    (carried : κ)
    {answer : Answer}
    (unsettled : ∀ outcome, chain.verdict entry.middleware answer ≠ .ok (.settle outcome))
    (phase : Phase) :
    settling? phase (chain.callOf entry carried, some (.ofAnswer answer)) = none := by
  cases answer with
  | error cause => rfl
  | ok reply =>
      simp only [settling?, Return.ofAnswer, settlesByPhase.hookIn?_callOf]
      split
      case isFalse => rfl
      case isTrue samePhase =>
        cases settles : phase.settles? reply with
        | none => rfl
        | some outcome =>
            subst samePhase
            exact (unsettled outcome ((settlesByPhase.settles_iff ..).mpr settles)).elim

/-- A hook settles no chain of another phase. -/
theorem WellFormed.settling?_elsewhere
    (wellFormed : chain.WellFormed)
    (entry : Entry σ ν ι)
    (carried : κ)
    {phase : Phase}
    (elsewhere : chain.phase ≠ phase)
    (reply : Option Return) :
    settling? phase (chain.callOf entry carried, reply) = none := by
  unfold settling?
  split
  case h_2 => rfl
  case h_1 call reply same =>
    cases same
    simp [wellFormed.hookIn?_callOf, elsewhere]

/-- A hook call that comes back settles what it settles, and logs no line itself. -/
theorem settlingsIn_answered
    (phase : Phase)
    (entry : Entry σ ν ι)
    (carried : κ)
    (answer : Answer)
    (rest : List (Signal ν)) :
    settlingsIn phase (chain.answered entry carried answer ++ rest) =
      (settling? phase (chain.callOf entry carried, some (.ofAnswer answer))).toList ++
        settlingsIn phase rest := by
  rw [settlingsIn, callsIn_answered, List.filterMap_cons]
  cases settling? phase (chain.callOf entry carried, some (.ofAnswer answer)) <;> rfl

/-- The line for another chain does not say that the chain of a phase is settled. -/
theorem SettlesByPhase.settledLinesIn_elsewhere
    (settlesByPhase : chain.SettlesByPhase request failed)
    (middleware : String)
    (outcome : Outcome)
    {phase : Phase}
    (elsewhere : chain.phase ≠ phase)
    (event : Event) :
    settledLinesIn phase
        [(.log (chain.settledLine middleware outcome) : Signal ν), .event event] =
      [] := by
  have otherMessage :
      (chain.settledLine middleware outcome).message ≠ phase.settledMessage := by
    rw [settlesByPhase.settledLine_eq]
    exact fun same => elsewhere (Phase.settledMessage_inj.mp same)
  simp [settledLinesIn, Signal.settledLine?, otherMessage]

/-- A hook that does not settle its chain shows no settling, line or run of a chain. -/
theorem SettlesByPhase.leavesOut_answered
    (settlesByPhase : chain.SettlesByPhase request failed)
    (entry : Entry σ ν ι)
    (carried : κ)
    {answer : Answer}
    (unsettled : ∀ outcome, chain.verdict entry.middleware answer ≠ .ok (.settle outcome))
    (phase : Phase) :
    LeavesOut phase (chain.answered entry carried answer : List (Signal ν)) where
  noSettling := by
    rw [← List.append_nil (chain.answered ..), settlingsIn_answered,
      settlesByPhase.settling?_eq_none entry carried unsettled]
    rfl
  noLine := rfl
  noReport := List.forall_mem_nil _

/-- Where all hooks have let their chain proceed, nothing settles it. -/
theorem Conclusion.isUnsettled
    {visited : List String}
    {carried : κ}
    {signals : List (Signal ν)}
    {standing : Standing σ (Signal ν) (Except Failure Outcome)}
    (conclusion : chain.Conclusion visited carried signals standing)
    (phase : Phase) :
    IsUnsettled phase signals := by
  cases conclusion with
  | stated concluded left => exact ⟨rfl, rfl⟩
  | transported concluded answer left => cases answer <;> exact ⟨rfl, rfl⟩
  | panicked concluded message => exact ⟨rfl, rfl⟩
  | suspended concluded abandon closes => exact ⟨rfl, rfl⟩

/-- A run of a chain settles no chain of another phase. -/
theorem Course.leavesOut
    (settlesByPhase : chain.SettlesByPhase request failed)
    {visited : List String}
    {carried : κ}
    {entries : List (Entry σ ν ι)}
    {signals : List (Signal ν)}
    {standing : Standing σ (Signal ν) (Except Failure Outcome)}
    (course : chain.Course visited carried entries signals standing)
    (dropped : Option σ)
    {phase : Phase}
    (elsewhere : chain.phase ≠ phase) :
    LeavesOut phase (signals ++ outline (standing.closing dropped)) := by
  have unsettled : IsUnsettled phase signals := by
    have settlesNone :=
      fun entry carried reply =>
        settlesByPhase.settling?_elsewhere (ν := ν) entry carried elsewhere reply
    induction course with
    | conclude conclusion => exact conclusion.isUnsettled phase
    | proceed verdict later inductionHypothesis =>
        refine ⟨?_, inductionHypothesis.noLine⟩
        rw [settlingsIn_answered, settlesNone, inductionHypothesis.noSettling]
        rfl
    | settle verdict left =>
        refine ⟨?_, settlesByPhase.settledLinesIn_elsewhere _ _ elsewhere _⟩
        rw [settlingsIn_answered, settlesNone]
        rfl
    | fail verdict left =>
        refine ⟨?_, rfl⟩
        rw [settlingsIn_answered, settlesNone]
        rfl
    | panic message => exact ⟨rfl, rfl⟩
    | suspend abandon closes => exact ⟨rfl, rfl⟩
  have closing := course.outline_closing settlesByPhase.toWellFormed dropped
  refine ⟨unsettled.append_events closing, ?_⟩
  intro report reported
  obtain ⟨visitedThen, rfl⟩ := course.exists_eq_reportAt dropped report reported
  rwa [phase_reportAt]

/-- The hook call that settles a run is followed by the line and the report of the run. -/
theorem SettlesByPhase.logsSettlings_settle
    (settlesByPhase : chain.SettlesByPhase request failed)
    (visited : List String)
    (entry : Entry σ ν ι)
    (carried : κ)
    {answer : Answer}
    {outcome : Outcome}
    (verdict : chain.verdict entry.middleware answer = .ok (.settle outcome)) :
    LogsSettlings (ν := ν) chain.phase request failed
      (chain.answered entry carried answer ++
        [.log (chain.settledLine entry.middleware outcome),
          .event (chain.finishedRun (visited ++ [entry.middleware]) (.ok outcome))]) := by
  obtain ⟨reply, rfl⟩ : ∃ reply, answer = .ok reply := by
    cases answer with
    | error cause => cases verdict
    | ok reply => exact ⟨reply, rfl⟩
  have settles := settlesByPhase.settling?_of_settle entry carried verdict
  have answered :
      chain.answered entry carried (.ok reply) =
        [(.call (chain.callOf entry carried) : Signal ν), .returned (.reply reply),
          .event (.method (.finished chain.phase entry.middleware none))] := by
    rw [Chain.answered, verdict]
    rfl
  rw [answered, settlesByPhase.settledLine_eq]
  exact .ofSettling settles rfl ⟨rfl, rfl, rfl⟩ List.getLast?_concat

/-- Wherever a run of a chain is left, it says that it is settled exactly if it is. -/
theorem Course.logsSettlings
    (settlesByPhase : chain.SettlesByPhase request failed)
    {visited : List String}
    {carried : κ}
    {entries : List (Entry σ ν ι)}
    {signals : List (Signal ν)}
    {standing : Standing σ (Signal ν) (Except Failure Outcome)}
    (course : chain.Course visited carried entries signals standing)
    (dropped : Option σ) :
    LogsSettlings chain.phase request failed (signals ++ outline (standing.closing dropped)) := by
  have closing := course.outline_closing settlesByPhase.toWellFormed dropped
  induction course with
  | conclude conclusion =>
      exact .ofUnsettled ((conclusion.isUnsettled chain.phase).append_events closing)
  | @proceed _ carried _ entry _ answer _ _ verdict later inductionHypothesis =>
      have unsettled :
          ∀ outcome, chain.verdict entry.middleware answer ≠ .ok (.settle outcome) := by
        simp [verdict]
      have leavesOut := settlesByPhase.leavesOut_answered entry carried unsettled chain.phase
      rw [List.append_assoc]
      refine (inductionHypothesis closing).behind leavesOut ?_
      simp [AllBack, answered, callsIn, replyTo]
  | @settle visited carried entry rest answer outcome verdict left =>
      rw [Standing.closing_eq_nil rfl, outline_nil, List.append_nil]
      exact settlesByPhase.logsSettlings_settle visited entry carried verdict
  | @fail visited carried entry rest answer failure verdict left =>
      have unsettled :
          ∀ outcome, chain.verdict entry.middleware answer ≠ .ok (.settle outcome) := by
        simp [verdict]
      have leavesOut := settlesByPhase.leavesOut_answered entry carried unsettled chain.phase
      refine .ofUnsettled (.append_events (.append_events leavesOut.toIsUnsettled ?_) closing)
      exact ⟨[chain.finishedRun (visited ++ [entry.middleware]) (.error failure)], rfl⟩
  | panic message =>
      exact .ofUnsettled (.append_events ⟨rfl, rfl⟩ closing)
  | suspend abandon closes =>
      exact .ofUnsettled (.append_events ⟨rfl, rfl⟩ closing)

/-- Wherever a run is left, the lines tell for each phase whether it settles its chain. -/
theorem Course.logsSettlingsOf
    (settlesByPhase : chain.SettlesByPhase request failed)
    {visited : List String}
    {carried : κ}
    {entries : List (Entry σ ν ι)}
    {signals : List (Signal ν)}
    {standing : Standing σ (Signal ν) (Except Failure Outcome)}
    (course : chain.Course visited carried entries signals standing)
    (dropped : Option σ)
    (phase : Phase) :
    LogsSettlings phase request failed (signals ++ outline (standing.closing dropped)) := by
  by_cases own : chain.phase = phase
  · subst own
    exact course.logsSettlings settlesByPhase dropped
  · exact .ofUnsettled (course.leavesOut settlesByPhase dropped own).toIsUnsettled

/-- A run that has finished shows no chain of another phase. -/
theorem Course.leavesOut_of_finished
    (settlesByPhase : chain.SettlesByPhase request failed)
    {visited : List String}
    {carried : κ}
    {entries : List (Entry σ ν ι)}
    {signals : List (Signal ν)}
    {result : Except Failure Outcome}
    {left : List σ}
    (course : chain.Course visited carried entries signals (.finished result left))
    {phase : Phase}
    (elsewhere : chain.phase ≠ phase) :
    LeavesOut phase signals := by
  simpa [Standing.closing] using course.leavesOut settlesByPhase none elsewhere

/-- A run that has finished keeps the law for what follows it without its phase. -/
theorem Course.logsSettlings_append
    (settlesByPhase : chain.SettlesByPhase request failed)
    {visited : List String}
    {carried : κ}
    {entries : List (Entry σ ν ι)}
    {signals later : List (Signal ν)}
    {result : Except Failure Outcome}
    {left : List σ}
    (course : chain.Course visited carried entries signals (.finished result left))
    (leavesOut : LeavesOut chain.phase later)
    (laterLogs : ∀ phase, LogsSettlings phase request failed later)
    (phase : Phase) :
    LogsSettlings phase request failed (signals ++ later) := by
  have allBack := course.isOrderly.allBack
  by_cases own : chain.phase = phase
  · subst own
    have logs : LogsSettlings chain.phase request failed signals := by
      simpa [Standing.closing] using course.logsSettlings settlesByPhase none
    exact logs.before allBack leavesOut
  · exact (laterLogs phase).behind (course.leavesOut_of_finished settlesByPhase own) allBack

end Chain

end Middleware
