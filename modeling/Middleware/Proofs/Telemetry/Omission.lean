import Middleware.Proofs.Telemetry.Outline

namespace Middleware

/-!
# Leaving a hook out of what a download shows

A hook is given by its phase and its place among the hooks of the phase. What a
download shows is left without it by leaving out the call at its place with what
the call comes back with, the report of this call, and in each chain report of
the phase the visit at its place. Names have no part in this, so it makes no
difference whether other hooks go by the same name.
-/

variable {ν α : Type}

/--
A list without the item at a place among the items that count. What follows this
item is kept up to what is skipped with it.
-/
def leaveOutNth
    (counts : α → Bool)
    (skip : List α → List α) :
    Nat →
    List α →
    List α
  | _, [] => []
  | place, item :: rest =>
      if counts item then
        match place with
        | 0 => skip rest
        | earlier + 1 => item :: leaveOutNth counts skip earlier rest
      else
        item :: leaveOutNth counts skip place rest

section LeaveOutNth

variable {counts : α → Bool}
variable {skip : List α → List α}
variable {item : α}

theorem leaveOutNth_cons_of_not
    (notCounted : counts item = false)
    (place : Nat)
    (rest : List α) :
    leaveOutNth counts skip place (item :: rest) =
      item :: leaveOutNth counts skip place rest := by
  simp only [leaveOutNth, notCounted, Bool.false_eq_true, ↓reduceIte]

theorem leaveOutNth_zero
    (counted : counts item)
    (rest : List α) :
    leaveOutNth counts skip 0 (item :: rest) = skip rest := by
  simp only [leaveOutNth, counted, ↓reduceIte]

theorem leaveOutNth_succ
    (counted : counts item)
    (earlier : Nat)
    (rest : List α) :
    leaveOutNth counts skip (earlier + 1) (item :: rest) =
      item :: leaveOutNth counts skip earlier rest := by
  simp only [leaveOutNth, counted, ↓reduceIte]

/-- Items that do not count are kept before all others. -/
theorem leaveOutNth_append_left
    {first : List α}
    (noneCounts : ∀ item ∈ first, counts item = false)
    (place : Nat)
    (second : List α) :
    leaveOutNth counts skip place (first ++ second) =
      first ++ leaveOutNth counts skip place second := by
  induction first with
  | nil =>
      rfl
  | cons item rest inductionHypothesis =>
      obtain ⟨itemNot, restNot⟩ := List.forall_mem_cons.mp noneCounts
      rw [List.cons_append, leaveOutNth_cons_of_not itemNot, inductionHypothesis restNot,
        List.cons_append]

/-- Items that do not count are kept after all others if they are not skipped. -/
theorem leaveOutNth_append_right
    {second : List α}
    (noneCounts : ∀ item ∈ second, counts item = false)
    (skips : ∀ first, skip (first ++ second) = skip first ++ second)
    (place : Nat)
    (first : List α) :
    leaveOutNth counts skip place (first ++ second) =
      leaveOutNth counts skip place first ++ second := by
  induction first generalizing place with
  | nil =>
      have kept : leaveOutNth counts skip place (second ++ []) = second ++ [] :=
        leaveOutNth_append_left noneCounts place []
      simpa [leaveOutNth] using kept
  | cons item rest inductionHypothesis =>
      rw [List.cons_append]
      by_cases counted : counts item
      · cases place with
        | zero =>
            rw [leaveOutNth_zero counted, leaveOutNth_zero counted, skips]
        | succ earlier =>
            rw [leaveOutNth_succ counted, leaveOutNth_succ counted, inductionHypothesis,
              List.cons_append]
      · have notCounted : counts item = false := by simpa using counted
        rw [leaveOutNth_cons_of_not notCounted, leaveOutNth_cons_of_not notCounted,
          inductionHypothesis, List.cons_append]

/-- Where no more items count than there are before the place, all are kept. -/
theorem leaveOutNth_eq_self
    {items : List α}
    {place : Nat}
    (few : items.countP counts ≤ place) :
    leaveOutNth counts skip place items = items := by
  induction items generalizing place with
  | nil =>
      rfl
  | cons item rest inductionHypothesis =>
      by_cases counted : counts item
      · rw [List.countP_cons_of_pos counted] at few
        obtain ⟨earlier, rfl⟩ := Nat.exists_eq_add_of_le' (Nat.le_of_add_left_le few)
        rw [leaveOutNth_succ counted, inductionHypothesis (Nat.le_of_add_le_add_right few)]
      · rw [List.countP_cons_of_neg counted] at few
        have notCounted : counts item = false := by simpa using counted
        rw [leaveOutNth_cons_of_not notCounted, inductionHypothesis few]

end LeaveOutNth

/-- A chain report without the visit at a place. -/
def ChainReport.withoutVisit
    (place : Nat)
    (report : ChainReport) :
    ChainReport :=
  { report with
    visited := report.visited.eraseIdx place
    count := if place < report.visited.length then report.count - 1 else report.count }

/-- A report of too few visits has none at the place. -/
theorem ChainReport.withoutVisit_of_length_le
    {place : Nat}
    {report : ChainReport}
    (few : report.visited.length ≤ place) :
    report.withoutVisit place = report := by
  simp [withoutVisit, List.eraseIdx_of_length_le few, Nat.not_lt.mpr few]

namespace Signal

/-- Whether a signal is the call of a hook of a phase. -/
def isCallIn
    (phase : Phase)
    (signal : Signal ν) :
    Bool :=
  (signal.hookCallIn? phase).isSome

/-- Whether a signal is the report of a hook call of a phase. -/
def isReportIn (phase : Phase) : Signal ν → Bool
  | .event (.method report) => report.phase = phase
  | _ => false

/-- A signal in which, if it is a chain report of a phase, the visit at a place is left out. -/
def withoutVisit
    (phase : Phase)
    (place : Nat) :
    Signal ν →
    Signal ν
  | .event (.chain report) =>
      if report.phase = phase then .event (.chain (report.withoutVisit place))
      else .event (.chain report)
  | signal => signal

/-- Whether a signal has no part in the chain of a phase. -/
def isOutside (phase : Phase) : Signal ν → Bool
  | .call value => (value.hookIn? phase).isNone
  | .event value => value.phase ≠ phase
  | .returned _ | .note _ | .log _ => true

variable {phase : Phase}
variable {signal : Signal ν}

theorem isCallIn_of_isOutside (outside : signal.isOutside phase) :
    signal.isCallIn phase = false := by
  cases signal with
  | call call => simpa [isCallIn, hookCallIn?, isOutside] using outside
  | _ => rfl

theorem isReportIn_of_isOutside (outside : signal.isOutside phase) :
    signal.isReportIn phase = false := by
  cases signal with
  | event event =>
      cases event with
      | method report =>
          have other : report.phase ≠ phase := of_decide_eq_true outside
          exact decide_eq_false other
      | chain report => rfl
  | _ => rfl

theorem withoutVisit_of_isOutside
    (outside : signal.isOutside phase)
    (place : Nat) :
    signal.withoutVisit phase place = signal := by
  cases signal with
  | event event =>
      cases event with
      | method report => rfl
      | chain report =>
          have other : report.phase ≠ phase := of_decide_eq_true outside
          rw [withoutVisit, if_neg other]
  | _ => rfl

end Signal

/-- The outline may be read before or after a visit is left out of the reports. -/
theorem outline_map_withoutVisit
    (phase : Phase)
    (place : Nat)
    (signals : List (Signal ν)) :
    outline (signals.map (Signal.withoutVisit phase place)) =
      (outline signals).map (Signal.withoutVisit phase place) := by
  have sameOwn :
      Signal.isOwn ∘ Signal.withoutVisit phase place = (Signal.isOwn : Signal ν → Bool) := by
    funext signal
    cases signal with
    | event event =>
        cases event with
        | method report => rfl
        | chain report =>
            by_cases own : report.phase = phase <;>
              simp [Signal.withoutVisit, own, Signal.isOwn]
    | _ => rfl
  rw [outline, outline, List.filter_map, sameOwn]

/-- What comes after the return with which signals begin, if they do. -/
def afterReturn : List (Signal ν) → List (Signal ν)
  | .returned _ :: rest => rest
  | signals => signals

/-- Signals that begin without a return are kept after a call has come back. -/
theorem afterReturn_append
    {second : List (Signal ν)}
    (noReturn : replyTo second = none)
    (first : List (Signal ν)) :
    afterReturn (first ++ second) = afterReturn first ++ second := by
  cases first with
  | nil =>
      cases second with
      | nil => rfl
      | cons signal rest =>
          cases signal with
          | returned value => cases noReturn
          | _ => rfl
  | cons signal rest => cases signal <;> rfl

/--
What is shown without a hook, from some point on: `ahead` hooks of the phase are
yet to be called before the hook, whose place is given.
-/
def leaveOutFrom
    (phase : Phase)
    (ahead place : Nat)
    (signals : List (Signal ν)) :
    List (Signal ν) :=
  (leaveOutNth (Signal.isReportIn phase) id ahead
      (leaveOutNth (Signal.isCallIn phase) afterReturn ahead signals)).map
    (Signal.withoutVisit phase place)

/-- What is shown without the hook at a place of a phase, if there is one. -/
def leaveOutHook
    (phase : Phase) :
    Option Nat →
    List (Signal ν) →
    List (Signal ν)
  | none, signals => signals
  | some place, signals => leaveOutFrom phase place place signals

/-- What is shown without the hooks of a layer, whose places in the phases are given. -/
def leaveOutLayer
    (places : Phase → Option Nat)
    (signals : List (Signal ν)) :
    List (Signal ν) :=
  leaveOutHook .exception (places .exception)
    (leaveOutHook .response (places .response)
      (leaveOutHook .request (places .request) signals))

section LeaveOutFrom

variable {phase : Phase}
variable {call : Call}
variable {report : MethodReport}

/-- A hook that comes back is left out, and with its visit left out, all that follows is kept. -/
theorem leaveOutFrom_zero
    (calls : (call.hookIn? phase).isSome)
    (reports : report.phase = phase)
    (value : Return)
    (place : Nat)
    (rest : List (Signal ν)) :
    leaveOutFrom phase 0 place (.call call :: .returned value :: .event (.method report) :: rest) =
      rest.map (Signal.withoutVisit phase place) := by
  have isCall : (Signal.call call : Signal ν).isCallIn phase := calls
  have isReport : (Signal.event (.method report) : Signal ν).isReportIn phase :=
    decide_eq_true reports
  rw [leaveOutFrom, leaveOutNth_zero isCall, afterReturn, leaveOutNth_zero isReport]
  rfl

/-- A hook ahead of the one that is left out is kept if it comes back. -/
theorem leaveOutFrom_succ
    (calls : (call.hookIn? phase).isSome)
    (reports : report.phase = phase)
    (value : Return)
    (ahead place : Nat)
    (rest : List (Signal ν)) :
    leaveOutFrom phase (ahead + 1) place
        (.call call :: .returned value :: .event (.method report) :: rest) =
      .call call :: .returned value :: .event (.method report) ::
        leaveOutFrom phase ahead place rest := by
  have isCall : (Signal.call call : Signal ν).isCallIn phase := calls
  have isReport : (Signal.event (.method report) : Signal ν).isReportIn phase :=
    decide_eq_true reports
  have returnNot : (Signal.returned value : Signal ν).isCallIn phase = false := rfl
  have reportNot : (Signal.event (.method report) : Signal ν).isCallIn phase = false := rfl
  have callNot : (Signal.call call : Signal ν).isReportIn phase = false := rfl
  have returnNeither : (Signal.returned value : Signal ν).isReportIn phase = false := rfl
  rw [leaveOutFrom, leaveOutNth_succ isCall, leaveOutNth_cons_of_not returnNot,
    leaveOutNth_cons_of_not reportNot, leaveOutNth_cons_of_not callNot,
    leaveOutNth_cons_of_not returnNeither, leaveOutNth_succ isReport]
  rfl

/-- Where no more hooks are called than are ahead of the one that is left out, all is kept. -/
theorem leaveOutFrom_eq_self
    {ahead place : Nat}
    {signals : List (Signal ν)}
    (fewCalls : signals.countP (Signal.isCallIn phase) ≤ ahead)
    (fewReports : signals.countP (Signal.isReportIn phase) ≤ ahead)
    (fewVisits : ∀ report, .event (.chain report) ∈ signals → report.visited.length ≤ place) :
    leaveOutFrom phase ahead place signals = signals := by
  have sameVisits : ∀ signal ∈ signals, signal.withoutVisit phase place = id signal := by
    intro signal member
    cases signal with
    | event event =>
        cases event with
        | method report => rfl
        | chain report =>
            have unchanged := ChainReport.withoutVisit_of_length_le (fewVisits report member)
            by_cases own : report.phase = phase
            · rw [Signal.withoutVisit, if_pos own, unchanged]
              rfl
            · rw [Signal.withoutVisit, if_neg own]
              rfl
    | _ => rfl
  rw [leaveOutFrom, leaveOutNth_eq_self fewCalls, leaveOutNth_eq_self fewReports,
    List.map_congr_left sameVisits, List.map_id]

/-- After a single call, of a hook ahead of the one that is left out, all is kept. -/
theorem leaveOutFrom_single
    (call : Call)
    {later : List (Signal ν)}
    (noCalls : later.countP (Signal.isCallIn phase) = 0)
    (fewReports : later.countP (Signal.isReportIn phase) ≤ 1)
    {place : Nat}
    (fewVisits : ∀ report, .event (.chain report) ∈ later → report.visited.length ≤ place)
    (ahead : Nat) :
    leaveOutFrom phase (ahead + 1) place (.call call :: later) = .call call :: later := by
  have notReport : (Signal.call call : Signal ν).isReportIn phase ≠ true := Bool.false_ne_true
  apply leaveOutFrom_eq_self
  · have atMostOne : [(.call call : Signal ν)].countP (Signal.isCallIn phase) ≤ 1 :=
      List.countP_le_length
    rw [← List.singleton_append, List.countP_append, noCalls]
    exact Nat.le_trans atMostOne (Nat.le_add_left 1 ahead)
  · rw [List.countP_cons_of_neg notReport]
    exact Nat.le_trans fewReports (Nat.le_add_left 1 ahead)
  · intro report member
    rcases List.mem_cons.mp member with isCall | inLater
    · cases isCall
    · exact fewVisits report inLater

end LeaveOutFrom

section Outside

variable {phase : Phase}
variable {outside : List (Signal ν)}

theorem isCallIn_eq_false_of_outside
    (isOutside : ∀ signal ∈ outside, signal.isOutside phase) :
    ∀ signal ∈ outside, signal.isCallIn phase = false :=
  fun signal member => Signal.isCallIn_of_isOutside (isOutside signal member)

theorem isReportIn_eq_false_of_outside
    (isOutside : ∀ signal ∈ outside, signal.isOutside phase) :
    ∀ signal ∈ outside, signal.isReportIn phase = false :=
  fun signal member => Signal.isReportIn_of_isOutside (isOutside signal member)

theorem map_withoutVisit_of_outside
    (isOutside : ∀ signal ∈ outside, signal.isOutside phase)
    (place : Nat) :
    outside.map (Signal.withoutVisit phase place) = outside := by
  have unchanged : ∀ signal ∈ outside, signal.withoutVisit phase place = id signal :=
    fun signal member => Signal.withoutVisit_of_isOutside (isOutside signal member) place
  rw [List.map_congr_left unchanged, List.map_id]

theorem leaveOutFrom_append_left
    (isOutside : ∀ signal ∈ outside, signal.isOutside phase)
    (ahead place : Nat)
    (signals : List (Signal ν)) :
    leaveOutFrom phase ahead place (outside ++ signals) =
      outside ++ leaveOutFrom phase ahead place signals := by
  rw [leaveOutFrom, leaveOutNth_append_left (isCallIn_eq_false_of_outside isOutside),
    leaveOutNth_append_left (isReportIn_eq_false_of_outside isOutside), List.map_append,
    map_withoutVisit_of_outside isOutside]
  rfl

theorem leaveOutFrom_append_right
    (isOutside : ∀ signal ∈ outside, signal.isOutside phase)
    (noReturn : replyTo outside = none)
    (ahead place : Nat)
    (signals : List (Signal ν)) :
    leaveOutFrom phase ahead place (signals ++ outside) =
      leaveOutFrom phase ahead place signals ++ outside := by
  rw [leaveOutFrom,
    leaveOutNth_append_right (isCallIn_eq_false_of_outside isOutside) (afterReturn_append noReturn),
    leaveOutNth_append_right (isReportIn_eq_false_of_outside isOutside) (fun _ => rfl),
    List.map_append, map_withoutVisit_of_outside isOutside]
  rfl

/-- Signals outside of the phase of a hook, before all others, are kept. -/
theorem leaveOutHook_append_left
    (isOutside : ∀ signal ∈ outside, signal.isOutside phase)
    (place : Option Nat)
    (signals : List (Signal ν)) :
    leaveOutHook phase place (outside ++ signals) =
      outside ++ leaveOutHook phase place signals := by
  cases place with
  | none => rfl
  | some place => exact leaveOutFrom_append_left isOutside place place signals

/-- Signals outside of the phase of a hook, after all others, are kept. -/
theorem leaveOutHook_append_right
    (isOutside : ∀ signal ∈ outside, signal.isOutside phase)
    (noReturn : replyTo outside = none)
    (place : Option Nat)
    (signals : List (Signal ν)) :
    leaveOutHook phase place (signals ++ outside) =
      leaveOutHook phase place signals ++ outside := by
  cases place with
  | none => rfl
  | some place => exact leaveOutFrom_append_right isOutside noReturn place place signals

end Outside

/-- What a run of the chain of a phase shows: nothing of other phases, and no return at first. -/
structure IsStage
    (phase : Phase)
    (signals : List (Signal ν)) :
    Prop where
  outside : ∀ other ≠ phase, ∀ signal ∈ signals, signal.isOutside other
  noReturn : replyTo signals = none

/-- A chain that is not run shows nothing. -/
theorem IsStage.nil (phase : Phase) : IsStage phase ([] : List (Signal ν)) :=
  ⟨fun _ _ _ member => (List.not_mem_nil member).elim, rfl⟩

theorem IsStage.hookCallsIn_eq_nil
    {phase other : Phase}
    {signals : List (Signal ν)}
    (stage : IsStage phase signals)
    (different : other ≠ phase) :
    hookCallsIn other signals = [] := by
  rw [hookCallsIn, List.filterMap_eq_nil_iff]
  intro signal member
  have noCall := Signal.isCallIn_of_isOutside (stage.outside other different signal member)
  simpa [Signal.isCallIn] using noCall

/--
What a run of the chain of a phase shows, with the hook at a place of it and
without it. The hook that is called at the place is that of a given middleware.
-/
structure IsStageWithout
    (phase : Phase)
    (place : Option Nat)
    (middleware : String)
    (signals shorter : List (Signal ν)) :
    Prop where
  omits : leaveOutHook phase place signals = shorter
  own : ∀ number ∈ place, ∀ called ∈ (hookCallsIn phase signals)[number]?, called = middleware
  stage : IsStage phase signals
  shorterStage : IsStage phase shorter

theorem IsStageWithout.nil
    (phase : Phase)
    (place : Option Nat)
    (middleware : String) :
    IsStageWithout phase place middleware ([] : List (Signal ν)) [] := by
  refine ⟨?omits, ?own, .nil phase, .nil phase⟩
  case omits => cases place <;> rfl
  case own => intro number _ called none; cases none

/--
What a download shows, with the hooks of a layer and without them. The hooks that
are called at their places are those of a given middleware.
-/
structure IsWithoutLayer
    (places : Phase → Option Nat)
    (middleware : String)
    (signals shorter : List (Signal ν)) :
    Prop where
  omits : leaveOutLayer places signals = shorter
  own :
    ∀ phase, ∀ number ∈ places phase,
      ∀ called ∈ (hookCallsIn phase signals)[number]?, called = middleware

/-- The hooks of a layer are left out of what the three chains show one by one. -/
theorem IsWithoutLayer.of_stages
    {places : Phase → Option Nat}
    {middleware : String}
    {sent recovered received : List (Signal ν)}
    {sentThen recoveredThen receivedThen : List (Signal ν)}
    (sends : IsStageWithout .request (places .request) middleware sent sentThen)
    (recovers :
      IsStageWithout .exception (places .exception) middleware recovered recoveredThen)
    (receives : IsStageWithout .response (places .response) middleware received receivedThen) :
    IsWithoutLayer places middleware (sent ++ (recovered ++ received))
      (sentThen ++ (recoveredThen ++ receivedThen)) := by
  constructor
  case omits =>
    have noReturn : replyTo (recovered ++ received) = none :=
      (replyTo_append recovered receives.stage.noReturn).trans recovers.stage.noReturn
    have laterOutside : ∀ signal ∈ recovered ++ received, signal.isOutside .request := by
      intro signal member
      rcases List.mem_append.mp member with inRecovered | inReceived
      · exact recovers.stage.outside .request (by decide) signal inRecovered
      · exact receives.stage.outside .request (by decide) signal inReceived
    rw [leaveOutLayer, leaveOutHook_append_right laterOutside noReturn, sends.omits,
      leaveOutHook_append_left (sends.shorterStage.outside .response (by decide)),
      leaveOutHook_append_left (recovers.stage.outside .response (by decide)), receives.omits,
      leaveOutHook_append_left (sends.shorterStage.outside .exception (by decide)),
      leaveOutHook_append_right (receives.shorterStage.outside .exception (by decide))
        receives.shorterStage.noReturn,
      recovers.omits]
  case own =>
    intro phase
    rw [hookCallsIn_append, hookCallsIn_append]
    cases phase with
    | request =>
        rw [recovers.stage.hookCallsIn_eq_nil (by decide),
          receives.stage.hookCallsIn_eq_nil (by decide), List.append_nil, List.append_nil]
        exact sends.own
    | response =>
        rw [sends.stage.hookCallsIn_eq_nil (by decide),
          recovers.stage.hookCallsIn_eq_nil (by decide), List.nil_append, List.nil_append]
        exact receives.own
    | exception =>
        rw [sends.stage.hookCallsIn_eq_nil (by decide),
          receives.stage.hookCallsIn_eq_nil (by decide), List.nil_append, List.append_nil]
        exact recovers.own

end Middleware
