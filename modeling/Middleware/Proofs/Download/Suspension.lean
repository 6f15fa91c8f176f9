import Mathlib.Algebra.Ring.Nat
import Middleware.Proofs.Chain.Provenance
import Middleware.Proofs.Chain.Suspension
import Middleware.Proofs.Download.Blocking

namespace Middleware

/-!
# The suspensions of a download

A download is suspended where its hooks and its transport are. The only other
suspension is the pause behind a request chain that has failed: at that point all
calls have come back, the report of the request chain has been handed over with its
failure, and no exception hook has been called yet.
-/

variable {σ ν : Type}

/-- A run of the request chain has been reported with a failure. -/
def RequestChainFails (events : List Event) : Prop :=
  ∃ report, .chain report ∈ events ∧ report.phase = .request ∧ report.failure.isSome

/-- Whether a block of the request phase, with events of other phases behind it, shows a failure. -/
theorem IsBlockWith.requestChainFails_iff
    {failure : Option Failure}
    {first second : List Event}
    (block : IsBlockWith .request failure first)
    (others : ∀ event ∈ second, event.phase ≠ .request) :
    RequestChainFails (first ++ second) ↔ failure.isSome := by
  obtain ⟨methods, report, rfl, _, samePhase, rfl⟩ := block
  constructor
  · rintro ⟨other, member, otherPhase, fails⟩
    rcases List.mem_append.mp member with inFirst | inSecond
    · have same : other = report := by simpa using inFirst
      rwa [← same]
    · exact (others _ inSecond otherPhase).elim
  · intro fails
    exact ⟨report, by simp, samePhase, fails⟩

/-- Whenever a task finishes, nothing that it has reported is of the request phase. -/
def Task.ReportsNoRequest
    {α : Type}
    (task : Task σ (Signal ν) α) :
    Prop :=
  ∀ state later value left,
    (task.drive state later).result = .finished value left →
      ∀ event ∈ eventsIn (task.drive state later).signals, event.phase ≠ .request

theorem Task.ReportsNoRequest.bind
    {α β : Type}
    {task : Task σ (Signal ν) α}
    {next : α → Task σ (Signal ν) β}
    (first : task.ReportsNoRequest)
    (second : ∀ value, (next value).ReportsNoRequest) :
    (task.bind next).ReportsNoRequest := by
  intro state later result left finished event member
  obtain ⟨middle, between, taskFinished, nextFinished⟩ := exists_of_finished_bind finished
  rw [drive_bind_of_finished taskFinished, Run.signals_after, eventsIn_append,
    List.mem_append] at member
  rcases member with inFirst | inSecond
  · exact first state later middle between taskFinished event inFirst
  · exact second middle _ between result left nextFinished event inSecond

/-- A chain of another phase reports nothing of the request phase. -/
theorem Chain.reportsNoRequest_run
    {ι κ : Type}
    {chain : Chain σ ν ι κ}
    (wellFormed : chain.WellFormed)
    (otherPhase : chain.phase ≠ .request)
    (entries : List (Entry σ ν ι))
    (carried : κ) :
    (chain.run entries carried).ReportsNoRequest := by
  intro state later result left finished event member
  have course := chain.course wellFormed entries carried state later
  rw [finished] at course
  rw [← eventsIn_outline] at member
  rwa [course.isBlockWith.phase_eq event member]

namespace Downloader

/-- The calls of a request chain: those of hooks, and then that of the transport if there is one. -/
def ServesSending
    (downloader : Downloader σ ν)
    (transport : Transport σ ν)
    (request : Request)
    (served : List (ServedCall σ)) :
    Prop :=
  ∃ hooks last,
    served = hooks ++ last ∧
      (downloader.requestChain transport request).Serves downloader.stack.request hooks ∧
      (last = [] ∨ (transport request).ServesCall (.transport request) last)

/-- The calls of an exception chain, if there are any. -/
def ServesRecovery
    (downloader : Downloader σ ν)
    (request : Request)
    (served : List (ServedCall σ)) :
    Prop :=
  served = [] ∨
    ∃ failure, (downloader.exceptionChain request failure).Serves downloader.stack.exception served

/-- The calls of a response chain, if there are any. -/
def ServesReceiving
    (downloader : Downloader σ ν)
    (request : Request)
    (served : List (ServedCall σ)) :
    Prop :=
  served = [] ∨
    ∃ response, (downloader.responseChain request response).Serves downloader.stack.response served

/--
Where a download pauses before it recovers: it is pending, and its calls so far are
given ones and have all come back, without an exception hook among them. All that
has been reported is a run of the request chain, with the failure in which it ended.
-/
structure PausesBehind
    (sent : List (ServedCall σ))
    (polled : List (Signal ν) × Job σ (Signal ν) (Except Failure Outcome)) :
    Prop where
  pending : polled.2.hasEnded = false
  calls : (callsIn polled.1).map Prod.fst = sent.map ServedCall.call
  allBack : AllBack polled.1
  noException : ∀ call ∈ callsIn polled.1, call.1.hookIn? .exception = none
  reported : ∃ failure, IsBlockWith .request (some failure) (eventsIn polled.1)

/--
The resumptions of a download that finishes: those of the calls of its request chain,
at most one for a pause, and those of the calls after it. The calls are all that the
download makes, each in the state in which the download makes it.
-/
structure IsResumedFor
    (downloader : Downloader σ ν)
    (transport : Transport σ ν)
    (request : Request)
    (start : σ)
    (later : List σ)
    (sent recovered received : List (ServedCall σ))
    (pause left : List σ) :
    Prop where
  sends : downloader.ServesSending transport request sent
  recovers : downloader.ServesRecovery request recovered
  receives : downloader.ServesReceiving request received
  made :
    (downloader.download transport request).madeCalls start later =
      (sent ++ recovered ++ received).map fun call => (call.call, call.made)
  resumed :
    later =
      sent.flatMap ServedCall.resumptions ++ pause ++
        (recovered ++ received).flatMap ServedCall.resumptions ++ left

theorem accountedBy_callTransport
    (transport : Transport σ ν)
    (request : Request) :
    (callTransport transport request).AccountedBy
      ((transport request).ServesCall (.transport request)) := by
  rw [callTransport_eq_bind, ← Task.bind_assoc]
  refine .bind_quiet (Task.accountedBy_call _ ?_) fun answer => ?_
  · intro state later value left finished
    exact ⟨Task.finished_of_finished_relabel finished, Task.madeCalls_relabel_note _ _ _⟩
  · exact .quiet_bind (.perform fun _ => rfl) fun _ => .done _

theorem accountedBy_send
    (downloader : Downloader σ ν)
    (transport : Transport σ ν)
    (request : Request) :
    (downloader.send transport request).AccountedBy
      (downloader.ServesSending transport request) := by
  refine Chain.accountedBy_resume _ (fun _ => ?_) (.inl rfl) downloader.stack.request [] ()
  exact (accountedBy_callTransport transport request).mono fun _ served => .inr served

theorem accountedBy_recover
    (downloader : Downloader σ ν)
    (request : Request)
    (failure : Failure) :
    (downloader.recover request failure).AccountedBy (downloader.ServesRecovery request) := by
  have concludes :
      ∀ carried,
        ((downloader.exceptionChain request failure).conclude carried).AccountedBy (· = []) :=
    fun _ => .done _
  have accounted := Chain.accountedBy_resume _ concludes rfl downloader.stack.exception [] ()
  refine accounted.mono ?_
  rintro _ ⟨hooks, _, rfl, served, rfl⟩
  rw [List.append_nil]
  exact .inr ⟨failure, served⟩

theorem accountedBy_receive
    (downloader : Downloader σ ν)
    (request : Request)
    (outcome : Outcome) :
    (downloader.receive request (some outcome)).AccountedBy
      (downloader.ServesReceiving request) := by
  cases outcome with
  | request retry => exact (Task.AccountedBy.done _).mono fun _ none => .inl none
  | response response =>
      have concludes :
          ∀ carried,
            ((downloader.responseChain request response).conclude carried).AccountedBy (· = []) :=
        fun _ => .done _
      have accounted := Chain.accountedBy_resume _ concludes rfl downloader.stack.response [] response
      refine accounted.mono ?_
      rintro _ ⟨hooks, _, rfl, served, rfl⟩
      rw [List.append_nil]
      exact .inr ⟨response, served⟩

/-- What follows the pause of a download is accounted for by its exception and its response hooks. -/
theorem accountedBy_recovery
    (downloader : Downloader σ ν)
    (request : Request)
    (failure : Failure) :
    ((downloader.recover request failure).bind (downloader.afterRecovery request)).AccountedBy
      fun served =>
        ∃ recovered received,
          served = recovered ++ received ∧
            downloader.ServesRecovery request recovered ∧
            downloader.ServesReceiving request received := by
  refine (downloader.accountedBy_recover request failure).bind fun result => ?_
  cases result with
  | error failure => exact (Task.AccountedBy.done _).mono fun _ none => .inl none
  | ok outcome => exact downloader.accountedBy_receive request outcome

theorem reportsNoRequest_receive
    (downloader : Downloader σ ν)
    (request : Request)
    (outcome : Outcome) :
    (downloader.receive request (some outcome)).ReportsNoRequest := by
  cases outcome with
  | request retry => exact fun _ _ _ _ _ => List.forall_mem_nil _
  | response response =>
      have wellFormed := downloader.wellFormed_responseChain request response
      exact Chain.reportsNoRequest_run wellFormed nofun _ response

theorem reportsNoRequest_recovery
    (downloader : Downloader σ ν)
    (request : Request)
    (failure : Failure) :
    ((downloader.recover request failure).bind
      (downloader.afterRecovery request)).ReportsNoRequest := by
  have wellFormed := downloader.wellFormed_exceptionChain request failure
  refine .bind (Chain.reportsNoRequest_run wellFormed nofun _ ()) fun result => ?_
  cases result with
  | error failure => exact fun _ _ _ _ _ => List.forall_mem_nil _
  | ok outcome => exact downloader.reportsNoRequest_receive request outcome

/-- The call of a request chain is that of a request hook or of the transport. -/
theorem ServesSending.hookIn?_exception
    {downloader : Downloader σ ν}
    {transport : Transport σ ν}
    {request : Request}
    {sent : List (ServedCall σ)}
    (sends : downloader.ServesSending transport request sent) :
    ∀ call ∈ sent.map ServedCall.call, call.hookIn? .exception = none := by
  obtain ⟨hooks, last, rfl, served, transported⟩ := sends
  rw [List.map_append, List.forall_mem_append]
  constructor
  · intro call member
    obtain ⟨entry, _, rfl⟩ := served.exists_callOf call member
    rfl
  · rcases transported with rfl | ⟨made, resumptions, rfl, _⟩
    · exact List.forall_mem_nil _
    · exact List.forall_mem_singleton.mpr rfl

section Pause

variable {downloader : Downloader σ ν}
variable {transport : Transport σ ν}
variable {request : Request}
variable {start : σ}
variable {later left : List σ}
variable {failure : Failure}

/-- If its request chain fails, a download is suspended once the calls of the chain are back. -/
theorem pausesBehind_of_failed
    (failed :
      ((downloader.send transport request).drive start later).result =
        .finished (.error failure) left)
    {sent : List (ServedCall σ)}
    (sends : downloader.ServesSending transport request sent)
    (resumed : later = sent.flatMap ServedCall.resumptions ++ left)
    (made :
      (downloader.send transport request).madeCalls start later =
        sent.map fun call => (call.call, call.made)) :
    PausesBehind sent
      ((Job.fresh (downloader.download transport request)).pollIn
        (start :: sent.flatMap ServedCall.resumptions)) := by
  obtain ⟨resumptions, sameLater, sameRun, _⟩ := Task.exists_resumptions _ failed
  obtain rfl : sent.flatMap ServedCall.resumptions = resumptions :=
    List.append_cancel_right (resumed.symm.trans sameLater)
  have paused :
      (downloader.download transport request).drive start
          (sent.flatMap ServedCall.resumptions) =
        ⟨((downloader.send transport request).drive start later).signals,
          ((downloader.send transport request).drive start later).state, .suspended .silent⟩ := by
    rw [download_eq_bind, Task.drive_bind, sameRun, Run.andThen_finished]
    simp [afterRequest, Task.pause, Task.bind, Task.drive, Run.after]
  obtain ⟨sameSignals, stands⟩ :=
    Job.pollIn_fresh (downloader.download transport request) start
      (sent.flatMap ServedCall.resumptions)
  rw [paused] at sameSignals stands
  have started :
      (downloader.send transport request).drive start later ∈
        downloader.requestRun? transport request (start :: later) :=
    rfl
  have course := course_of_mem_requestRun? started
  rw [failed] at course
  have calls := Task.map_fst_madeCalls (downloader.send transport request) start later
  rw [made, List.map_map] at calls
  constructor
  · exact stands.hasEnded_eq
  · rw [sameSignals]
    exact calls.symm
  · have allBack := course.isOrderly.allBack
    rw [AllBack, callsIn_outline] at allBack
    rw [sameSignals]
    exact allBack
  · intro call member
    rw [sameSignals] at member
    apply sends.hookIn?_exception
    rw [show sent.map ServedCall.call = _ from calls]
    exact List.mem_map_of_mem member
  · rw [sameSignals, ← eventsIn_outline]
    exact ⟨failure, course.isBlockWith⟩

/-- The resumptions of a download that finishes, and whether there is one for a pause among them. -/
theorem exists_isResumedFor
    {result : Except Failure Outcome}
    (finished :
      ((downloader.download transport request).drive start later).result =
        .finished result left) :
    let events := eventsIn ((downloader.download transport request).drive start later).signals
    ∃ sent recovered received pause,
      downloader.IsResumedFor transport request start later sent recovered received pause left ∧
        ((¬ RequestChainFails events ∧ pause = [] ∧ recovered = []) ∨
          (RequestChainFails events ∧
            pause.length = 1 ∧
            PausesBehind sent
              ((Job.fresh (downloader.download transport request)).pollIn
                (start :: sent.flatMap ServedCall.resumptions)))) := by
  intro events
  obtain ⟨sentResult, between, sentFinished, afterFinished⟩ := Task.exists_of_finished_bind finished
  obtain ⟨sent, sends, rfl, sentMade⟩ :=
    downloader.accountedBy_send transport request start later sentResult between sentFinished
  have started :
      (downloader.send transport request).drive start
          (sent.flatMap ServedCall.resumptions ++ between) ∈
        downloader.requestRun? transport request
          (start :: (sent.flatMap ServedCall.resumptions ++ between)) :=
    rfl
  have course := course_of_mem_requestRun? started
  rw [sentFinished] at course
  have block := course.isBlockWith
  rw [eventsIn_outline] at block
  simp only [events]
  rw [download_eq_bind, Task.drive_bind_of_finished sentFinished, Run.signals_after,
    eventsIn_append]
  cases sentResult with
  | ok outcome =>
      obtain ⟨received, receives, rfl, receivedMade⟩ :=
        downloader.accountedBy_receive request outcome _ between result left afterFinished
      have others :=
        downloader.reportsNoRequest_receive request outcome _ _ result left afterFinished
      refine
        ⟨sent, [], received, [], ⟨sends, .inl rfl, receives, ?made, by simp⟩,
          .inl ⟨?unfailed, rfl, rfl⟩⟩
      case made =>
        rw [download_eq_bind, Task.madeCalls_bind sentFinished, sentMade, List.append_nil,
          List.map_append]
        exact congrArg _ receivedMade
      case unfailed =>
        intro fails
        cases (block.requestChainFails_iff others).mp fails
  | error failure =>
      cases between with
      | nil => cases afterFinished
      | cons paused rest =>
          obtain ⟨_, ⟨recovered, received, rfl, recovers, receives⟩, rfl, servedMade⟩ :=
            downloader.accountedBy_recovery request failure paused rest result left afterFinished
          have others :=
            downloader.reportsNoRequest_recovery request failure paused _ result left afterFinished
          refine
            ⟨sent, recovered, received, [paused], ⟨sends, recovers, receives, ?made, by simp⟩,
              .inr ⟨?failed, rfl, ?pauses⟩⟩
          case made =>
            rw [download_eq_bind, Task.madeCalls_bind sentFinished, sentMade, List.append_assoc,
              List.map_append]
            exact congrArg _ servedMade
          case failed => exact (block.requestChainFails_iff others).mpr rfl
          case pauses => exact pausesBehind_of_failed sentFinished sends rfl sentMade

end Pause

/--
A download that finishes has been pending as often as its calls have been by themselves,
and once more if its request chain has failed: the task of each call, started in the state
in which the download has made the call, and resumed in the states in which the download
was, finishes after as many suspensions. The one more is the pause, before which the failure
of the request chain is reported and behind which everything else lies. A download
of hooks and a transport that do not hang comes to its end in whatever states it is polled.
-/
theorem suspensions_download
    (downloader : Downloader σ ν)
    (transport : Transport σ ν)
    (request : Request) :
    let job := Job.fresh (downloader.download transport request)
    (∀ start later result,
        (job.pollIn (start :: later)).2 = .finished result →
          let shown := (job.pollIn (start :: later)).1
          ∃ sent recovered received pause left,
            downloader.IsResumedFor transport request start later
                sent recovered received pause left ∧
              (callsIn shown).map Prod.fst =
                (sent ++ recovered ++ received).map ServedCall.call ∧
              job.suspensions (start :: later) =
                ((sent ++ recovered ++ received).map fun call => call.resumptions.length).sum +
                  pause.length ∧
              ((¬ RequestChainFails (eventsIn shown) ∧ pause = [] ∧ recovered = []) ∨
                (RequestChainFails (eventsIn shown) ∧
                  pause.length = 1 ∧
                  PausesBehind sent
                    (job.pollIn (start :: sent.flatMap ServedCall.resumptions))))) ∧
      (downloader.stack.NeverHangs →
        (transport request).NeverHangs →
          ∀ start states,
            ∃ count, (job.pollIn (start :: (List.range count).map states)).2.hasEnded) := by
  intro job
  constructor
  · intro start later result completed shown
    obtain ⟨left, finished⟩ := Job.pollIn_fresh_eq_finished_iff.mp completed
    obtain ⟨sent, recovered, received, pause, resumedFor, pauses⟩ := exists_isResumedFor finished
    obtain ⟨resumptions, sameLater, _, suspensions⟩ := Task.exists_resumptions _ finished
    have sameShown := (Job.pollIn_fresh (downloader.download transport request) start later).1
    have calls := Task.map_fst_madeCalls (downloader.download transport request) start later
    rw [resumedFor.made, List.map_map] at calls
    have sameResumptions := List.append_cancel_right (sameLater.symm.trans resumedFor.resumed)
    refine ⟨sent, recovered, received, pause, left, resumedFor, ?calls, ?suspensions, ?pauses⟩
    case calls =>
      simp only [shown, job, sameShown]
      exact calls.symm
    case suspensions =>
      simp only [job, suspensions, sameResumptions, List.length_append, List.length_flatMap,
        List.map_append, List.sum_append]
      omega
    case pauses =>
      simp only [shown, job, sameShown]
      exact pauses
  · intro never transportNever start states
    obtain ⟨count, ended⟩ :=
      (neverHangs_download never transport request transportNever).exists_ended start states
    obtain ⟨_, stands⟩ :=
      Job.pollIn_fresh (downloader.download transport request) start
        ((List.range count).map states)
    refine ⟨count, ?_⟩
    rw [stands.hasEnded_eq, ended]
    rfl

end Downloader

namespace Sample

/-- The stack of a counting layer alone, which has no exception hook. -/
def unrescued : Stack Nat Unit :=
  Stack.empty.add counting

theorem neverHangs_unrescued : unrescued.NeverHangs where
  request entry member := by
    cases List.mem_singleton.mp member
    exact fun _ _ _ => trivial
  response entry member := by
    cases List.mem_singleton.mp member
    exact fun _ _ => trivial
  exception entry member := by cases member

end Sample

/--
The request hook suspends once, the transport does so and fails, and there is no
exception hook. The download is pending once more, behind the report of the failure.
-/
theorem Downloader.suspensions_download_unrescued :
    let downloader := Downloader.ofStack Sample.unrescued
    let job := Job.fresh (downloader.download Sample.failing (.get "/"))
    (job.pollIn [0, 5, 7, 8]).2.fate = .finished (.error (.transport .timeout)) ∧
      job.suspensions [0, 5, 7, 8] = 3 ∧
      (∃ sent recovered received : List (ServedCall Nat),
        ((sent ++ recovered ++ received).map fun call => call.resumptions.length).sum = 2 ∧
          PausesBehind sent (job.pollIn (0 :: sent.flatMap ServedCall.resumptions))) ∧
      ∃ count, (job.pollIn (0 :: (List.range count).map fun position => position)).2.hasEnded := by
  intro downloader job
  obtain ⟨accounts, ends⟩ := suspensions_download downloader Sample.failing (.get "/")
  have counted : job.suspensions [0, 5, 7, 8] = 3 := rfl
  refine ⟨rfl, counted, ?_, ends Sample.neverHangs_unrescued trivial 0 _⟩
  obtain ⟨sent, recovered, received, pause, left, _, _, suspensions, unfailed | paused⟩ :=
    accounts 0 [5, 7, 8] (.error (.transport .timeout)) rfl
  · let report : ChainReport :=
      .finished .request (.request (.get "/")) ["counting"] (some (.transport .timeout))
    have events :
        eventsIn (job.pollIn [0, 5, 7, 8]).1 =
          [.method (.finished .request "counting" none), .chain report,
            .chain
              (.finished .exception (.request (.get "/")) [] (some (.transport .timeout)))] :=
      rfl
    have fails : RequestChainFails (eventsIn (job.pollIn [0, 5, 7, 8]).1) :=
      ⟨report, by simp [events], rfl, rfl⟩
    exact (unfailed.1 fails).elim
  · obtain ⟨_, once, pauses⟩ := paused
    refine ⟨sent, recovered, received, ?_, pauses⟩
    rw [once] at suspensions
    have total := counted.symm.trans suspensions
    omega

end Middleware
