import Middleware.Proofs.Download.Stages

namespace Middleware

/-!
# Completeness of telemetry

Whatever way a run of a chain is left, it hands one block of events to the
observer: a method report for each hook call, in the order of the calls, and
then one chain report that lists the middlewares called. The main statement
says so of every download in every run of a pool: its events are the blocks of
the chains that it has run, in their order, and nothing else.
-/

variable {σ ν ι κ : Type}

/--
The events of a run of a chain from some hook on: one method report for each
middleware called, and then the chain report, which also lists the middlewares
visited before.
-/
def IsBlockFrom
    (visited : List String)
    (phase : Phase)
    (called : List String)
    (events : List Event) :
    Prop :=
  ∃ (methods : List MethodReport) (report : ChainReport),
    events = methods.map .method ++ [.chain report] ∧
      (methods.map fun method => (method.phase, method.middleware)) =
        called.map (phase, ·) ∧
      report.phase = phase ∧
      report.visited = visited ++ called ∧
      report.count = report.visited.length

/-- The events of a whole run of a chain. -/
def IsBlock : Phase → List String → List Event → Prop :=
  IsBlockFrom []

/-- The events of a chain that runs only under a condition. -/
def IsBlockWhen
    (condition : Prop)
    (phase : Phase)
    (called : List String)
    (events : List Event) :
    Prop :=
  (condition ∧ IsBlock phase called events) ∨
    (¬ condition ∧ called = [] ∧ events = [])

namespace IsBlockFrom

theorem chain
    {visited : List String}
    {phase : Phase}
    {report : ChainReport}
    (samePhase : report.phase = phase)
    (sameVisited : report.visited = visited)
    (counted : report.count = report.visited.length) :
    IsBlockFrom visited phase [] [.chain report] :=
  ⟨[], report, rfl, rfl, samePhase, by simpa using sameVisited, counted⟩

theorem method
    {visited called : List String}
    {phase : Phase}
    {events : List Event}
    (report : MethodReport)
    (samePhase : report.phase = phase)
    (rest : IsBlockFrom (visited ++ [report.middleware]) phase called events) :
    IsBlockFrom visited phase (report.middleware :: called) (.method report :: events) := by
  obtain ⟨methods, chainReport, rfl, sameMethods, chainPhase, sameVisited, counted⟩ := rest
  refine ⟨report :: methods, chainReport, rfl, ?_, chainPhase, ?_, counted⟩
  · simpa [samePhase] using sameMethods
  · simpa using sameVisited

end IsBlockFrom

namespace Chain

variable {chain : Chain σ ν ι κ}

/-- From each hook on, a run of a chain that is over shows one block of events. -/
theorem Course.isBlockFrom
    (wellFormed : chain.WellFormed)
    {visited : List String}
    {carried : κ}
    {entries : List (Entry σ ν ι)}
    {signals : List (Signal ν)}
    {standing : Standing σ (Signal ν) (Except Failure Outcome)}
    (course : chain.Course visited carried entries signals standing)
    {dropped : Option σ}
    (isOver : !standing.isSuspended || dropped.isSome) :
    IsBlockFrom visited chain.phase
      (hookCallsIn chain.phase (signals ++ outline (standing.closing dropped)))
      (eventsIn (signals ++ outline (standing.closing dropped))) := by
  induction course with
  | conclude conclusion =>
      cases conclusion with
      | stated concluded left =>
          exact .chain rfl rfl rfl
      | transported concluded answer left =>
          exact .chain rfl rfl rfl
      | panicked concluded message =>
          exact .chain rfl rfl rfl
      | suspended concluded abandon closes =>
          obtain ⟨state, rfl⟩ := Option.isSome_iff_exists.mp isOver
          simp only [Standing.closing, closes]
          exact .chain rfl rfl rfl
  | proceed verdict later inductionHypothesis =>
      rw [List.append_assoc, eventsIn_answered, wellFormed.hookCallsIn_answered]
      exact .method _ rfl (inductionHypothesis isOver)
  | settle verdict left =>
      rw [List.append_assoc, eventsIn_answered, wellFormed.hookCallsIn_answered]
      exact .method _ rfl (.chain rfl rfl rfl)
  | fail verdict left =>
      rw [List.append_assoc, eventsIn_answered, wellFormed.hookCallsIn_answered]
      exact .method _ rfl (.chain rfl rfl rfl)
  | panic message =>
      simp only [List.cons_append, hookCallsIn_call, wellFormed.hookIn?_callOf]
      exact .method _ rfl (.chain rfl rfl rfl)
  | suspend abandon closes =>
      obtain ⟨state, rfl⟩ := Option.isSome_iff_exists.mp isOver
      simp only [Standing.closing, closes, List.cons_append, hookCallsIn_call,
        wellFormed.hookIn?_callOf]
      exact .method _ rfl (.chain rfl rfl rfl)

/-- A chain calls no hooks of other phases. -/
theorem Course.hookCallsIn_of_ne
    (wellFormed : chain.WellFormed)
    {visited : List String}
    {carried : κ}
    {entries : List (Entry σ ν ι)}
    {signals : List (Signal ν)}
    {standing : Standing σ (Signal ν) (Except Failure Outcome)}
    (course : chain.Course visited carried entries signals standing)
    {phase : Phase}
    (other : chain.phase ≠ phase)
    (dropped : Option σ) :
    hookCallsIn phase (signals ++ outline (standing.closing dropped)) = [] := by
  induction course with
  | conclude conclusion =>
      cases conclusion with
      | stated concluded left => rfl
      | transported concluded answer left => rfl
      | panicked concluded message => rfl
      | suspended concluded abandon closes =>
          cases dropped with
          | none => rfl
          | some state =>
              simp only [Standing.closing, closes]
              rfl
  | proceed verdict later inductionHypothesis =>
      simpa [answered, wellFormed.hookIn?_callOf, other] using inductionHypothesis
  | settle verdict left =>
      simp [answered, wellFormed.hookIn?_callOf, other, Standing.closing]
  | fail verdict left =>
      simp [answered, wellFormed.hookIn?_callOf, other, Standing.closing]
  | panic message =>
      simp [wellFormed.hookIn?_callOf, other, Standing.closing]
  | suspend abandon closes =>
      cases dropped with
      | none => simp [wellFormed.hookIn?_callOf, other, Standing.closing]
      | some state =>
          simp only [Standing.closing, closes]
          simp [wellFormed.hookIn?_callOf, other]

end Chain

/-- A run shows one block of events when it is over, and calls hooks of one phase only. -/
structure ChainRun.ShowsBlock
    (phase : Phase)
    (dropped : Option σ)
    (run : ChainRun σ ν) :
    Prop where
  isBlock :
    run.isOver dropped →
      IsBlock phase
        (hookCallsIn phase (run.signalsUntil dropped))
        (eventsIn (run.signalsUntil dropped))
  noOther :
    ∀ other, phase ≠ other → hookCallsIn other (run.signalsUntil dropped) = []

/-- A run that takes a course of a chain shows one block of events. -/
theorem Chain.Course.showsBlock
    {chain : Chain σ ν ι κ}
    (wellFormed : chain.WellFormed)
    {carried : κ}
    {entries : List (Entry σ ν ι)}
    {run : ChainRun σ ν}
    (course : chain.Course [] carried entries (outline run.signals) run.result)
    (dropped : Option σ) :
    run.ShowsBlock chain.phase dropped := by
  constructor
  · intro isOver
    simpa [IsBlock, ChainRun.signalsUntil] using course.isBlockFrom wellFormed isOver
  · intro phase other
    simpa [ChainRun.signalsUntil] using course.hookCallsIn_of_ne wellFormed other dropped

namespace Downloader

theorem showsBlock_requestRun?
    (downloader : Downloader σ ν)
    (transport : Transport σ ν)
    (request : Request)
    (life : Life σ) :
    ∀ run ∈ downloader.requestRun? transport request life.polls,
      run.ShowsBlock .request life.dropped := by
  intro run started
  have course := course_of_mem_requestRun? started
  exact course.showsBlock (downloader.wellFormed_requestChain transport request) life.dropped

theorem showsBlock_exceptionRun?
    (downloader : Downloader σ ν)
    (transport : Transport σ ν)
    (request : Request)
    (life : Life σ) :
    ∀ run ∈ downloader.exceptionRun? transport request life.polls,
      run.ShowsBlock .exception life.dropped := by
  intro run recovered
  obtain ⟨failure, course⟩ := course_of_mem_exceptionRun? recovered
  exact course.showsBlock (downloader.wellFormed_exceptionChain request failure) life.dropped

theorem showsBlock_responseRun?
    (downloader : Downloader σ ν)
    (transport : Transport σ ν)
    (request : Request)
    (life : Life σ) :
    ∀ run ∈ downloader.responseRun? transport request life.polls,
      run.ShowsBlock .response life.dropped := by
  intro run received
  obtain ⟨response, course⟩ := course_of_mem_responseRun? received
  exact course.showsBlock (downloader.wellFormed_responseChain request response) life.dropped

/-- A run that there may be shows a block of events exactly when there is one. -/
theorem isBlockWhen_shownBy
    {phase : Phase}
    {dropped : Option σ}
    {run : Option (ChainRun σ ν)}
    {condition : Prop}
    (exactlyWhen : run.isSome ↔ condition)
    (shows : ∀ member ∈ run, member.ShowsBlock phase dropped)
    (areOver : ∀ member ∈ run, member.isOver dropped) :
    IsBlockWhen condition phase
      (hookCallsIn phase (shownBy run dropped))
      (eventsIn (shownBy run dropped)) := by
  cases run with
  | none =>
      exact .inr ⟨by simpa using exactlyWhen, rfl, rfl⟩
  | some run =>
      have block := (shows run rfl).isBlock (areOver run rfl)
      exact .inl ⟨exactlyWhen.mp rfl, block⟩

theorem hookCallsIn_shownBy_of_ne
    {phase other : Phase}
    {dropped : Option σ}
    {run : Option (ChainRun σ ν)}
    (shows : ∀ member ∈ run, member.ShowsBlock phase dropped)
    (different : phase ≠ other) :
    hookCallsIn other (shownBy run dropped) = [] := by
  cases run with
  | none => rfl
  | some run => exact (shows run rfl).noOther other different

/--
The telemetry of a download is complete if its events are at most three
blocks: that of the request chain, if the download was polled; that of the
exception chain, if the request chain has failed and the download was polled
again; and that of the response chain, if one of the two has come to a response.
-/
def IsComplete
    (downloader : Downloader σ ν)
    (transport : Transport σ ν)
    (request : Request)
    (polls : List σ)
    (signals : List (Signal ν)) :
    Prop :=
  ∃ requestBlock exceptionBlock responseBlock : List Event,
    eventsIn signals = requestBlock ++ exceptionBlock ++ responseBlock ∧
      IsBlockWhen
        (polls ≠ [])
        .request (hookCallsIn .request signals) requestBlock ∧
      IsBlockWhen
        (downloader.Recovers transport request polls)
        .exception (hookCallsIn .exception signals) exceptionBlock ∧
      IsBlockWhen
        (downloader.Receives transport request polls)
        .response (hookCallsIn .response signals) responseBlock

/-- In each life in which a download comes to its end its telemetry is complete. -/
theorem isComplete_live
    {downloader : Downloader σ ν}
    {transport : Transport σ ν}
    {request : Request}
    {life : Life σ}
    (ended :
      ((Job.fresh (downloader.download transport request)).live life).2.hasEnded) :
    downloader.IsComplete transport request life.polls
      ((Job.fresh (downloader.download transport request)).live life).1 := by
  obtain ⟨requestOver, exceptionOver, responseOver⟩ := isOver_of_hasEnded ended
  have requestShows := downloader.showsBlock_requestRun? transport request life
  have exceptionShows := downloader.showsBlock_exceptionRun? transport request life
  have responseShows := downloader.showsBlock_responseRun? transport request life
  rw [live_download]
  refine
    ⟨eventsIn (shownBy (downloader.requestRun? transport request life.polls) life.dropped),
      eventsIn (shownBy (downloader.exceptionRun? transport request life.polls) life.dropped),
      eventsIn (shownBy (downloader.responseRun? transport request life.polls) life.dropped),
      by simp, ?_, ?_, ?_⟩
  · have block := isBlockWhen_shownBy isSome_requestRun?_iff requestShows requestOver
    simpa [hookCallsIn_shownBy_of_ne exceptionShows (show Phase.exception ≠ .request by decide),
      hookCallsIn_shownBy_of_ne responseShows (show Phase.response ≠ .request by decide)]
      using block
  · have block := isBlockWhen_shownBy isSome_exceptionRun?_iff exceptionShows exceptionOver
    simpa [hookCallsIn_shownBy_of_ne requestShows (show Phase.request ≠ .exception by decide),
      hookCallsIn_shownBy_of_ne responseShows (show Phase.response ≠ .exception by decide)]
      using block
  · have block := isBlockWhen_shownBy isSome_responseRun?_iff responseShows responseOver
    simpa [hookCallsIn_shownBy_of_ne requestShows (show Phase.request ≠ .response by decide),
      hookCallsIn_shownBy_of_ne exceptionShows (show Phase.exception ≠ .response by decide)]
      using block

/--
In every run of a pool in which a download comes to its end, whatever way it
does and whatever the other jobs do, its telemetry is complete. Receiving
nothing, or a request, shows nothing at all.
-/
theorem telemetry_complete
    (downloader : Downloader σ ν)
    (transport : Transport σ ν)
    (request : Request)
    (pool : Pool σ (Signal ν) (Except Failure Outcome))
    (start : σ)
    (turns : List Turn)
    (index : Nat)
    (member : pool[index]? = some (.fresh (downloader.download transport request)))
    (ended : ((pool.follow start turns).result[index]?).any Job.hasEnded) :
    downloader.IsComplete transport request
        (pool.lifeOf start turns index).polls
        (Pool.signalsOf index (pool.follow start turns).signals) ∧
      ∀ life : Life σ,
        ((Job.fresh (downloader.receive request none)).live life).1 = [] ∧
          ∀ retry,
            ((Job.fresh (downloader.receive request (some (.request retry)))).live life).1 =
              [] := by
  obtain ⟨sameSignals, sameResult⟩ := Pool.follow_member turns member start
  constructor
  · rw [sameResult] at ended
    rw [sameSignals]
    exact isComplete_live ended
  · intro life
    exact ⟨Job.live_done _ life, fun retry => Job.live_done _ life⟩

/-- Two downloads take turns, one to its result and the other to its drop in the transport. -/
theorem telemetry_complete_interleaved :
    let pool : Pool Nat (Signal Unit) (Except Failure Outcome) :=
      [.fresh Sample.download, .fresh Sample.download]
    let turns : List Turn := [.poll 0, .poll 1, .poll 0, .poll 1, .poll 0, .drop 1, .poll 0]
    (pool.follow 0 turns).result.all Job.hasEnded ∧
      (Downloader.ofStack Sample.stack).IsComplete Sample.failing (.get "/")
        (pool.lifeOf 0 turns 0).polls
        (Pool.signalsOf 0 (pool.follow 0 turns).signals) ∧
      (Downloader.ofStack Sample.stack).IsComplete Sample.failing (.get "/")
        (pool.lifeOf 0 turns 1).polls
        (Pool.signalsOf 1 (pool.follow 0 turns).signals) :=
  ⟨rfl,
    (telemetry_complete (.ofStack Sample.stack) Sample.failing (.get "/") _ 0 _ 0 rfl rfl).1,
    (telemetry_complete (.ofStack Sample.stack) Sample.failing (.get "/") _ 0 _ 1 rfl rfl).1⟩

end Downloader

end Middleware
