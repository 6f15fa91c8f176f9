import Middleware.Proofs.Download.CallOrder

namespace Middleware

/-!
# Calls show what hooks receive

A download shows each of its calls with everything that is passed. Hooks that
begin by noting what they have received bear this out: in every life of a
download through such hooks, what is called confirms each call at once.
-/

variable {σ ν ι κ : Type}

/-- A hook that begins by noting what it receives. -/
def Hook.attesting
    (describe : ι → Option Context → Call) :
    Hook σ ν ι →
    Hook σ (Call ⊕ ν) ι
  | .plain start =>
      .plain fun input =>
        (Task.emit (.inl (describe input none))).bind fun _ =>
          (start input).relabel .inr
  | .contextual start =>
      .contextual fun input context =>
        (Task.emit (.inl (describe input (some context)))).bind fun _ =>
          (start input context).relabel .inr

/-- A hook in a stack that begins by noting what it receives. -/
def Entry.attesting
    (announce : String → ι → Option Context → Call)
    (entry : Entry σ ν ι) :
    Entry σ (Call ⊕ ν) ι :=
  ⟨entry.middleware, entry.hook.attesting (announce entry.middleware)⟩

/-- A stack whose hooks begin by noting what they receive. -/
def Stack.attesting (stack : Stack σ ν) : Stack σ (Call ⊕ ν) where
  request := stack.request.map (Entry.attesting Call.request)
  response :=
    stack.response.map
      (Entry.attesting fun middleware input => Call.response middleware input.1 input.2)
  exception :=
    stack.exception.map
      (Entry.attesting fun middleware input => Call.exception middleware input.1 input.2)

/-- A transport that begins by noting what it receives. -/
def Transport.attesting (transport : Transport σ ν) : Transport σ (Call ⊕ ν) :=
  fun request =>
    (Task.emit (.inl (.transport request))).bind fun _ =>
      (transport request).relabel .inr

/-- Each call among signals is confirmed at once by what is called. -/
def IsAttested : List (Signal (Call ⊕ ν)) → Prop
  | [] => True
  | .call call :: rest => rest.head? = some (.note (.inl call)) ∧ IsAttested rest
  | .returned _ :: rest => IsAttested rest
  | .event _ :: rest => IsAttested rest
  | .note _ :: rest => IsAttested rest
  | .log _ :: rest => IsAttested rest

namespace IsAttested

theorem append
    {first second : List (Signal (Call ⊕ ν))}
    (firstAttested : IsAttested first)
    (secondAttested : IsAttested second) :
    IsAttested (first ++ second) := by
  induction first with
  | nil =>
      exact secondAttested
  | cons signal rest inductionHypothesis =>
      cases signal with
      | call call =>
          obtain ⟨confirmed, restAttested⟩ := firstAttested
          refine ⟨?_, inductionHypothesis restAttested⟩
          change (rest ++ second).head? = some (.note (.inl call))
          rw [List.head?_append, confirmed]
          rfl
      | returned value => exact inductionHypothesis firstAttested
      | event event => exact inductionHypothesis firstAttested
      | note note => exact inductionHypothesis firstAttested
      | log line => exact inductionHypothesis firstAttested

/-- Where there are no calls, there is nothing to confirm. -/
theorem of_noCalls
    {signals : List (Signal (Call ⊕ ν))}
    (noCalls : callsIn signals = []) :
    IsAttested signals := by
  induction signals with
  | nil =>
      trivial
  | cons signal rest inductionHypothesis =>
      cases signal with
      | call call => cases noCalls
      | returned value => exact inductionHypothesis noCalls
      | event event => exact inductionHypothesis noCalls
      | note note => exact inductionHypothesis noCalls
      | log line => exact inductionHypothesis noCalls

theorem notes (notes : List (Call ⊕ ν)) :
    IsAttested (notes.map Signal.note) := by
  apply of_noCalls
  rw [← callsIn_outline, outline_notes]
  rfl

theorem report
    (reporter : Reporter σ (Call ⊕ ν))
    (event : Event)
    (state : σ) :
    IsAttested (reporter.report event state).1 := by
  apply of_noCalls
  rw [← callsIn_outline, Reporter.outline_report]
  rfl

end IsAttested

/-- However a task is driven, what it calls confirms its calls. -/
def Task.Attests
    {α : Type}
    (task : Task σ (Signal (Call ⊕ ν)) α) :
    Prop :=
  ∀ state later, IsAttested (task.drive state later).signals

namespace Task.Attests

variable {α β : Type}
variable {task : Task σ (Signal (Call ⊕ ν)) α}

theorem done (value : α) :
    (Task.done value : Task σ (Signal (Call ⊕ ν)) α).Attests :=
  fun _ _ => trivial

theorem bind
    (first : task.Attests)
    {next : α → Task σ (Signal (Call ⊕ ν)) β}
    (second : ∀ value, (next value).Attests) :
    (task.bind next).Attests := by
  intro state later
  have attested := first state later
  rw [Task.drive_bind]
  generalize task.drive state later = run at attested ⊢
  rcases run with ⟨signals, after, standing⟩
  cases standing with
  | finished value left => exact attested.append (second value after left)
  | panicked message => exact attested
  | suspended abandon => exact attested

theorem guarded
    (attests : task.Attests)
    {close : Interruption → Burst σ (Signal (Call ⊕ ν))}
    (closes : ∀ interruption state, IsAttested (close interruption state).1) :
    (task.guarded close).Attests := by
  intro state later
  have attested := attests state later
  rw [Task.drive_guarded]
  generalize task.drive state later = run at attested ⊢
  rcases run with ⟨signals, after, standing⟩
  cases standing with
  | finished value left => exact attested
  | panicked message => exact attested.append (closes .panicked after)
  | suspended abandon => exact attested

/-- What a hook or a transport emits are notes. -/
theorem relabel (task : Task σ (Call ⊕ ν) α) :
    (task.relabel Signal.note).Attests := by
  intro state later
  rw [Task.drive_relabel]
  rcases task.drive state later with ⟨notes, after, standing⟩
  cases standing <;> exact .notes notes

theorem perform
    {work : Burst σ (Signal (Call ⊕ ν))}
    (attested : ∀ state, IsAttested (work state).1) :
    (Task.perform work).Attests := by
  intro state later
  rw [Task.drive_perform]
  exact attested state

theorem emitReturned (value : Return) :
    (Task.emit (.returned value) : Task σ (Signal (Call ⊕ ν)) Unit).Attests :=
  perform fun _ => trivial

theorem emitLog (line : LogLine) :
    (Task.emit (.log line) : Task σ (Signal (Call ⊕ ν)) Unit).Attests :=
  perform fun _ => trivial

/-- A call is confirmed by a task that begins with a note of it. -/
theorem emitCall
    (call : Call)
    {next : Task σ (Signal (Call ⊕ ν)) α}
    (attests : next.Attests) :
    ((Task.emit (.call call)).bind fun _ =>
      (Task.emit (.note (.inl call))).bind fun _ => next).Attests := by
  intro state later
  rw [Task.drive_bind, Task.drive_emit, Run.andThen_finished, Task.drive_bind, Task.drive_emit,
    Run.andThen_finished]
  exact ⟨rfl, attests state later⟩

end Task.Attests

namespace Chain

variable {chain : Chain σ (Call ⊕ ν) ι κ}

/-- A hook that notes what it receives confirms the call of it. -/
theorem attests_call
    (chain : Chain σ (Call ⊕ ν) ι κ)
    (entry : Entry σ ν ι)
    (carried : κ) :
    (chain.call (entry.attesting chain.announce) carried).Attests := by
  -- After its note, the hook runs in the scope of its call, and then the call is reported.
  let rest (task : Task σ (Call ⊕ ν) Answer) :
      Task σ (Signal (Call ⊕ ν)) (Except Failure (Verdict κ)) :=
    ((task.relabel .note).guarded (chain.closeMethod entry.middleware)).bind fun answer =>
      (Task.emit (.returned (.ofAnswer answer))).bind fun _ =>
        (Task.perform
          (chain.reportMethod
            (.finished chain.phase entry.middleware
              (failure? (chain.verdict entry.middleware answer))))).bind fun _ =>
          .done (chain.verdict entry.middleware answer)
  have restAttests : ∀ task, (rest task).Attests := by
    intro task
    refine ((Task.Attests.relabel task).guarded fun _ => .report chain.reporter _).bind ?_
    intro answer
    refine (Task.Attests.emitReturned _).bind fun _ => ?_
    exact (Task.Attests.perform (.report chain.reporter _)).bind fun _ => .done _
  rcases entry with ⟨middleware, hook⟩
  cases hook with
  | plain start => exact .emitCall _ (restAttests ((start (chain.input carried)).relabel .inr))
  | contextual start =>
      exact .emitCall _ (restAttests ((start (chain.input carried) chain.context).relabel .inr))

theorem attests_finish
    (visited : List String)
    (result : Except Failure Outcome) :
    (chain.finish visited result).Attests :=
  (Task.Attests.perform (.report chain.reporter _)).bind fun _ => .done _

/-- From each hook on, hooks that note what they receive confirm the calls of a run. -/
theorem attests_resume
    (concludes : ∀ carried, (chain.conclude carried).Attests)
    (entries : List (Entry σ ν ι))
    (visited : List String)
    (carried : κ) :
    (chain.resume visited carried (entries.map (Entry.attesting chain.announce))).Attests := by
  induction entries generalizing visited carried with
  | nil =>
      rw [List.map_nil, resume_nil]
      exact
        ((concludes carried).guarded fun _ => .report chain.reporter _).bind fun _ =>
          chain.attests_finish _ _
  | cons entry rest inductionHypothesis =>
      rw [List.map_cons, resume_cons]
      refine
        ((chain.attests_call entry carried).guarded fun _ => .report chain.reporter _).bind ?_
      intro verdict
      cases verdict with
      | error failure => exact chain.attests_finish _ _
      | ok verdict =>
          cases verdict with
          | settle outcome =>
              exact (Task.Attests.emitLog _).bind fun _ => chain.attests_finish _ _
          | proceed next => exact inductionHypothesis _ next

end Chain

namespace Downloader

theorem attests_callTransport
    (transport : Transport σ ν)
    (request : Request) :
    (callTransport transport.attesting request).Attests := by
  apply Task.Attests.emitCall (.transport request)
  refine (Task.Attests.relabel ((transport request).relabel .inr)).bind fun answer => ?_
  refine (Task.Attests.emitReturned _).bind fun _ => ?_
  cases answer with
  | ok response => exact .done _
  | error cause => exact .done _

/-- A run of a chain of a download, wherever it is left, is attested if its task attests. -/
theorem isAttested_shownBy
    {run : Option (ChainRun σ (Call ⊕ ν))}
    {dropped : Option σ}
    (attested : ∀ member ∈ run, IsAttested member.signals)
    (noCalls : ∀ member ∈ run, callsIn (member.result.closing dropped) = []) :
    IsAttested (shownBy run dropped) := by
  cases run with
  | none => trivial
  | some run => exact (attested run rfl).append (.of_noCalls (noCalls run rfl))

/-- In every life of a download, hooks and a transport that note what they receive confirm its calls. -/
theorem isAttested_live
    (stack : Stack σ ν)
    (context : Context)
    (reporter : Reporter σ (Call ⊕ ν))
    (transport : Transport σ ν)
    (request : Request)
    (life : Life σ) :
    let downloader : Downloader σ (Call ⊕ ν) := ⟨stack.attesting, context, reporter⟩
    IsAttested
      ((Job.fresh (downloader.download transport.attesting request)).live life).1 := by
  intro downloader
  rw [live_download]
  refine .append (.append ?requestRun ?exceptionRun) ?responseRun
  case requestRun =>
    apply isAttested_shownBy
    · intro run started
      obtain ⟨state, later, _, rfl⟩ := mem_requestRun?.mp started
      exact
        (downloader.requestChain transport.attesting request).attests_resume
          (fun _ => attests_callTransport transport request) stack.request [] () state later
    · intro run started
      have course := course_of_mem_requestRun? started
      exact (course.callsIn_closing (downloader.wellFormed_requestChain _ request) _).1
  case exceptionRun =>
    apply isAttested_shownBy
    · intro run recovered
      obtain ⟨_, _, failure, state, later, _, rfl⟩ := mem_exceptionRun?.mp recovered
      exact
        (downloader.exceptionChain request failure).attests_resume
          (fun _ => .done _) stack.exception [] () state later
    · intro run recovered
      obtain ⟨failure, course⟩ := course_of_mem_exceptionRun? recovered
      exact (course.callsIn_closing (downloader.wellFormed_exceptionChain request failure) _).1
  case responseRun =>
    apply isAttested_shownBy
    · intro run received
      obtain ⟨before, _, after⟩ := mem_responseRun?.mp received
      obtain ⟨response, left, _, rfl⟩ := mem_runAfter?.mp after
      exact
        (downloader.responseChain request response).attests_resume
          (fun _ => .done _) stack.response [] response before.state left
    · intro run received
      obtain ⟨response, course⟩ := course_of_mem_responseRun? received
      exact (course.callsIn_closing (downloader.wellFormed_responseChain request response) _).1

end Downloader

end Middleware
