import Middleware.Proofs.Download.Noninterference

namespace Middleware

/-!
# Distinct downloads are independent

Hooks and transports that keep no state are functions of their inputs. A
download through such hooks does among other jobs what it does alone: the jobs
around it, and whatever becomes of them, show in its deliveries only.
-/

variable {ρ υ ν α : Type}

/-- Without a state, a life is nothing but a number of polls and a drop. -/
theorem Life.onFirst_eq
    {life : Life (Unit × ρ)}
    {other : Life (Unit × υ)}
    (samePolls : life.polls.length = other.polls.length)
    (sameDrop : life.dropped.isSome = other.dropped.isSome) :
    life.onFirst = other.onFirst := by
  rcases life with ⟨polls, dropped⟩
  rcases other with ⟨otherPolls, otherDropped⟩
  have polledAlike : polls.map Prod.fst = otherPolls.map Prod.fst := by
    apply List.ext_getElem
    · simpa using samePolls
    · intro index _ _
      rfl
  have droppedAlike : dropped.map Prod.fst = otherDropped.map Prod.fst := by
    cases dropped <;> cases otherDropped <;> first | rfl | cases sameDrop
  simp [onFirst, polledAlike, droppedAlike]

namespace Job

/-- Without a state, observed forms of one job show the same and come to the same end. -/
theorem live_eq_of_stateless
    {bare : Job Unit (Signal ν) α}
    {observer : Observer ρ ν}
    {job : Job (Unit × ρ) (Signal ν) α}
    (observed : bare.ObservedAs observer job)
    {otherObserver : Observer υ ν}
    {other : Job (Unit × υ) (Signal ν) α}
    (otherObserved : bare.ObservedAs otherObserver other)
    {life : Life (Unit × ρ)}
    {otherLife : Life (Unit × υ)}
    (samePolls : life.polls.length = otherLife.polls.length)
    (sameDrop : life.dropped.isSome = otherLife.dropped.isSome) :
    outline (job.live life).1 = outline (other.live otherLife).1 ∧
      (job.live life).2.fate = (other.live otherLife).2.fate := by
  obtain ⟨sameShown, sameFate⟩ := observed.live life
  obtain ⟨otherShown, otherFate⟩ := otherObserved.live otherLife
  rw [sameShown, sameFate, otherShown, otherFate, Life.onFirst_eq samePolls sameDrop]
  exact ⟨rfl, rfl⟩

end Job

namespace Sample

/-- The stack of a layer whose request hook keeps no state, pauses and lets requests pass. -/
def pausing : Stack Unit Unit :=
  Stack.empty.add
    ((Layer.named "pausing").withRequestHook
      (.plain fun _ => do
        Task.pause
        return .ok .nothing))

/-- A transport that panics. -/
def crashing : Transport Unit Unit :=
  fun _ => .panic "no connection"

/-- A transport that pauses before it responds. -/
def slow : Transport Unit Unit :=
  fun request => do
    Task.pause
    return .ok (.plain request.url)

end Sample

namespace Downloader

variable (stack : Stack Unit ν)
variable (context : Context)
variable (transport : Transport Unit ν)
variable (request : Request)

/-- Without a state, a download does in any life what it does alone. -/
theorem live_eq_runAlone_of_stateless
    (observer : Observer ρ ν)
    (stopwatch : Event → Unit × ρ → Duration)
    (life : Life (Unit × ρ))
    (other : Observer υ ν)
    (otherStopwatch : Event → Unit × υ → Duration)
    (start : Unit × υ) :
    let job :=
      Job.fresh ((watched stack context observer stopwatch).download transport.onFirst request)
    let alone :=
      (Job.fresh
          ((watched stack context other otherStopwatch).download transport.onFirst request)).runAlone
        start life.polls.length life.dropped.isSome
    outline (job.live life).1 = outline alone.signals ∧
      (job.live life).2.fate = alone.result.fate := by
  intro job alone
  have observed := observedAs_download stack context observer stopwatch transport request
  have otherObserved := observedAs_download stack context other otherStopwatch transport request
  obtain ⟨otherLife, samePolls, sameDrop, sameRun⟩ :=
    (Job.fresh
        ((watched stack context other otherStopwatch).download transport.onFirst
          request)).exists_live_eq_runAlone
      start life.polls.length life.dropped.isSome
  have same :=
    Job.live_eq_of_stateless (.fresh observed) (.fresh otherObserved)
      samePolls.symm sameDrop.symm
  rwa [sameRun] at same

/--
In every run of a pool, a download through hooks that keep no state does what it
does alone: polled as often, dropped or not, under any observer and from any of
its states. It makes the same calls, hands the same events to the observer and
comes to the same end. The other jobs may be anything, such as downloads of the
same downloader that fail, panic or are dropped.
-/
theorem download_independent
    (observer : Observer ρ ν)
    (stopwatch : Event → Unit × ρ → Duration)
    (pool : Pool (Unit × ρ) (Signal ν) (Except Failure Outcome))
    (start : Unit × ρ)
    (turns : List Turn)
    (index : Nat)
    (member :
      pool[index]? =
        some
          (.fresh
            ((watched stack context observer stopwatch).download transport.onFirst request)))
    (other : Observer υ ν)
    (otherStopwatch : Event → Unit × υ → Duration)
    (fresh : Unit × υ) :
    let run := pool.follow start turns
    let polls := (turns.takeWhile (· ≠ .drop index)).count (.poll index)
    let alone :=
      (Job.fresh
          ((watched stack context other otherStopwatch).download transport.onFirst request)).runAlone
        fresh polls (.drop index ∈ turns)
    outline (Pool.signalsOf index run.signals) = outline alone.signals ∧
      (run.result[index]?).map Job.fate = some alone.result.fate := by
  intro run polls alone
  obtain ⟨sameSignals, sameResult⟩ := Pool.follow_member turns member start
  obtain ⟨sameShown, sameFate⟩ :=
    live_eq_runAlone_of_stateless stack context transport request observer stopwatch
      (pool.lifeOf start turns index) other otherStopwatch fresh
  rw [Pool.length_polls_lifeOf, Pool.isSome_dropped_lifeOf] at sameShown sameFate
  constructor
  · rw [sameSignals]
    exact sameShown
  · rw [sameResult]
    exact congrArg some sameFate

/--
Two downloads of one downloader take turns. The transport of one panics, and the
observer panics on every event; the other is dropped in its transport, with the
events that it hands over alone.
-/
theorem download_independent_beside_panic :
    let sink : Sink Nat Unit := ⟨"full", fun _ _ count => ⟨[], count + 1, some "no space"⟩⟩
    let downloader := watched Sample.pausing .default (.sink sink) fun _ _ => .zero
    let pool : Pool (Unit × Nat) (Signal Unit) (Except Failure Outcome) :=
      [.fresh (downloader.download Sample.crashing.onFirst (.get "/")),
        .fresh (downloader.download Sample.slow.onFirst (.get "/"))]
    let turns : List Turn := [.poll 0, .poll 1, .poll 0, .poll 1, .drop 1, .poll 0]
    let run := pool.follow ((), 0) turns
    let alone :=
      (Job.fresh
          ((watched Sample.pausing .default (.silent : Observer Unit Unit) fun _ _ =>
            .zero).download Sample.slow.onFirst (.get "/"))).runAlone
        ((), ()) 2 true
    run.result.map Job.fate = [.panicked "no connection", .dropped] ∧
      outline (Pool.signalsOf 1 run.signals) = outline alone.signals ∧
      eventsIn alone.signals =
        [.method (.finished .request "pausing" none),
          .chain (.interrupted .request (.request (.get "/")) ["pausing"] .cancelled)] := by
  intro sink downloader pool turns run alone
  have same :=
    download_independent Sample.pausing .default Sample.slow (.get "/")
      (.sink sink) (fun _ _ => .zero) pool ((), 0) turns 1 rfl
      .silent (fun _ _ => .zero) ((), ())
  exact ⟨rfl, same.1, rfl⟩

end Downloader

end Middleware
