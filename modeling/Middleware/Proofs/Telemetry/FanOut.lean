import Middleware.Telemetry.Observer

namespace Middleware

/-!
# Trees of observers

A fan-out may have fan-outs among its backends. Whatever the tree, an event visits
its leaves from left to right, and each leaf once. A leaf that panics is contained
where it is: a warning that names it follows, and the next leaf is visited. So no
panic leaves a fan-out, and a tree delivers what the flat fan-out of its leaves does.
-/

variable {σ ν : Type}

namespace Observer

mutual

/-- The observers of a tree that are no fan-outs, from left to right. -/
def leaves : Observer σ ν → List (Observer σ ν)
  | .silent => [.silent]
  | .log => [.log]
  | .sink target => [.sink target]
  | .fanOut backends => leavesOfAll backends

/-- The leaves of backends, from left to right. -/
def leavesOfAll : List (Observer σ ν) → List (Observer σ ν)
  | [] => []
  | backend :: rest => backend.leaves ++ leavesOfAll rest

end

/-- Deliver events one after another, each with the time that it reports. -/
def deliverEach
    (observer : Observer σ ν) :
    List (Event × Duration) →
    Burst σ (Signal ν)
  | [] => Burst.silent
  | (event, elapsed) :: later =>
      fun state =>
        let delivery := observer.deliver event elapsed state
        let (signals, state) := observer.deliverEach later delivery.state
        (delivery.signals ++ signals, state)

end Observer

/-- The delivery of an event to one of the leaves of a tree, which stands at a place among them. -/
structure Visit (σ ν : Type) where
  place : Nat
  leaf : Observer σ ν
  event : Event
  elapsed : Duration

namespace Visit

/-- What the leaf does with the event. -/
def delivery
    (visit : Visit σ ν)
    (state : σ) :
    Delivery σ (Signal ν) :=
  visit.leaf.deliver visit.event visit.elapsed state

/-- The warning that the leaf has panicked on the event. -/
def warning (visit : Visit σ ν) : LogLine :=
  panicWarning "observer backend panicked, event dropped" visit.leaf.name visit.event

/-- The visits of one event: all leaves in their order. -/
def ofEvent
    (leaves : List (Observer σ ν))
    (timed : Event × Duration) :
    List (Visit σ ν) :=
  leaves.zipIdx.map fun (leaf, place) => ⟨place, leaf, timed.1, timed.2⟩

/-- The visits of events: those of each event one after another. -/
def ofEvents
    (leaves : List (Observer σ ν))
    (events : List (Event × Duration)) :
    List (Visit σ ν) :=
  events.flatMap (ofEvent leaves)

/--
Visits one after another: what they show, the visits at which the leaf panics, and
the state behind them. A leaf that panics is followed by the warning about it, and
the next visit starts from the state in which the panic has left the leaf.
-/
inductive InOrder :
    List (Visit σ ν) →
    σ →
    List (Signal ν) →
    List (Visit σ ν) →
    σ →
    Prop where
  | none (state : σ) :
      InOrder [] state [] [] state
  | received
      {visit : Visit σ ν}
      {state after : σ}
      {later panicking : List (Visit σ ν)}
      {signals : List (Signal ν)}
      (returns : (visit.delivery state).panic = none)
      (rest : InOrder later (visit.delivery state).state signals panicking after) :
      InOrder (visit :: later) state
        ((visit.delivery state).signals ++ signals)
        panicking
        after
  | panicked
      {visit : Visit σ ν}
      {state after : σ}
      {later panicking : List (Visit σ ν)}
      {signals : List (Signal ν)}
      {message : String}
      (panics : (visit.delivery state).panic = some message)
      (rest : InOrder later (visit.delivery state).state signals panicking after) :
      InOrder (visit :: later) state
        ((visit.delivery state).signals ++ .log visit.warning :: signals)
        (visit :: panicking)
        after

end Visit

/-- The warnings among signals. -/
def warningsIn (signals : List (Signal ν)) : List LogLine :=
  signals.filterMap fun
    | .log line => if line.level = .warn then some line else none
    | _ => none

namespace Observer

/-- No panic leaves backends that are contained. -/
theorem panic_deliverAll
    (event : Event)
    (elapsed : Duration)
    (backends : List (Observer σ ν))
    (state : σ) :
    (deliverAll event elapsed backends state).panic = none := by
  induction backends generalizing state with
  | nil => rfl
  | cons backend rest inductionHypothesis => exact inductionHypothesis _

/-- Backends receive an event after those in front of them. -/
theorem deliverAll_append
    (event : Event)
    (elapsed : Duration)
    (first second : List (Observer σ ν))
    (state : σ) :
    deliverAll event elapsed (first ++ second) state =
      let earlier := deliverAll event elapsed first state
      let later := deliverAll event elapsed second earlier.state
      { later with signals := earlier.signals ++ later.signals } := by
  induction first generalizing state with
  | nil => rfl
  | cons backend rest inductionHypothesis =>
      simp only [List.cons_append, deliverAll, inductionHypothesis, List.append_assoc]

/-- Behind a backend that returns, the others receive the event. -/
theorem deliverAll_cons_of_returns
    {event : Event}
    {elapsed : Duration}
    {backend : Observer σ ν}
    {state : σ}
    (returns : (backend.deliver event elapsed state).panic = none)
    (rest : List (Observer σ ν)) :
    deliverAll event elapsed (backend :: rest) state =
      let earlier := backend.deliver event elapsed state
      let later := deliverAll event elapsed rest earlier.state
      { later with signals := earlier.signals ++ later.signals } := by
  simp only [deliverAll, contained, returns]

/-- Behind a backend that panics, the others receive the event, and a warning is in between. -/
theorem deliverAll_cons_of_panics
    {event : Event}
    {elapsed : Duration}
    {backend : Observer σ ν}
    {state : σ}
    {message : String}
    (panics : (backend.deliver event elapsed state).panic = some message)
    (rest : List (Observer σ ν)) :
    deliverAll event elapsed (backend :: rest) state =
      let earlier := backend.deliver event elapsed state
      let warning := panicWarning "observer backend panicked, event dropped" backend.name event
      let later := deliverAll event elapsed rest earlier.state
      { later with signals := earlier.signals ++ .log warning :: later.signals } := by
  simp only [deliverAll, contained, panics, List.append_assoc, List.singleton_append]

/-- Nothing is added to what a fan-out among backends delivers. -/
theorem deliverAll_singleton_fanOut
    (event : Event)
    (elapsed : Duration)
    (backends : List (Observer σ ν))
    (state : σ) :
    deliverAll event elapsed [.fanOut backends] state =
      deliverAll event elapsed backends state := by
  have returns : ((fanOut backends).deliver event elapsed state).panic = none :=
    panic_deliverAll event elapsed backends state
  rw [deliverAll_cons_of_returns returns]
  simp only [deliverAll, deliver, List.append_nil, ← returns]

mutual

/-- A backend may be replaced by its leaves. -/
theorem deliverAll_leaves
    (event : Event)
    (elapsed : Duration)
    (observer : Observer σ ν)
    (state : σ) :
    deliverAll event elapsed observer.leaves state =
      deliverAll event elapsed [observer] state := by
  match observer with
  | .silent => rfl
  | .log => rfl
  | .sink target => rfl
  | .fanOut backends =>
      rw [leaves, deliverAll_leavesOfAll event elapsed backends, deliverAll_singleton_fanOut]

/-- Backends may be replaced by their leaves. -/
theorem deliverAll_leavesOfAll
    (event : Event)
    (elapsed : Duration)
    (backends : List (Observer σ ν))
    (state : σ) :
    deliverAll event elapsed (leavesOfAll backends) state =
      deliverAll event elapsed backends state := by
  match backends with
  | [] => rfl
  | backend :: rest =>
      have restAsLeaves := deliverAll_leavesOfAll event elapsed rest
      rw [leavesOfAll, deliverAll_append, deliverAll_leaves event elapsed backend]
      simp only [restAsLeaves]
      exact (deliverAll_append event elapsed [backend] rest state).symm

end

/-- Leaves are no fan-outs. -/
def IsLeaf : Observer σ ν → Prop
  | .fanOut _ => False
  | .silent | .log | .sink _ => True

mutual

theorem isLeaf_of_mem_leaves
    (observer : Observer σ ν) :
    ∀ leaf ∈ observer.leaves, leaf.IsLeaf := by
  match observer with
  | .silent => simp [leaves, IsLeaf]
  | .log => simp [leaves, IsLeaf]
  | .sink target => simp [leaves, IsLeaf]
  | .fanOut backends => exact isLeaf_of_mem_leavesOfAll backends

theorem isLeaf_of_mem_leavesOfAll
    (backends : List (Observer σ ν)) :
    ∀ leaf ∈ leavesOfAll backends, leaf.IsLeaf := by
  match backends with
  | [] => simp [leavesOfAll]
  | backend :: rest =>
      intro leaf member
      rcases List.mem_append.mp member with ofBackend | ofRest
      · exact isLeaf_of_mem_leaves backend leaf ofBackend
      · exact isLeaf_of_mem_leavesOfAll rest leaf ofRest

end

/-- Only a sink panics on an event, of all leaves. -/
theorem IsLeaf.exists_sink_of_panic
    {leaf : Observer σ ν}
    (isLeaf : leaf.IsLeaf)
    {event : Event}
    {elapsed : Duration}
    {state : σ}
    {message : String}
    (panics : (leaf.deliver event elapsed state).panic = some message) :
    ∃ target, leaf = .sink target := by
  cases leaf with
  | silent => cases panics
  | log => cases panics
  | sink target => exact ⟨target, rfl⟩
  | fanOut backends => cases isLeaf

/-- A leaf logs no warning itself. -/
theorem IsLeaf.warningsIn_deliver
    {leaf : Observer σ ν}
    (isLeaf : leaf.IsLeaf)
    (event : Event)
    (elapsed : Duration)
    (state : σ) :
    warningsIn (leaf.deliver event elapsed state).signals = [] := by
  cases leaf with
  | silent => rfl
  | log => cases event <;> rfl
  | sink target => simp [warningsIn, deliver]
  | fanOut backends => cases isLeaf

end Observer

theorem warningsIn_append
    (first second : List (Signal ν)) :
    warningsIn (first ++ second) = warningsIn first ++ warningsIn second :=
  List.filterMap_append

namespace Visit

variable {visits later panicking laterPanicking : List (Visit σ ν)}
variable {signals laterSignals : List (Signal ν)}
variable {state between after : σ}

theorem InOrder.append
    (first : InOrder visits state signals panicking between)
    (second : InOrder later between laterSignals laterPanicking after) :
    InOrder (visits ++ later) state
      (signals ++ laterSignals)
      (panicking ++ laterPanicking)
      after := by
  induction first with
  | none state => exact second
  | received returns rest inductionHypothesis =>
      rw [List.append_assoc]
      exact .received returns (inductionHypothesis second)
  | panicked panics rest inductionHypothesis =>
      rw [List.append_assoc]
      exact .panicked panics (inductionHypothesis second)

theorem InOrder.panicking_sublist
    (inOrder : InOrder visits state signals panicking after) :
    panicking.Sublist visits := by
  induction inOrder with
  | none state => exact .slnil
  | received returns rest inductionHypothesis => exact .cons _ inductionHypothesis
  | panicked panics rest inductionHypothesis => exact .cons_cons _ inductionHypothesis

/-- There is one warning for each visit at which a leaf panics, and no other. -/
theorem InOrder.warningsIn_eq
    (areLeaves : ∀ visit ∈ visits, visit.leaf.IsLeaf)
    (inOrder : InOrder visits state signals panicking after) :
    warningsIn signals = panicking.map Visit.warning := by
  induction inOrder with
  | none state => rfl
  | received returns rest inductionHypothesis =>
      obtain ⟨isLeaf, restAreLeaves⟩ := List.forall_mem_cons.mp areLeaves
      rw [warningsIn_append, inductionHypothesis restAreLeaves, delivery,
        isLeaf.warningsIn_deliver, List.nil_append]
  | panicked panics rest inductionHypothesis =>
      obtain ⟨isLeaf, restAreLeaves⟩ := List.forall_mem_cons.mp areLeaves
      rw [warningsIn_append, delivery, isLeaf.warningsIn_deliver, List.map_cons,
        ← inductionHypothesis restAreLeaves]
      rfl

theorem InOrder.exists_sink_of_mem_panicking
    (areLeaves : ∀ visit ∈ visits, visit.leaf.IsLeaf)
    (inOrder : InOrder visits state signals panicking after) :
    ∀ visit ∈ panicking, ∃ target, visit.leaf = .sink target := by
  induction inOrder with
  | none state => exact List.forall_mem_nil _
  | received returns rest inductionHypothesis =>
      exact inductionHypothesis (List.forall_mem_cons.mp areLeaves).2
  | panicked panics rest inductionHypothesis =>
      obtain ⟨isLeaf, restAreLeaves⟩ := List.forall_mem_cons.mp areLeaves
      exact
        List.forall_mem_cons.mpr
          ⟨isLeaf.exists_sink_of_panic panics, inductionHypothesis restAreLeaves⟩

theorem isLeaf_of_mem_ofEvents
    {leaves : List (Observer σ ν)}
    (areLeaves : ∀ leaf ∈ leaves, leaf.IsLeaf)
    (events : List (Event × Duration)) :
    ∀ visit ∈ ofEvents leaves events, visit.leaf.IsLeaf := by
  intro visit member
  obtain ⟨timed, _, member⟩ := List.mem_flatMap.mp member
  obtain ⟨⟨leaf, place⟩, placed, rfl⟩ := List.mem_map.mp member
  exact areLeaves leaf (List.fst_mem_of_mem_zipIdx placed)

/-- Of elements that are numbered from some place on, one has the number of its place. -/
theorem filter_zipIdx
    {α : Type}
    (elements : List α)
    (first place : Nat) :
    (elements.zipIdx first).filter (fun numbered => numbered.2 = first + place) =
      (elements[place]?.map fun element => (element, first + place)).toList := by
  induction elements generalizing first place with
  | nil => rfl
  | cons element rest inductionHypothesis =>
      cases place with
      | zero =>
          have noneLater :
              (rest.zipIdx (first + 1)).filter (fun numbered => numbered.2 = first) = [] := by
            rw [List.filter_eq_nil_iff]
            intro numbered member
            have later := List.le_snd_of_mem_zipIdx member
            simpa using by omega
          simpa using noneLater
      | succ place =>
          have shifted : first + 1 + place = first + (place + 1) := by omega
          have restIs := inductionHypothesis (first + 1) place
          rw [shifted] at restIs
          simpa [List.zipIdx_cons, List.filter_cons] using restIs

/-- Among the visits of one event there is one at each place. -/
theorem filter_place_ofEvent
    {leaves : List (Observer σ ν)}
    {place : Nat}
    {leaf : Observer σ ν}
    (stands : leaves[place]? = some leaf)
    (timed : Event × Duration) :
    (ofEvent leaves timed).filter (fun visit => visit.place = place) =
      [⟨place, leaf, timed.1, timed.2⟩] := by
  have numbered := filter_zipIdx leaves 0 place
  rw [stands, Nat.zero_add] at numbered
  rw [ofEvent, List.filter_map]
  exact congrArg _ numbered

/-- Each leaf is visited once for every event, and in the order of the events. -/
theorem filter_place_ofEvents
    {leaves : List (Observer σ ν)}
    {place : Nat}
    {leaf : Observer σ ν}
    (stands : leaves[place]? = some leaf)
    (events : List (Event × Duration)) :
    (ofEvents leaves events).filter (fun visit => visit.place = place) =
      events.map fun timed => ⟨place, leaf, timed.1, timed.2⟩ := by
  induction events with
  | nil => rfl
  | cons timed rest inductionHypothesis =>
      rw [ofEvents] at inductionHypothesis ⊢
      rw [List.flatMap_cons, List.filter_append, filter_place_ofEvent stands, inductionHypothesis]
      rfl

end Visit

namespace Observer

/-- Backends are visited in their order. -/
theorem inOrder_deliverAll
    (event : Event)
    (elapsed : Duration)
    (backends : List (Observer σ ν))
    (place : Nat)
    (state : σ) :
    ∃ panicking,
      Visit.InOrder
        ((backends.zipIdx place).map fun (leaf, place) => ⟨place, leaf, event, elapsed⟩)
        state
        (deliverAll event elapsed backends state).signals
        panicking
        (deliverAll event elapsed backends state).state := by
  induction backends generalizing place state with
  | nil => exact ⟨[], .none state⟩
  | cons backend rest inductionHypothesis =>
      let visit : Visit σ ν := ⟨place, backend, event, elapsed⟩
      obtain ⟨panicking, later⟩ := inductionHypothesis (place + 1) (visit.delivery state).state
      rw [List.zipIdx_cons, List.map_cons]
      cases fate : (visit.delivery state).panic with
      | none =>
          rw [deliverAll_cons_of_returns fate]
          exact ⟨panicking, .received fate later⟩
      | some message =>
          rw [deliverAll_cons_of_panics fate]
          exact ⟨visit :: panicking, .panicked fate later⟩

/-- Events visit the leaves of a fan-out in their order, one event after another. -/
theorem inOrder_deliverEach
    (backends : List (Observer σ ν))
    (events : List (Event × Duration))
    (state : σ) :
    ∃ panicking,
      Visit.InOrder
        (Visit.ofEvents (fanOut backends).leaves events)
        state
        ((fanOut backends).deliverEach events state).1
        panicking
        ((fanOut backends).deliverEach events state).2 := by
  induction events generalizing state with
  | nil => exact ⟨[], .none state⟩
  | cons timed rest inductionHypothesis =>
      obtain ⟨event, elapsed⟩ := timed
      have ofTree := deliverAll_leavesOfAll event elapsed backends state
      obtain ⟨panicking, visited⟩ := inOrder_deliverAll event elapsed (leavesOfAll backends) 0 state
      rw [ofTree] at visited
      obtain ⟨laterPanicking, later⟩ :=
        inductionHypothesis (deliverAll event elapsed backends state).state
      exact ⟨panicking ++ laterPanicking, visited.append later⟩

/-- A fan-out and the flat fan-out of its leaves deliver the same. -/
theorem deliverEach_leaves
    (backends : List (Observer σ ν))
    (events : List (Event × Duration))
    (state : σ) :
    (fanOut (fanOut backends).leaves).deliverEach events state =
      (fanOut backends).deliverEach events state := by
  induction events generalizing state with
  | nil => rfl
  | cons timed rest inductionHypothesis =>
      have ofTree := deliverAll_leavesOfAll timed.1 timed.2 backends state
      simp only [deliverEach, deliver, inductionHypothesis]
      rw [leaves, ofTree]

/--
Events that are delivered to a tree of fan-outs visit the leaves of the tree from left
to right, and every leaf once for each event. At some visits a leaf panics: for each
of them, and for nothing else, a warning names the leaf and the phase of the event,
behind what the leaf has shown and in front of the next visit. Only sinks panic, so no
warning names a fan-out. The flat fan-out of the leaves delivers the same; no panic
leaves the tree, and a reporter adds nothing to what the tree delivers.
-/
theorem deliverEach_visits_leaves
    (backends : List (Observer σ ν))
    (events : List (Event × Duration))
    (state : σ) :
    let root := Observer.fanOut backends
    let visits := Visit.ofEvents root.leaves events
    let shown := (root.deliverEach events state).1
    (∃ panicking,
        Visit.InOrder visits state shown panicking (root.deliverEach events state).2 ∧
          panicking.Sublist visits ∧
          warningsIn shown = panicking.map Visit.warning ∧
          ∀ visit ∈ panicking, ∃ target, visit.leaf = .sink target) ∧
      (∀ place leaf,
        root.leaves[place]? = some leaf →
          visits.filter (fun visit => visit.place = place) =
            events.map fun (event, elapsed) => ⟨place, leaf, event, elapsed⟩) ∧
      (Observer.fanOut root.leaves).deliverEach events state = root.deliverEach events state ∧
      (∀ event elapsed state, (root.deliver event elapsed state).panic = none) ∧
      ∀ stopwatch event state,
        let delivery := root.deliver event (stopwatch event state) state
        (Reporter.mk root stopwatch).report event state =
          (.event event :: delivery.signals, delivery.state) := by
  intro root visits shown
  have contained : ∀ event elapsed state, (root.deliver event elapsed state).panic = none :=
    fun event elapsed state => panic_deliverAll event elapsed backends state
  refine ⟨?visited, ?once, deliverEach_leaves backends events state, contained, ?reported⟩
  case visited =>
    have areLeaves := Visit.isLeaf_of_mem_ofEvents root.isLeaf_of_mem_leaves events
    obtain ⟨panicking, inOrder⟩ := inOrder_deliverEach backends events state
    exact
      ⟨panicking, inOrder, inOrder.panicking_sublist, inOrder.warningsIn_eq areLeaves,
        inOrder.exists_sink_of_mem_panicking areLeaves⟩
  case once =>
    intro place leaf stands
    exact Visit.filter_place_ofEvents stands events
  case reported =>
    intro stopwatch event state delivery
    simp only [Reporter.report, Observer.contained, delivery]
    rw [contained]

end Observer

namespace Sample

/-- A sink that notes its name, counts the event, and panics on the reports of hook calls if told so. -/
def noting
    (name : String)
    (panicsOnMethods : Bool) :
    Observer Nat String :=
  .sink
    ⟨name, fun event _ received =>
      match event with
      | .method _ => ⟨[name], received + 1, if panicsOnMethods then some "down" else none⟩
      | .chain _ => ⟨[name], received + 1, none⟩⟩

/-- A tree whose second leaf panics two fan-outs below the root, beside an empty fan-out. -/
def backends : List (Observer Nat String) :=
  [.fanOut [], .fanOut [noting "first" false, .fanOut [noting "brittle" true, .silent]],
    noting "last" false]

/-- The reports of a hook call and of the run of its chain. -/
def reported : List (Event × Duration) :=
  [(.method (.finished .request "Auth" none), .zero),
    (.chain (.finished .request (.request (.get "/")) ["Auth"] none), .zero)]

end Sample

/-- A leaf panics on the first event, and it and the leaf behind it still receive both. -/
theorem Observer.deliverEach_visits_leaves_brittle :
    let root := Observer.fanOut Sample.backends
    let visits := Visit.ofEvents root.leaves Sample.reported
    root.deliverEach Sample.reported 0 =
        ([.note "first", .note "brittle",
            .log
              (panicWarning "observer backend panicked, event dropped" "brittle"
                (.method (.finished .request "Auth" none))),
            .note "last", .note "first", .note "brittle", .note "last"],
          6) ∧
      (visits.filter fun visit => visit.place = 1) =
        Sample.reported.map fun (event, elapsed) =>
          ⟨1, Sample.noting "brittle" true, event, elapsed⟩ := by
  intro root visits
  obtain ⟨_, once, _⟩ := deliverEach_visits_leaves Sample.backends Sample.reported 0
  exact ⟨rfl, once 1 (Sample.noting "brittle" true) rfl⟩

end Middleware
