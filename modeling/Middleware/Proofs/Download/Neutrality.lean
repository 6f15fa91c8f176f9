import Middleware.Proofs.Chain.Neutrality
import Middleware.Proofs.Download.Independence
import Middleware.Proofs.Stack

namespace Middleware

/-!
# Neutral layers

A layer is neutral if its hooks only suspend, work on a state of their own, and
then pass on what they have received. Wherever it is put among other layers, a
download that nothing disturbs comes to the same result. Apart from the calls and
the visits of its hooks it shows the same, in the same order.
-/

variable {τ υ ρ ν ι : Type}

/--
The hooks of a layer leave the state of all others alone and, after some number of
suspensions, reply with nothing, or with the response that they have received.
-/
structure Layer.IsNeutral (layer : Layer (τ × υ) ν) : Prop where
  request :
    ∀ hook ∈ layer.request,
      ∀ input context, (hook.start input context).PassesBy (.ok .nothing)
  response :
    ∀ hook ∈ layer.response,
      ∀ input context, (hook.start input context).PassesBy (.ok (.response input.2))
  exception :
    ∀ hook ∈ layer.exception,
      ∀ input context, (hook.start input context).PassesBy (.ok .nothing)

/-- The places of the hooks of a layer that is put between layers, in the order of each phase. -/
def Layer.placesBetween
    (layer : Layer (τ × υ) ν)
    (before after : List (Layer τ ν)) :
    Phase →
    Option Nat
  | .request => layer.request.map fun _ => (Layer.requestEntries before).length
  | .response => layer.response.map fun _ => (Layer.responseEntries after).length
  | .exception => layer.exception.map fun _ => (Layer.exceptionEntries after).length

/-- A layer between layers that work on the first part of a state. -/
def Layer.between
    (layer : Layer (τ × υ) ν)
    (before after : List (Layer τ ν)) :
    List (Layer (τ × υ) ν) :=
  before.map Layer.onFirst ++ layer :: after.map Layer.onFirst

/-- What is selected of a layer between layers stands between what is selected of these. -/
theorem Layer.filterMap_between
    {select : Layer τ ν → Option (Entry τ ν ι)}
    {selectLonger : Layer (τ × υ) ν → Option (Entry (τ × υ) ν ι)}
    (commutes : ∀ layer, selectLonger layer.onFirst = (select layer).map Entry.onFirst)
    (layer : Layer (τ × υ) ν)
    (before after : List (Layer τ ν)) :
    (layer.between before after).filterMap selectLonger =
      (before.filterMap select).map Entry.onFirst ++ (selectLonger layer).toList ++
        (after.filterMap select).map Entry.onFirst := by
  have lifted :
      ∀ layers : List (Layer τ ν),
        (layers.map Layer.onFirst).filterMap selectLonger =
          (layers.filterMap select).map Entry.onFirst := by
    intro layers
    rw [List.filterMap_map, List.map_filterMap]
    exact congrArg (fun selected => layers.filterMap selected) (funext commutes)
  rw [Layer.between, List.filterMap_append, lifted, List.filterMap_cons, List.append_assoc]
  cases selectLonger layer with
  | none => rw [lifted]; rfl
  | some entry => rw [lifted]; rfl

/-- The hooks of a layer between layers, in the order of the layers. -/
theorem IsInserted.inOrder
    (select : Layer τ ν → Option (Entry τ ν ι))
    (selectLonger : Layer (τ × υ) ν → Option (Entry (τ × υ) ν ι))
    (commutes : ∀ layer, selectLonger layer.onFirst = (select layer).map Entry.onFirst)
    (layer : Layer (τ × υ) ν)
    (before after : List (Layer τ ν)) :
    IsInserted (selectLonger layer)
      ((before ++ after).filterMap select)
      ((selectLonger layer).map fun _ => (before.filterMap select).length)
      ((layer.between before after).filterMap selectLonger) :=
  ⟨before.filterMap select, after.filterMap select, List.filterMap_append,
    layer.filterMap_between commutes before after, rfl⟩

/-- The hooks of a layer between layers, in the reverse order of the layers. -/
theorem IsInserted.inReverse
    (select : Layer τ ν → Option (Entry τ ν ι))
    (selectLonger : Layer (τ × υ) ν → Option (Entry (τ × υ) ν ι))
    (commutes : ∀ layer, selectLonger layer.onFirst = (select layer).map Entry.onFirst)
    (layer : Layer (τ × υ) ν)
    (before after : List (Layer τ ν)) :
    IsInserted (selectLonger layer)
      ((before ++ after).filterMap select).reverse
      ((selectLonger layer).map fun _ => (after.filterMap select).length)
      ((layer.between before after).filterMap selectLonger).reverse := by
  refine ⟨(after.filterMap select).reverse, (before.filterMap select).reverse, ?_, ?_, ?_⟩
  · rw [List.filterMap_append, List.reverse_append]
  · rw [layer.filterMap_between commutes before after]
    cases selectLonger layer <;> simp
  · rw [List.length_reverse]

/-- A stack whose hooks are those of another one with the hooks of a layer put among them. -/
structure Stack.Extends
    (longer : Stack (τ × υ) ν)
    (layer : Layer (τ × υ) ν)
    (places : Phase → Option Nat)
    (stack : Stack τ ν) :
    Prop where
  request :
    IsInserted (layer.request.map (Entry.mk layer.name))
      stack.request (places .request) longer.request
  response :
    IsInserted (layer.response.map (Entry.mk layer.name))
      stack.response (places .response) longer.response
  exception :
    IsInserted (layer.exception.map (Entry.mk layer.name))
      stack.exception (places .exception) longer.exception

/-- A layer that has a name may be put anywhere among layers that are accepted. -/
theorem Stack.exists_ofLayers_between
    {layer : Layer (τ × υ) ν}
    {before after : List (Layer τ ν)}
    {stack : Stack τ ν}
    (accepted : ofLayers (before ++ after) = .ok stack)
    (named : Text.isBlank layer.name = false) :
    ∃ longer, ofLayers (layer.between before after) = .ok longer := by
  have allNamed := exists_ofLayers_eq_ok_iff.mp ⟨stack, accepted⟩
  obtain ⟨beforeNamed, afterNamed⟩ := List.forall_mem_append.mp allNamed
  rw [exists_ofLayers_eq_ok_iff, Layer.between, List.forall_mem_append, List.forall_mem_cons]
  refine ⟨?_, named, ?_⟩
  · exact List.forall_mem_map.mpr beforeNamed
  · exact List.forall_mem_map.mpr afterNamed

/-- The stack of a layer between layers extends the stack of these. -/
theorem Stack.Extends.of_between
    {layer : Layer (τ × υ) ν}
    {before after : List (Layer τ ν)}
    {stack : Stack τ ν}
    (accepted : ofLayers (before ++ after) = .ok stack)
    {longer : Stack (τ × υ) ν}
    (longerAccepted : ofLayers (layer.between before after) = .ok longer) :
    longer.Extends layer (layer.placesBetween before after) stack := by
  obtain ⟨sameRequest, sameResponse, sameException⟩ := eq_of_ofLayers_eq_ok accepted
  obtain ⟨longerRequest, longerResponse, longerException⟩ := eq_of_ofLayers_eq_ok longerAccepted
  have named :
      ∀ {ι : Type} (name : String) (hook : Option (Hook τ ν ι)),
        (hook.map Hook.onFirst).map (Entry.mk name) =
          (hook.map (Entry.mk name)).map
            (Entry.onFirst : Entry τ ν ι → Entry (τ × υ) ν ι) := by
    intro ι name hook
    cases hook <;> rfl
  have placed :
      ∀ {ι : Type} (hook : Option (Hook (τ × υ) ν ι)) (place : Nat),
        (hook.map fun _ => place) = (hook.map (Entry.mk layer.name)).map fun _ => place := by
    intro ι hook place
    cases hook <;> rfl
  constructor
  · rw [sameRequest, longerRequest, Layer.placesBetween, placed]
    exact
      IsInserted.inOrder (fun layer => layer.request.map (Entry.mk layer.name))
        (fun layer => layer.request.map (Entry.mk layer.name))
        (fun layer => named layer.name layer.request) layer before after
  · rw [sameResponse, longerResponse, Layer.placesBetween, placed]
    exact
      IsInserted.inReverse (fun layer => layer.response.map (Entry.mk layer.name))
        (fun layer => layer.response.map (Entry.mk layer.name))
        (fun layer => named layer.name layer.response) layer before after
  · rw [sameException, longerException, Layer.placesBetween, placed]
    exact
      IsInserted.inReverse (fun layer => layer.exception.map (Entry.mk layer.name))
        (fun layer => layer.exception.map (Entry.mk layer.name))
        (fun layer => named layer.name layer.exception) layer before after

/-- What two runs show one after another, where it is given how the two differ in each part. -/
def InSequence
    (first second : List (Signal ν) → List (Signal ν) → Prop)
    (signals shorter : List (Signal ν)) :
    Prop :=
  ∃ earlier shorterEarlier later shorterLater,
    first earlier shorterEarlier ∧
      second later shorterLater ∧
      signals = earlier ++ later ∧
      shorter = shorterEarlier ++ shorterLater

namespace Run.Extends

variable {γ α β : Type}
variable {omits omitsThen : List (Signal ν) → List (Signal ν) → Prop}

theorem mono
    {run : Run (τ × υ) (Signal ν) γ}
    {shorter : Run τ (Signal ν) γ}
    (extend : run.Extends omits shorter)
    (weaker : ∀ signals shorter, omits signals shorter → omitsThen signals shorter) :
    run.Extends omitsThen shorter :=
  ⟨weaker _ _ extend.shown, extend.left, extend.result⟩

/-- Runs that differ in what they show go on with tasks that do. -/
theorem thenSettle
    {run : Run (τ × υ) (Signal ν) (Fate α)}
    {shorter : Run τ (Signal ν) (Fate α)}
    (first : run.Extends omits shorter)
    (nothing : omitsThen [] [])
    {next : α → Task (τ × υ) (Signal ν) β}
    {shorterNext : α → Task τ (Signal ν) β}
    (second :
      ∀ value state,
        ((next value).settle state).Extends omitsThen ((shorterNext value).settle state.1)) :
    (run.thenSettle next).Extends (InSequence omits omitsThen) (shorter.thenSettle shorterNext) := by
  rcases run with ⟨signals, state, fate⟩
  rcases shorter with ⟨shorterSignals, after, shorterFate⟩
  obtain ⟨shown, left, result⟩ := first
  obtain rfl : state.1 = after := left
  obtain rfl : fate = shorterFate := result
  have ended :
      InSequence omits omitsThen (outline signals) (outline shorterSignals) :=
    ⟨_, _, [], [], shown, nothing, (List.append_nil _).symm, (List.append_nil _).symm⟩
  cases fate with
  | finished value =>
      have later := second value state
      exact
        ⟨⟨_, _, _, _, shown, later.shown, outline_append _ _, outline_append _ _⟩,
          later.left, later.result⟩
  | unpolled => exact ⟨ended, rfl, rfl⟩
  | waiting => exact ⟨ended, rfl, rfl⟩
  | stuck => exact ⟨ended, rfl, rfl⟩
  | panicked message => exact ⟨ended, rfl, rfl⟩
  | dropped => exact ⟨ended, rfl, rfl⟩

end Run.Extends

/-- Hooks that pass by with an answer by which a chain goes on are neutral in the chain. -/
theorem Chain.forall_isNeutral
    {κ : Type}
    {chain : Chain τ ν ι κ}
    {middleware : String}
    {present : Option (Hook (τ × υ) ν ι)}
    {answer : ι → Answer}
    (passBy :
      ∀ hook ∈ present, ∀ input context, (hook.start input context).PassesBy (answer input))
    (goesOn :
      ∀ carried, chain.verdict middleware (answer (chain.input carried)) = .ok (.proceed carried)) :
    ∀ entry ∈ present.map (Entry.mk middleware), chain.IsNeutral entry := by
  intro entry member carried
  obtain ⟨hook, among, rfl⟩ := Option.map_eq_some_iff.mp member
  exact ⟨_, passBy hook among _ _, goesOn carried⟩

theorem Entry.forall_mem_map_mk
    {present : Option (Hook (τ × υ) ν ι)}
    (middleware : String) :
    ∀ entry ∈ present.map (Entry.mk middleware), entry.middleware = middleware := by
  intro entry member
  obtain ⟨hook, _, rfl⟩ := Option.map_eq_some_iff.mp member
  rfl

namespace Sample

/-- A layer that pauses in each hook, counts the call and passes on what it has received. -/
def tallying : Layer (Nat × Nat) Unit :=
  let tally (reply : Reply) : Task (Nat × Nat) Unit Answer := do
    Task.pause
    Task.perform fun (count, own) => ([()], (count, own + 1))
    return .ok reply
  (((Layer.named "tallying").withRequestHook (.plain fun _ => tally .nothing)).withResponseHook
      (.plain fun exchange => tally (.response exchange.2))).withExceptionHook
    (.plain fun _ => tally .nothing)

theorem isNeutral_tallying : tallying.IsNeutral := by
  constructor
  all_goals
    intro hook present input context
    obtain rfl := Option.mem_some.mp present
    exact .suspend _ (.act (fun _ => rfl) fun _ => .done)

end Sample

namespace Downloader

theorem isBare_requestChain
    (stack : Stack τ ν)
    (context : Context)
    (transport : Transport τ ν)
    (request : Request) :
    ((bare stack context).requestChain transport request).IsBare where
  reports _ := rfl
  concludes rename others _ := by
    have renamesNotes : rename ∘ Signal.note = (Signal.note : ν → Signal ν) :=
      funext fun note => others (.note note) fun _ isEvent => by cases isEvent
    have renamesEmit :
        ∀ signal : Signal ν,
          (∀ event, signal ≠ .event event) →
            (Task.emit signal : Task τ (Signal ν) Unit).relabel rename = .emit signal :=
      fun signal notEvent => congrArg Task.emit (others signal notEvent)
    change (callTransport transport request).relabel rename = callTransport transport request
    simp only [callTransport, Task.bind_eq_bind, Task.relabel_bind, Task.relabel_relabel,
      renamesNotes, renamesEmit, ne_eq, reduceCtorEq, not_false_eq_true, implies_true]
    congr 1
    funext _
    congr 1
    funext answer
    cases answer <;> rfl

theorem isBare_exceptionChain
    (stack : Stack τ ν)
    (context : Context)
    (request : Request)
    (failure : Failure) :
    ((bare stack context).exceptionChain request failure).IsBare where
  reports _ := rfl
  concludes _ _ _ := rfl

theorem isBare_responseChain
    (stack : Stack τ ν)
    (context : Context)
    (request : Request)
    (response : Response) :
    ((bare stack context).responseChain request response).IsBare where
  reports _ := rfl
  concludes _ _ _ := rfl

section Extended

variable {layer : Layer (τ × υ) ν}
variable {places : Phase → Option Nat}
variable {stack : Stack τ ν}
variable {longer : Stack (τ × υ) ν}

theorem extends_send
    (neutral : layer.IsNeutral)
    (extend : longer.Extends layer places stack)
    (context : Context)
    (transport : Transport τ ν)
    (request : Request)
    (state : τ × υ) :
    (((bare longer context).send transport.onFirst request).settle state).Extends
      (IsStageWithout .request (places .request) layer.name)
      (((bare stack context).send transport request).settle state.1) :=
  Chain.extends_run (isBare_requestChain stack context transport request)
    ((bare stack context).wellFormed_requestChain transport request)
    (observedAs_requestChain stack context .silent (fun _ _ => .zero) transport request)
    ((bare longer context).wellFormed_requestChain transport.onFirst request)
    (Chain.forall_isNeutral neutral.request fun _ => rfl) (Entry.forall_mem_map_mk layer.name)
    extend.request () state

theorem extends_recover
    (neutral : layer.IsNeutral)
    (extend : longer.Extends layer places stack)
    (context : Context)
    (request : Request)
    (failure : Failure)
    (state : τ × υ) :
    (((bare longer context).recover request failure).settle state).Extends
      (IsStageWithout .exception (places .exception) layer.name)
      (((bare stack context).recover request failure).settle state.1) :=
  Chain.extends_run (isBare_exceptionChain stack context request failure)
    ((bare stack context).wellFormed_exceptionChain request failure)
    (observedAs_exceptionChain stack context .silent (fun _ _ => .zero) request failure)
    ((bare longer context).wellFormed_exceptionChain request failure)
    (Chain.forall_isNeutral neutral.exception fun _ => rfl) (Entry.forall_mem_map_mk layer.name)
    extend.exception () state

theorem extends_receive
    (neutral : layer.IsNeutral)
    (extend : longer.Extends layer places stack)
    (context : Context)
    (request : Request)
    (outcome : Outcome)
    (state : τ × υ) :
    (((bare longer context).receive request (some outcome)).settle state).Extends
      (IsStageWithout .response (places .response) layer.name)
      (((bare stack context).receive request (some outcome)).settle state.1) := by
  cases outcome with
  | request retry =>
      exact ⟨.nil .response _ _, rfl, rfl⟩
  | response response =>
      exact
        Chain.extends_run (isBare_responseChain stack context request response)
          ((bare stack context).wellFormed_responseChain request response)
          (observedAs_responseChain stack context .silent (fun _ _ => .zero) request response)
          ((bare longer context).wellFormed_responseChain request response)
          (Chain.forall_isNeutral neutral.response fun _ => rfl)
          (Entry.forall_mem_map_mk layer.name)
          extend.response response state

theorem extends_afterRecovery
    (neutral : layer.IsNeutral)
    (extend : longer.Extends layer places stack)
    (context : Context)
    (request : Request)
    (result : Except Failure Outcome)
    (state : τ × υ) :
    (((bare longer context).afterRecovery request result).settle state).Extends
      (IsStageWithout .response (places .response) layer.name)
      (((bare stack context).afterRecovery request result).settle state.1) := by
  cases result with
  | ok outcome => exact extends_receive neutral extend context request outcome state
  | error failure => exact ⟨.nil .response _ _, rfl, rfl⟩

theorem extends_afterRequest
    (neutral : layer.IsNeutral)
    (extend : longer.Extends layer places stack)
    (context : Context)
    (request : Request)
    (result : Except Failure Outcome)
    (state : τ × υ) :
    (((bare longer context).afterRequest request result).settle state).Extends
      (InSequence (IsStageWithout .exception (places .exception) layer.name)
        (IsStageWithout .response (places .response) layer.name))
      (((bare stack context).afterRequest request result).settle state.1) := by
  cases result with
  | ok outcome =>
      have received := extends_receive neutral extend context request outcome state
      exact
        received.mono fun signals shorter stages =>
          ⟨[], [], signals, shorter, .nil .exception _ _, stages, rfl, rfl⟩
  | error failure =>
      have recovered := extends_recover neutral extend context request failure state
      change
        ((((bare longer context).recover request failure).bind
            ((bare longer context).afterRecovery request)).settle state).Extends _
          ((((bare stack context).recover request failure).bind
            ((bare stack context).afterRecovery request)).settle state.1)
      rw [Task.settle_bind, Task.settle_bind]
      exact
        recovered.thenSettle (.nil .response _ _)
          (extends_afterRecovery neutral extend context request)

/-- Without the hooks of a neutral layer, a download shows what it shows without the layer. -/
theorem extends_download
    (neutral : layer.IsNeutral)
    (extend : longer.Extends layer places stack)
    (context : Context)
    (transport : Transport τ ν)
    (request : Request)
    (state : τ × υ) :
    (((bare longer context).download transport.onFirst request).settle state).Extends
      (IsWithoutLayer places layer.name)
      (((bare stack context).download transport request).settle state.1) := by
  have sent := extends_send neutral extend context transport request state
  have nothing :
      InSequence (IsStageWithout .exception (places .exception) layer.name)
        (IsStageWithout .response (places .response) layer.name)
        ([] : List (Signal ν)) [] :=
    ⟨[], [], [], [], .nil .exception _ _, .nil .response _ _, rfl, rfl⟩
  rw [download_eq_bind, download_eq_bind, Task.settle_bind, Task.settle_bind]
  refine
    (sent.thenSettle nothing (extends_afterRequest neutral extend context request)).mono ?_
  rintro _ _ ⟨_, _, _, _, sends, ⟨_, _, _, _, recovers, receives, rfl, rfl⟩, rfl, rfl⟩
  exact .of_stages sends recovers receives

end Extended

/--
A neutral layer may be put anywhere among layers that are accepted. Under any
observer, a download that nothing disturbs comes to the same result with it as
without it, and leaves the same state of the other hooks and of the transport.
What it shows, calls with all that is passed, what they come back with, and
events, is the same in the same order once the layer is left out: its calls and
their reports, and its visits from the chain reports. The hooks that are called at
the places of the layer, and left out, are its own.
-/
theorem download_unchanged_by_neutral
    (before after : List (Layer τ ν))
    (layer : Layer (τ × υ) ν)
    (neutral : layer.IsNeutral)
    (named : Text.isBlank layer.name = false)
    (stack : Stack τ ν)
    (accepted : Stack.ofLayers (before ++ after) = .ok stack)
    (context : Context)
    (observer : Observer ρ ν)
    (stopwatch : Event → τ × ρ → Duration)
    (longerStopwatch : Event → (τ × υ) × ρ → Duration)
    (transport : Transport τ ν)
    (request : Request)
    (start : τ)
    (own : υ)
    (rest : ρ) :
    ∃ longer,
      Stack.ofLayers (layer.between before after) = .ok longer ∧
        let download :=
          (watched stack context observer stopwatch).download transport.onFirst request
        let longerDownload :=
          (watched longer context observer longerStopwatch).download
            transport.onFirst.onFirst request
        ∃ run longerRun,
          (Job.fresh download).Settles (start, rest) run ∧
            (Job.fresh longerDownload).Settles ((start, own), rest) longerRun ∧
            longerRun.result = run.result ∧
            longerRun.state.1.1 = run.state.1 ∧
            let places := layer.placesBetween before after
            leaveOutLayer places (outline longerRun.signals) = outline run.signals ∧
              ∀ phase, ∀ number ∈ places phase,
                ∀ middleware ∈ (hookCallsIn phase longerRun.signals)[number]?,
                  middleware = layer.name := by
  obtain ⟨longer, longerAccepted⟩ := Stack.exists_ofLayers_between accepted named
  refine ⟨longer, longerAccepted, ?_⟩
  have extend := Stack.Extends.of_between accepted longerAccepted
  have extended := extends_download neutral extend context transport request (start, own)
  have plain :=
    (observedAs_download stack context observer stopwatch transport request).settle start rest
  have observed :=
    (observedAs_download longer context observer longerStopwatch transport.onFirst request).settle
      (start, own) rest
  intro download longerDownload
  refine
    ⟨_, _, Job.settles_fresh download _, Job.settles_fresh longerDownload _, ?result, ?left,
      ?shown, ?own⟩
  case result =>
    exact observed.result.symm.trans (extended.result.trans plain.result)
  case left =>
    rw [observed.left, plain.left]
    exact extended.left
  case shown =>
    rw [observed.shown, plain.shown]
    exact extended.shown.omits
  case own =>
    intro phase number atPlace middleware
    rw [← hookCallsIn_outline, observed.shown]
    exact extended.shown.own phase number atPlace middleware

/--
A layer between a counting layer and one that resolves failures. It is called for
the request and for the response, and not for the failure of the transport, since
the exception hook of the other layer comes first.
-/
theorem download_unchanged_by_neutral_tallying :
    let places := Sample.tallying.placesBetween [Sample.counting] [Sample.rescuing]
    let longer : Stack (Nat × Nat) Unit :=
      ((Stack.empty.add Sample.counting.onFirst).add Sample.tallying).add Sample.rescuing.onFirst
    let sink : Sink Nat Unit := ⟨"count", fun _ _ count => ⟨[], count + 1, none⟩⟩
    let download :=
      (watched Sample.stack .default (.sink sink) fun _ _ => .zero).download
        Sample.failing.onFirst (.get "/")
    let longerDownload :=
      (watched longer .default (.sink sink) fun _ _ => .zero).download
        Sample.failing.onFirst.onFirst (.get "/")
    let run := ((Job.fresh download).pollTimes (0, 0) 4).summary
    let longerRun := ((Job.fresh longerDownload).pollTimes ((0, 0), 0) 6).summary
    Sample.tallying.IsNeutral ∧
      Stack.ofLayers (Sample.tallying.between [Sample.counting] [Sample.rescuing]) = .ok longer ∧
      run.state = (1, 6) ∧
      longerRun.state = ((1, 2), 8) ∧
      longerRun.result = run.result ∧
      leaveOutLayer places (outline longerRun.signals) = outline run.signals := by
  intro places longer sink download longerDownload run longerRun
  have longerAccepted :
      Stack.ofLayers (Sample.tallying.between [Sample.counting] [Sample.rescuing]) = .ok longer :=
    rfl
  obtain ⟨other, accepted, settled, longerSettled, settles, longerSettles, sameResult, _, shown,
      _⟩ :=
    download_unchanged_by_neutral [Sample.counting] [Sample.rescuing] Sample.tallying
      Sample.isNeutral_tallying (by decide) Sample.stack rfl .default (.sink sink)
      (fun _ _ => .zero) (fun _ _ => .zero) Sample.failing (.get "/") 0 0 0
  obtain rfl : other = longer := Except.ok.inj (accepted.symm.trans longerAccepted)
  have ended : ((Job.fresh download).pollTimes (0, 0) 4).result.hasEnded := by
    decide +kernel
  have longerEnded : ((Job.fresh longerDownload).pollTimes ((0, 0), 0) 6).result.hasEnded := by
    decide +kernel
  have sameRun : run = settled := settles.summary_eq ended
  have sameLongerRun : longerRun = longerSettled := longerSettles.summary_eq longerEnded
  rw [← sameRun, ← sameLongerRun] at sameResult shown
  refine ⟨Sample.isNeutral_tallying, longerAccepted, ?_, ?_, sameResult, shown⟩
  · decide +kernel
  · decide +kernel

end Downloader

end Middleware
