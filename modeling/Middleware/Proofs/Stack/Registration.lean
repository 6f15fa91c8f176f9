import Middleware.Failure.Message
import Middleware.Proofs.Stack

namespace Middleware

/-!
# Registration of layers

A layer is made by naming it and giving it hooks one after another, and a stack is
made of an ordered list of layers. What the stack holds is read off the list: for
each phase the hook that each layer was given last for it, under the name of the
layer, in the order in which the hooks of the phase run.
-/

variable {σ ν : Type}

namespace Phase

/-- What the hooks of a phase receive. -/
def Input : Phase → Type
  | .request => Request
  | .response => Exchange
  | .exception => Incident

/-- Elements in the order of their layers, put into the order in which the hooks of a phase run. -/
def arrange
    {α : Type}
    (phase : Phase)
    (elements : List α) :
    List α :=
  match phase with
  | .request => elements
  | .response | .exception => elements.reverse

/-- Elements of outer layers and of inner layers, in the order in which the hooks of a phase run. -/
def enclose
    {α : Type}
    (phase : Phase)
    (outer inner : List α) :
    List α :=
  match phase with
  | .request => outer ++ inner
  | .response | .exception => inner ++ outer

theorem map_arrange
    {α β : Type}
    (phase : Phase)
    (view : α → β)
    (elements : List α) :
    (phase.arrange elements).map view = phase.arrange (elements.map view) := by
  cases phase <;> simp [arrange]

theorem arrange_append
    {α : Type}
    (phase : Phase)
    (outer inner : List α) :
    phase.arrange (outer ++ inner) =
      phase.enclose (phase.arrange outer) (phase.arrange inner) := by
  cases phase <;> simp [arrange, enclose]

end Phase

/-- The hook of a layer for a phase, if it has one. -/
def Layer.hook?
    (layer : Layer σ ν) :
    (phase : Phase) →
    Option (Hook σ ν phase.Input)
  | .request => layer.request
  | .response => layer.response
  | .exception => layer.exception

/-- The hooks of a stack for a phase, in the order in which they run. -/
def Stack.entries
    (stack : Stack σ ν) :
    (phase : Phase) →
    List (Entry σ ν phase.Input)
  | .request => stack.request
  | .response => stack.response
  | .exception => stack.exception

/-- The hooks of layers for a phase, in the order of the layers. -/
def Layer.entriesOf
    (phase : Phase)
    (layers : List (Layer σ ν)) :
    List (Entry σ ν phase.Input) :=
  layers.filterMap fun layer => (layer.hook? phase).map (Entry.mk layer.name)

/-- A hook that a layer is given for a phase. -/
structure Addition (σ ν : Type) where
  phase : Phase
  hook : Hook σ ν phase.Input

/-- The hook that is given, if it is one for a phase. -/
def Addition.hook? :
    Addition σ ν →
    (phase : Phase) →
    Option (Hook σ ν phase.Input)
  | ⟨.request, hook⟩, .request => some hook
  | ⟨.response, hook⟩, .response => some hook
  | ⟨.exception, hook⟩, .exception => some hook
  | _, _ => none

/-- Give a layer a hook for a phase. -/
def Layer.give
    (layer : Layer σ ν) :
    Addition σ ν →
    Layer σ ν
  | ⟨.request, hook⟩ => layer.withRequestHook hook
  | ⟨.response, hook⟩ => layer.withResponseHook hook
  | ⟨.exception, hook⟩ => layer.withExceptionHook hook

/-- How a layer is made: its name, and the hooks that it is given one after another. -/
structure Blueprint (σ ν : Type) where
  name : String
  additions : List (Addition σ ν)

namespace Blueprint

/-- The layer that is made. -/
def layer (blueprint : Blueprint σ ν) : Layer σ ν :=
  blueprint.additions.foldl Layer.give (.named blueprint.name)

/-- The hook that is given last for a phase, if one is given. -/
def hook?
    (blueprint : Blueprint σ ν)
    (phase : Phase) :
    Option (Hook σ ν phase.Input) :=
  (blueprint.additions.filterMap fun addition => addition.hook? phase).getLast?

/-- Whether a hook is given for a phase. -/
def serves
    (blueprint : Blueprint σ ν)
    (phase : Phase) :
    Bool :=
  blueprint.additions.any fun addition => addition.phase = phase

/-- A layer has no name if its name is empty or all white space. -/
def IsUnnamed (blueprint : Blueprint σ ν) : Prop :=
  ∀ character ∈ blueprint.name.toList, Text.isWhiteSpace character = true

end Blueprint

/-- The hooks that blueprints give for a phase, in the order in which they run. -/
def Blueprint.entriesOf
    (phase : Phase)
    (blueprints : List (Blueprint σ ν)) :
    List (Entry σ ν phase.Input) :=
  phase.arrange
    (blueprints.filterMap fun blueprint =>
      (blueprint.hook? phase).map (Entry.mk blueprint.name))

namespace Layer

/-- A hook takes the place of the one that was given before for its phase, and of no other. -/
theorem hook?_give
    (layer : Layer σ ν)
    (addition : Addition σ ν)
    (phase : Phase) :
    (layer.give addition).hook? phase = (addition.hook? phase).or (layer.hook? phase) := by
  rcases addition with ⟨given, hook⟩
  cases given <;> cases phase <;> rfl

theorem name_give
    (layer : Layer σ ν)
    (addition : Addition σ ν) :
    (layer.give addition).name = layer.name := by
  rcases addition with ⟨given, hook⟩
  cases given <;> rfl

/-- Of the hooks that are given for a phase, the last one stays. -/
theorem hook?_foldl_give
    (layer : Layer σ ν)
    (additions : List (Addition σ ν))
    (phase : Phase) :
    (additions.foldl give layer).hook? phase =
      ((additions.filterMap fun addition => addition.hook? phase).getLast?).or
        (layer.hook? phase) := by
  induction additions generalizing layer with
  | nil =>
      rfl
  | cons addition rest inductionHypothesis =>
      rw [List.foldl_cons, inductionHypothesis, hook?_give]
      cases given : addition.hook? phase with
      | none => simp [given]
      | some hook =>
          cases later : (rest.filterMap fun addition => addition.hook? phase).getLast? <;>
            simp [given, later, List.getLast?_cons]

theorem name_foldl_give
    (layer : Layer σ ν)
    (additions : List (Addition σ ν)) :
    (additions.foldl give layer).name = layer.name := by
  induction additions generalizing layer with
  | nil => rfl
  | cons addition rest inductionHypothesis =>
      rw [List.foldl_cons, inductionHypothesis, name_give]

end Layer

namespace Blueprint

theorem hook?_layer
    (blueprint : Blueprint σ ν)
    (phase : Phase) :
    blueprint.layer.hook? phase = blueprint.hook? phase := by
  have withoutHooks : (Layer.named blueprint.name : Layer σ ν).hook? phase = none := by
    cases phase <;> rfl
  rw [layer, Layer.hook?_foldl_give, withoutHooks, Option.or_none]
  rfl

theorem name_layer (blueprint : Blueprint σ ν) :
    blueprint.layer.name = blueprint.name :=
  Layer.name_foldl_give _ _

/-- A layer has a hook for a phase exactly if it is given one. -/
theorem isSome_hook?
    (blueprint : Blueprint σ ν)
    (phase : Phase) :
    (blueprint.hook? phase).isSome = blueprint.serves phase := by
  have givesNone :
      ∀ addition : Addition σ ν, addition.hook? phase = none ↔ addition.phase ≠ phase := by
    rintro ⟨given, hook⟩
    cases given <;> cases phase <;> simp [Addition.hook?]
  rw [Bool.eq_iff_iff, hook?, List.getLast?_isSome, serves, List.any_eq_true]
  simp [List.filterMap_eq_nil_iff, givesNone]

theorem isBlank_iff_isUnnamed (blueprint : Blueprint σ ν) :
    Text.isBlank blueprint.name = true ↔ blueprint.IsUnnamed := by
  simp [Text.isBlank, IsUnnamed]

end Blueprint

namespace Stack

/-- The hooks of a stack for a phase are those of its layers. -/
theorem entries_of_ofLayers
    {layers : List (Layer σ ν)}
    {stack : Stack σ ν}
    (accepted : ofLayers layers = .ok stack)
    (phase : Phase) :
    stack.entries phase = phase.arrange (Layer.entriesOf phase layers) := by
  obtain ⟨sameRequest, sameResponse, sameException⟩ := eq_of_ofLayers_eq_ok accepted
  cases phase with
  | request => exact sameRequest
  | response => exact sameResponse
  | exception => exact sameException

/-- The hooks of layers that are made from blueprints are those that are given last. -/
theorem entriesOf_layers
    (phase : Phase)
    (blueprints : List (Blueprint σ ν)) :
    phase.arrange (Layer.entriesOf phase (blueprints.map Blueprint.layer)) =
      Blueprint.entriesOf phase blueprints := by
  simp only [Layer.entriesOf, Blueprint.entriesOf, List.filterMap_map, Function.comp_def,
    Blueprint.hook?_layer, Blueprint.name_layer]

/-- Stacks are the same if they hold the same hooks for each phase. -/
theorem eq_of_entries_eq
    {stack other : Stack σ ν}
    (sameEntries : ∀ phase, stack.entries phase = other.entries phase) :
    stack = other := by
  rcases stack with ⟨request, response, exception⟩
  rcases other with ⟨otherRequest, otherResponse, otherException⟩
  obtain rfl : request = otherRequest := sameEntries .request
  obtain rfl : response = otherResponse := sameEntries .response
  obtain rfl : exception = otherException := sameEntries .exception
  rfl

theorem hookNames_eq_map_entries
    (stack : Stack σ ν)
    (phase : Phase) :
    stack.hookNames phase = (stack.entries phase).map fun entry => entry.middleware := by
  cases phase <;> rfl

theorem isContextual?_eq_find?_entries
    (stack : Stack σ ν)
    (phase : Phase)
    (name : String) :
    stack.isContextual? phase name = isContextualIn? (stack.entries phase) name := by
  cases phase <;> rfl

/-- A stack answers for a middleware by the first hook of its name. -/
theorem isContextual?_eq_some_iff
    {stack : Stack σ ν}
    {phase : Phase}
    {name : String}
    {wants : Bool} :
    stack.isContextual? phase name = some wants ↔
      ∃ before entry after,
        stack.entries phase = before ++ entry :: after ∧
          entry.middleware = name ∧
          entry.hook.isContextual = wants ∧
          ∀ earlier ∈ before, earlier.middleware ≠ name := by
  rw [isContextual?_eq_find?_entries, isContextualIn?, Option.map_eq_some_iff]
  constructor
  · rintro ⟨entry, found, wanted⟩
    obtain ⟨sameName, before, after, shape, others⟩ := List.find?_eq_some_iff_append.mp found
    refine ⟨before, entry, after, shape, by simpa using sameName, wanted, ?_⟩
    intro earlier member
    simpa using others earlier member
  · rintro ⟨before, entry, after, shape, sameName, wanted, others⟩
    refine ⟨entry, List.find?_eq_some_iff_append.mpr ⟨by simpa using sameName, ?_⟩, wanted⟩
    refine ⟨before, after, shape, ?_⟩
    intro earlier member
    simpa using others earlier member

/-- A stack has no answer for a middleware exactly if it has no hook of its name. -/
theorem isContextual?_eq_none_iff
    {stack : Stack σ ν}
    {phase : Phase}
    {name : String} :
    stack.isContextual? phase name = none ↔ name ∉ stack.hookNames phase := by
  rw [isContextual?_eq_find?_entries, isContextualIn?, Option.map_eq_none_iff,
    List.find?_eq_none, hookNames_eq_map_entries]
  simp

theorem isEmpty_iff_hookNames
    (stack : Stack σ ν) :
    stack.isEmpty = true ↔ ∀ phase, stack.hookNames phase = [] := by
  have ofPhases :
      (∀ phase, stack.hookNames phase = []) ↔
        stack.request = [] ∧ stack.response = [] ∧ stack.exception = [] := by
    constructor
    · intro noNames
      exact
        ⟨List.map_eq_nil_iff.mp (noNames .request), List.map_eq_nil_iff.mp (noNames .response),
          List.map_eq_nil_iff.mp (noNames .exception)⟩
    · rintro ⟨noRequest, noResponse, noException⟩ phase
      cases phase <;> simp [hookNames, noRequest, noResponse, noException]
  rw [ofPhases]
  simp [isEmpty, and_assoc]

/-- The stack of the layers of one stack around those of another. -/
def around (outer inner : Stack σ ν) : Stack σ ν where
  request := Phase.enclose .request outer.request inner.request
  response := Phase.enclose .response outer.response inner.response
  exception := Phase.enclose .exception outer.exception inner.exception

theorem entries_around
    (outer inner : Stack σ ν)
    (phase : Phase) :
    (outer.around inner).entries phase =
      phase.enclose (outer.entries phase) (inner.entries phase) := by
  cases phase <;> rfl

/-- Layers and further layers make up the stack of the first around that of the others. -/
theorem ofLayers_append_eq_ok_iff
    {earlier later : List (Layer σ ν)}
    {stack : Stack σ ν} :
    ofLayers (earlier ++ later) = .ok stack ↔
      ∃ outer inner,
        ofLayers earlier = .ok outer ∧ ofLayers later = .ok inner ∧ stack = outer.around inner := by
  have sameStack :
      ∀ {whole outer inner : Stack σ ν},
        ofLayers (earlier ++ later) = .ok whole →
          ofLayers earlier = .ok outer →
            ofLayers later = .ok inner →
              whole = outer.around inner := by
    intro whole outer inner accepted acceptedEarlier acceptedLater
    refine eq_of_entries_eq fun phase => ?_
    rw [entries_around, entries_of_ofLayers accepted, entries_of_ofLayers acceptedEarlier,
      entries_of_ofLayers acceptedLater, ← Phase.arrange_append]
    simp only [Layer.entriesOf, List.filterMap_append]
  constructor
  · intro accepted
    have named := exists_ofLayers_eq_ok_iff.mp ⟨stack, accepted⟩
    obtain ⟨namedEarlier, namedLater⟩ := List.forall_mem_append.mp named
    obtain ⟨outer, acceptedEarlier⟩ := exists_ofLayers_eq_ok_iff.mpr namedEarlier
    obtain ⟨inner, acceptedLater⟩ := exists_ofLayers_eq_ok_iff.mpr namedLater
    exact
      ⟨outer, inner, acceptedEarlier, acceptedLater,
        sameStack accepted acceptedEarlier acceptedLater⟩
  · rintro ⟨outer, inner, acceptedEarlier, acceptedLater, rfl⟩
    have namedEarlier := exists_ofLayers_eq_ok_iff.mp ⟨outer, acceptedEarlier⟩
    have namedLater := exists_ofLayers_eq_ok_iff.mp ⟨inner, acceptedLater⟩
    obtain ⟨whole, accepted⟩ :=
      exists_ofLayers_eq_ok_iff.mpr (List.forall_mem_append.mpr ⟨namedEarlier, namedLater⟩)
    rw [accepted, sameStack accepted acceptedEarlier acceptedLater]

end Stack

namespace Blueprint

/-- The least place in a list at which a layer has no name. -/
structure IsFirstUnnamed
    (blueprints : List (Blueprint σ ν))
    (index : Nat) :
    Prop where
  unnamed : ∃ blueprint, blueprints[index]? = some blueprint ∧ blueprint.IsUnnamed
  least :
    ∀ (other : Nat) (blueprint : Blueprint σ ν),
      blueprints[other]? = some blueprint → blueprint.IsUnnamed → index ≤ other

/-- The first layer that a stack refuses is the first without a name. -/
theorem findIdx?_isBlank_eq_some_iff
    {blueprints : List (Blueprint σ ν)}
    {index : Nat} :
    (blueprints.map layer).findIdx? (fun layer => Text.isBlank layer.name) = some index ↔
      IsFirstUnnamed blueprints index := by
  have blank :
      ∀ blueprint : Blueprint σ ν,
        Text.isBlank blueprint.layer.name = true ↔ blueprint.IsUnnamed := by
    intro blueprint
    rw [name_layer, isBlank_iff_isUnnamed]
  rw [List.findIdx?_map, List.findIdx?_eq_some_iff_getElem]
  constructor
  · rintro ⟨inBounds, isBlank, noneBefore⟩
    refine ⟨⟨_, List.getElem?_eq_getElem inBounds, (blank _).mp isBlank⟩, ?_⟩
    intro other blueprint found unnamed
    obtain ⟨_, rfl⟩ := List.getElem?_eq_some_iff.mp found
    exact Nat.not_lt.mp fun before => noneBefore other before ((blank _).mpr unnamed)
  · rintro ⟨⟨blueprint, found, unnamed⟩, least⟩
    obtain ⟨inBounds, rfl⟩ := List.getElem?_eq_some_iff.mp found
    refine ⟨inBounds, (blank _).mpr unnamed, ?_⟩
    intro other before isBlank
    have notBefore := least other _ (List.getElem?_eq_getElem (by omega)) ((blank _).mp isBlank)
    omega

/-- The names of the layers that are given a hook for a phase, in the order in which these run. -/
theorem map_middleware_entriesOf
    (phase : Phase)
    (blueprints : List (Blueprint σ ν)) :
    ((entriesOf phase blueprints).map fun entry => entry.middleware) =
      phase.arrange
        ((blueprints.filter fun blueprint => blueprint.serves phase).map fun blueprint =>
          blueprint.name) := by
  rw [entriesOf, Phase.map_arrange]
  congr 1
  induction blueprints with
  | nil =>
      rfl
  | cons blueprint rest inductionHypothesis =>
      have hasHook := blueprint.isSome_hook? phase
      cases given : blueprint.hook? phase <;> rw [given] at hasHook <;>
        simp [given, ← hasHook, inductionHypothesis]

end Blueprint

namespace Stack

/--
What a stack holds of layers that are made from blueprints: their hooks for each
phase, as they are given last, and the answers about them.
-/
structure Registers
    (stack : Stack σ ν)
    (blueprints : List (Blueprint σ ν)) :
    Prop where
  entries : ∀ phase, stack.entries phase = Blueprint.entriesOf phase blueprints
  names :
    ∀ phase,
      stack.hookNames phase =
        phase.arrange
          ((blueprints.filter fun blueprint => blueprint.serves phase).map fun blueprint =>
            blueprint.name)
  wants :
    ∀ (phase : Phase) (name : String) (wants : Bool),
      stack.isContextual? phase name = some wants ↔
        ∃ (before : List (Entry σ ν phase.Input)) (entry : Entry σ ν phase.Input)
          (after : List (Entry σ ν phase.Input)),
          stack.entries phase = before ++ entry :: after ∧
            entry.middleware = name ∧
            entry.hook.isContextual = wants ∧
            ∀ earlier ∈ before, earlier.middleware ≠ name
  unanswered :
    ∀ (phase : Phase) (name : String),
      stack.isContextual? phase name = none ↔ name ∉ stack.hookNames phase
  isEmpty : stack.isEmpty = true ↔ ∀ phase, stack.hookNames phase = []

theorem registers_of_ofLayers
    {blueprints : List (Blueprint σ ν)}
    {stack : Stack σ ν}
    (accepted : ofLayers (blueprints.map Blueprint.layer) = .ok stack) :
    stack.Registers blueprints := by
  have sameEntries :
      ∀ phase, stack.entries phase = Blueprint.entriesOf phase blueprints := by
    intro phase
    rw [entries_of_ofLayers accepted, entriesOf_layers]
  refine
    ⟨sameEntries, ?_, fun _ _ _ => isContextual?_eq_some_iff,
      fun _ _ => isContextual?_eq_none_iff, stack.isEmpty_iff_hookNames⟩
  intro phase
  rw [hookNames_eq_map_entries, sameEntries, Blueprint.map_middleware_entriesOf]

/-- Layers are refused exactly if one has no name, and for the first of those that have none. -/
theorem ofLayers_eq_error_iff
    {blueprints : List (Blueprint σ ν)}
    {failure : Failure} :
    ofLayers (blueprints.map Blueprint.layer) = .error failure ↔
      ∃ index,
        Blueprint.IsFirstUnnamed blueprints index ∧
          failure = .configuration (.unnamedLayer index) := by
  constructor
  · intro refused
    cases first :
        (blueprints.map Blueprint.layer).findIdx? fun layer => Text.isBlank layer.name with
    | none =>
        have named := List.findIdx?_eq_none_iff.mp first
        obtain ⟨stack, accepted⟩ := exists_ofLayers_eq_ok_iff.mpr named
        cases accepted.symm.trans refused
    | some index =>
        have sameFailure := (ofLayers_eq_error_of_findIdx? first).symm.trans refused
        exact
          ⟨index, Blueprint.findIdx?_isBlank_eq_some_iff.mp first,
            (Except.error.inj sameFailure).symm⟩
  · rintro ⟨index, first, rfl⟩
    exact ofLayers_eq_error_of_findIdx? (Blueprint.findIdx?_isBlank_eq_some_iff.mpr first)

/--
A list of layers is refused exactly if one of them has no name, and then for the
first of these, whether it has hooks or not. Otherwise the stack holds what the
layers were given, and layers that come later lie inside of those before.
-/
theorem ofLayers_registers (blueprints : List (Blueprint σ ν)) :
    (∀ failure,
        ofLayers (blueprints.map Blueprint.layer) = .error failure ↔
          ∃ index,
            Blueprint.IsFirstUnnamed blueprints index ∧
              failure = .configuration (.unnamedLayer index) ∧
              failure.message =
                "middleware configuration: " ++
                  ("interceptor at position " ++ toString index ++ " has no name")) ∧
      ((∃ stack, ofLayers (blueprints.map Blueprint.layer) = .ok stack) ↔
        ∀ blueprint ∈ blueprints, ¬ blueprint.IsUnnamed) ∧
      (∀ stack,
        ofLayers (blueprints.map Blueprint.layer) = .ok stack → stack.Registers blueprints) ∧
      ∀ (later : List (Blueprint σ ν)) (stack : Stack σ ν),
        ofLayers ((blueprints ++ later).map Blueprint.layer) = .ok stack ↔
          ∃ outer inner,
            ofLayers (blueprints.map Blueprint.layer) = .ok outer ∧
              ofLayers (later.map Blueprint.layer) = .ok inner ∧
              stack.request = outer.request ++ inner.request ∧
              stack.response = inner.response ++ outer.response ∧
              stack.exception = inner.exception ++ outer.exception := by
  refine ⟨?_, ?_, fun stack => registers_of_ofLayers, ?_⟩
  · intro failure
    rw [ofLayers_eq_error_iff]
    constructor
    · rintro ⟨index, first, rfl⟩
      exact ⟨index, first, rfl, rfl⟩
    · rintro ⟨index, first, same, _⟩
      exact ⟨index, first, same⟩
  · rw [exists_ofLayers_eq_ok_iff, List.forall_mem_map]
    refine forall₂_congr fun blueprint _ => ?_
    rw [Blueprint.name_layer, ← Blueprint.isBlank_iff_isUnnamed, Bool.not_eq_true]
  · intro later stack
    rw [List.map_append, ofLayers_append_eq_ok_iff]
    refine exists₂_congr fun outer inner => and_congr_right fun _ => and_congr_right fun _ => ?_
    constructor
    · rintro rfl
      exact ⟨rfl, rfl, rfl⟩
    · rintro ⟨sameRequest, sameResponse, sameException⟩
      refine eq_of_entries_eq fun phase => ?_
      cases phase with
      | request => exact sameRequest
      | response => exact sameResponse
      | exception => exact sameException

end Stack

namespace Sample

/-- A response hook that passes the response on. -/
def passingOn : Hook Unit Unit Exchange :=
  .plain fun exchange => return .ok (.response exchange.2)

/-- A response hook that wants the context, and passes the response on. -/
def passingOnInContext : Hook Unit Unit Exchange :=
  .contextual fun exchange _ => return .ok (.response exchange.2)

/-- An exception hook that resolves nothing. -/
def shrugging : Hook Unit Unit Incident :=
  .plain fun _ => return .ok .nothing

/-- Three layers, two of one name; the first one is given another response hook later on. -/
def blueprints : List (Blueprint Unit Unit) :=
  [⟨"Retry", [⟨.response, passingOn⟩, ⟨.exception, shrugging⟩, ⟨.response, passingOnInContext⟩]⟩,
    ⟨" Cache\u0085", [⟨.exception, shrugging⟩]⟩,
    ⟨"Retry", [⟨.response, passingOn⟩]⟩]

/-- A layer without hooks, whose name is white space. -/
def nameless : Blueprint Unit Unit :=
  ⟨"\t\u3000", []⟩

end Sample

/--
Of two layers of one name a stack answers for the inner one, where response hooks are
concerned. With a layer behind them that has no name, all layers are refused.
-/
theorem Stack.ofLayers_registers_namesakes :
    ∃ stack,
      ofLayers (Sample.blueprints.map Blueprint.layer) = .ok stack ∧
        stack.Registers Sample.blueprints ∧
        stack.hookNames .response = ["Retry", "Retry"] ∧
        stack.isContextual? .response "Retry" = some false ∧
        (stack.entries .response).map (fun entry => entry.hook.isContextual) = [false, true] ∧
        stack.hookNames .exception = [" Cache\u0085", "Retry"] ∧
        ofLayers ((Sample.blueprints ++ [Sample.nameless]).map Blueprint.layer) =
          .error (.configuration (.unnamedLayer 3)) := by
  have accepted := (ofLayers_registers Sample.blueprints).2.2.1
  exact ⟨_, rfl, accepted _ rfl, rfl, rfl, rfl, rfl, rfl⟩

end Middleware
