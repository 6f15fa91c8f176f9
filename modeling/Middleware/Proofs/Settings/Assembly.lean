import Middleware.Proofs.Settings.Order
import Middleware.Proofs.Stack
import Middleware.Settings.Assembly

namespace Middleware

/-!
# What an assembly does

An assembly calls factories in the order of the active names until a name has no
factory, a factory panics, or there are no more names. What it logs and what it
comes to are read off from these calls.
-/

variable {θ σ ν : Type}

/-- The layer that the call of a factory has produced, if it has. -/
def Production.layer? : Production σ ν → Option (Layer σ ν)
  | .layer produced => some produced
  | .declined => none
  | .panicked _ => none

/-- The line for the call of a factory of a name, if its layer has declined. -/
def Production.line?
    (name : String) :
    Production σ ν →
    Option LogLine
  | .declined => some (skippedLine name)
  | .layer _ => none
  | .panicked _ => none

/-- Calls of factories one after another, each with the name and with what it has come to. -/
abbrev FactoryCalls (σ ν : Type) : Type :=
  List (String × Production σ ν)

namespace FactoryCalls

variable (calls : FactoryCalls σ ν)

/-- The names under which factories have been called. -/
def names : List String :=
  calls.map (·.1)

/-- The layers that have been produced, each with the name of its factory. -/
def accepted : List (String × Layer σ ν) :=
  calls.filterMap fun call => call.2.layer?.map (call.1, ·)

/-- The lines about layers that have declined. -/
def skippedLines : List LogLine :=
  calls.filterMap fun call => call.2.line? call.1

@[simp] theorem names_nil :
    names ([] : FactoryCalls σ ν) = [] :=
  rfl

@[simp] theorem accepted_nil :
    accepted ([] : FactoryCalls σ ν) = [] :=
  rfl

@[simp] theorem skippedLines_nil :
    skippedLines ([] : FactoryCalls σ ν) = [] :=
  rfl

variable (name : String)

@[simp] theorem names_cons (production : Production σ ν) :
    names ((name, production) :: calls) = name :: calls.names :=
  rfl

@[simp] theorem accepted_layer (layer : Layer σ ν) :
    accepted ((name, .layer layer) :: calls) = (name, layer) :: calls.accepted :=
  rfl

@[simp] theorem accepted_declined :
    accepted ((name, .declined) :: calls) = calls.accepted :=
  rfl

@[simp] theorem skippedLines_layer (layer : Layer σ ν) :
    skippedLines ((name, .layer layer) :: calls) = calls.skippedLines :=
  rfl

@[simp] theorem skippedLines_declined :
    skippedLines ((name, .declined) :: calls) = skippedLine name :: calls.skippedLines :=
  rfl

end FactoryCalls

/--
Factories are called one after another, each under a name that has one. None of
them panics, and each finds the state that the one before it has left.
-/
inductive CallsInOrder (factory? : String → Option (Factory θ σ ν)) :
    θ →
    FactoryCalls σ ν →
    θ →
    Prop where
  | none (state : θ) :
      CallsInOrder factory? state [] state
  | produced
      {name : String}
      {factory : Factory θ σ ν}
      (found : factory? name = some factory)
      {state between after : θ}
      {layer : Layer σ ν}
      (called : factory state = (.layer layer, between))
      {later : FactoryCalls σ ν}
      (follow : CallsInOrder factory? between later after) :
      CallsInOrder factory? state ((name, .layer layer) :: later) after
  | declined
      {name : String}
      {factory : Factory θ σ ν}
      (found : factory? name = some factory)
      {state between after : θ}
      (called : factory state = (.declined, between))
      {later : FactoryCalls σ ν}
      (follow : CallsInOrder factory? between later after) :
      CallsInOrder factory? state ((name, .declined) :: later) after

/-- How a walk over names goes, whose layers come after layers accepted earlier. -/
inductive Catalog.Walks
    (catalog : Catalog θ σ ν)
    (earlier : List (String × Layer σ ν))
    (state : θ) :
    List String →
    Assembly θ σ ν →
    Prop where
  | through
      {calls : FactoryCalls σ ν}
      {after : θ}
      (called : CallsInOrder catalog.get? state calls after) :
      Walks catalog earlier state calls.names
        ⟨calls.names,
          calls.skippedLines ++ [enabledLine ((earlier ++ calls.accepted).map (·.1))],
          after,
          .returned (Stack.ofLayers ((earlier ++ calls.accepted).map (·.2)))⟩
  | unknown
      {calls : FactoryCalls σ ν}
      {after : θ}
      (called : CallsInOrder catalog.get? state calls after)
      {name : String}
      (absent : catalog.get? name = none)
      (rest : List String) :
      Walks catalog earlier state (calls.names ++ name :: rest)
        ⟨calls.names,
          calls.skippedLines,
          after,
          .returned (.error (.configuration (.unknownMiddleware name)))⟩
  | panicked
      {calls : FactoryCalls σ ν}
      {before after : θ}
      (called : CallsInOrder catalog.get? state calls before)
      {name : String}
      {factory : Factory θ σ ν}
      (found : catalog.get? name = some factory)
      {message : String}
      (panics : factory before = (.panicked message, after))
      (rest : List String) :
      Walks catalog earlier state (calls.names ++ name :: rest)
        ⟨calls.names ++ [name], calls.skippedLines, after, .panicked message⟩

namespace Catalog

variable {catalog : Catalog θ σ ν}
variable {earlier : List (String × Layer σ ν)}
variable {name : String}
variable {factory : Factory θ σ ν}
variable {state between : θ}
variable {names : List String}
variable {assembly : Assembly θ σ ν}

/-- A layer that is produced comes before those of the rest of a walk. -/
theorem Walks.produced
    (found : catalog.get? name = some factory)
    {layer : Layer σ ν}
    (called : factory state = (.layer layer, between))
    (follow : catalog.Walks (earlier ++ [(name, layer)]) between names assembly) :
    catalog.Walks earlier state (name :: names)
      { assembly with consulted := name :: assembly.consulted } := by
  cases follow with
  | through later =>
      have walks : catalog.Walks earlier state _ _ := .through (.produced found called later)
      simpa using walks
  | unknown later absent rest =>
      exact .unknown (.produced found called later) absent rest
  | panicked later foundThen panics rest =>
      exact .panicked (.produced found called later) foundThen panics rest

/-- A layer that declines shows in a line before the rest of a walk. -/
theorem Walks.declined
    (found : catalog.get? name = some factory)
    (called : factory state = (.declined, between))
    (follow : catalog.Walks earlier between names assembly) :
    catalog.Walks earlier state (name :: names)
      { assembly with
        consulted := name :: assembly.consulted
        lines := skippedLine name :: assembly.lines } := by
  cases follow with
  | through later =>
      have walks : catalog.Walks earlier state _ _ := .through (.declined found called later)
      simpa using walks
  | unknown later absent rest =>
      exact .unknown (.declined found called later) absent rest
  | panicked later foundThen panics rest =>
      exact .panicked (.declined found called later) foundThen panics rest

/-- Every assembly is a walk over its names. -/
theorem walks_assemble
    (catalog : Catalog θ σ ν)
    (earlier : List (String × Layer σ ν))
    (state : θ)
    (names : List String) :
    catalog.Walks earlier state names (catalog.assemble earlier state names) := by
  induction names generalizing earlier state with
  | nil =>
      have walks : catalog.Walks earlier state _ _ := .through (.none state)
      rw [FactoryCalls.accepted_nil, List.append_nil] at walks
      exact walks
  | cons name rest inductionHypothesis =>
      cases found : catalog.get? name with
      | none =>
          simp only [assemble, found]
          exact .unknown (.none state) found rest
      | some factory =>
          rcases called : factory state with ⟨production, between⟩
          cases production with
          | layer layer =>
              simp only [assemble, found, called]
              exact .produced found called (inductionHypothesis _ between)
          | declined =>
              simp only [assemble, found, called]
              exact .declined found called (inductionHypothesis earlier between)
          | panicked message =>
              simp only [assemble, found, called]
              exact .panicked (.none state) found called rest

/-- Factories that are called in order are those that a walk calls. -/
theorem assemble_of_callsInOrder
    {calls : FactoryCalls σ ν}
    {after : θ}
    (called : CallsInOrder catalog.get? state calls after)
    (earlier : List (String × Layer σ ν))
    (names : List String) :
    let later := catalog.assemble (earlier ++ calls.accepted) after names
    catalog.assemble earlier state (calls.names ++ names) =
      { later with
        consulted := calls.names ++ later.consulted
        lines := calls.skippedLines ++ later.lines } := by
  induction called generalizing earlier with
  | none state => simp
  | produced found called follow inductionHypothesis =>
      simp [assemble, found, called, inductionHypothesis]
  | declined found called follow inductionHypothesis =>
      simp [assemble, found, called, inductionHypothesis]

/-- An assembly is the only one that goes as a walk over its names does. -/
theorem Walks.assemble_eq (walks : catalog.Walks earlier state names assembly) :
    catalog.assemble earlier state names = assembly := by
  cases walks with
  | through called =>
      have assembled := assemble_of_callsInOrder called earlier []
      rw [List.append_nil] at assembled
      simp [assembled, assemble]
  | unknown called absent rest =>
      rw [assemble_of_callsInOrder called]
      simp [assemble, absent]
  | panicked called found panics rest =>
      rw [assemble_of_callsInOrder called]
      simp [assemble, found, panics]

end Catalog

/-- The factory in force for a name: the one that is registered last under it. -/
def inForce?
    (registrations : List (String × Factory θ σ ν))
    (name : String) :
    Option (Factory θ σ ν) :=
  (registrations.reverse.find? fun registration => registration.1 = name).map (·.2)

/-- The factories in force are determined by the registrations of each name on its own. -/
theorem inForce?_congr
    {registrations others : List (String × Factory θ σ ν)}
    (sameOfEach :
      ∀ name,
        others.filter (fun registration => registration.1 = name) =
          registrations.filter fun registration => registration.1 = name) :
    inForce? others = inForce? registrations := by
  funext name
  simp only [inForce?, ← List.head?_filter, List.filter_reverse, sameOfEach]

namespace Settings

/--
What the settings of an application and the registrations of its factories come to.

- The settings are refused: no factory is called, and nothing is logged.
- The first active name without a factory ends the assembly. The factories of the
  names before it have been called, and layers that have declined are logged.
- A factory panics before that.
- All active names have factories, which are called, but a layer that one of them
  has produced has no name. Its position counts the layers that have not declined.
- The stack is that of the layers that have not declined.
-/
inductive Assembles
    (settings : Settings)
    (registrations : List (String × Factory θ σ ν))
    (state : θ) :
    Assembly θ σ ν →
    Prop where
  | refused
      {failure : Failure}
      (refuses : settings.activeNames = .error failure) :
      Assembles settings registrations state
        ⟨[], [], state, .returned (.error failure)⟩
  | unknown
      {calls : FactoryCalls σ ν}
      {name : String}
      {rest : List String}
      (active : settings.activeNames = .ok (calls.names ++ name :: rest))
      {after : θ}
      (called : CallsInOrder (inForce? registrations) state calls after)
      (absent : inForce? registrations name = none) :
      Assembles settings registrations state
        ⟨calls.names,
          calls.skippedLines,
          after,
          .returned (.error (.configuration (.unknownMiddleware name)))⟩
  | panicked
      {calls : FactoryCalls σ ν}
      {name : String}
      {rest : List String}
      (active : settings.activeNames = .ok (calls.names ++ name :: rest))
      {before after : θ}
      (called : CallsInOrder (inForce? registrations) state calls before)
      {factory : Factory θ σ ν}
      (found : inForce? registrations name = some factory)
      {message : String}
      (panics : factory before = (.panicked message, after)) :
      Assembles settings registrations state
        ⟨calls.names ++ [name], calls.skippedLines, after, .panicked message⟩
  | unnamed
      {calls : FactoryCalls σ ν}
      (active : settings.activeNames = .ok calls.names)
      {after : θ}
      (called : CallsInOrder (inForce? registrations) state calls after)
      {layers : List (Layer σ ν)}
      (produced : layers = calls.accepted.map (·.2))
      {position : Nat}
      (refuses : Stack.ofLayers layers = .error (.configuration (.unnamedLayer position)))
      (first : layers.findIdx? (fun layer => Text.isBlank layer.name) = some position) :
      Assembles settings registrations state
        ⟨calls.names,
          calls.skippedLines ++ [enabledLine (calls.accepted.map (·.1))],
          after,
          .returned (.error (.configuration (.unnamedLayer position)))⟩
  | built
      {calls : FactoryCalls σ ν}
      (active : settings.activeNames = .ok calls.names)
      {after : θ}
      (called : CallsInOrder (inForce? registrations) state calls after)
      {layers : List (Layer σ ν)}
      (produced : layers = calls.accepted.map (·.2))
      {stack : Stack σ ν}
      (accepts : Stack.ofLayers layers = .ok stack)
      (request : stack.request = Layer.requestEntries layers)
      (response : stack.response = (Layer.responseEntries layers).reverse)
      (exception : stack.exception = (Layer.exceptionEntries layers).reverse) :
      Assembles settings registrations state
        ⟨calls.names,
          calls.skippedLines ++ [enabledLine (calls.accepted.map (·.1))],
          after,
          .returned (.ok stack)⟩

variable {settings : Settings}
variable {registrations : List (String × Factory θ σ ν)}
variable {state after : θ}
variable {calls : FactoryCalls σ ν}

/-- Where every active name has a factory, the stack is that of the layers, if all are named. -/
theorem Assembles.through
    (active : settings.activeNames = .ok calls.names)
    (called : CallsInOrder (inForce? registrations) state calls after) :
    settings.Assembles registrations state
      ⟨calls.names,
        calls.skippedLines ++ [enabledLine (calls.accepted.map (·.1))],
        after,
        .returned (Stack.ofLayers (calls.accepted.map (·.2)))⟩ := by
  cases first :
      (calls.accepted.map (·.2)).findIdx? fun layer : Layer σ ν => Text.isBlank layer.name with
  | some position =>
      have refuses := Stack.ofLayers_eq_error_of_findIdx? first
      rw [refuses]
      exact .unnamed active called rfl refuses first
  | none =>
      have named := List.findIdx?_eq_none_iff.mp first
      obtain ⟨stack, accepts⟩ := Stack.exists_ofLayers_eq_ok_iff.mpr named
      obtain ⟨request, response, exception⟩ := Stack.eq_of_ofLayers_eq_ok accepts
      rw [accepts]
      exact .built active called rfl accepts request response exception

/-- The assembly of settings with registered factories is the walk over the active names. -/
theorem assembles_of_walks
    {names : List String}
    (active : settings.activeNames = .ok names)
    {catalog : Catalog θ σ ν}
    (sameLookups : catalog.get? = inForce? registrations)
    {assembly : Assembly θ σ ν}
    (walks : catalog.Walks [] state names assembly) :
    settings.Assembles registrations state assembly := by
  cases walks with
  | through called =>
      rw [sameLookups] at called
      exact .through active called
  | unknown called absent rest =>
      rw [sameLookups] at called absent
      exact .unknown active called absent
  | panicked called found panics rest =>
      rw [sameLookups] at called found
      exact .panicked active called found panics

/-- An assembly that comes about as settings and registrations have it is the one that is made. -/
theorem Assembles.assemble_eq
    {assembly : Assembly θ σ ν}
    (assembles : settings.Assembles registrations state assembly) :
    settings.assemble (.ofList registrations) state = assembly := by
  have sameLookups : (Dictionary.ofList registrations).get? = inForce? registrations :=
    funext (Dictionary.get?_ofList registrations)
  cases assembles with
  | refused refuses =>
      simp only [assemble, refuses]
  | unknown active called absent =>
      rw [← sameLookups] at called absent
      simp only [assemble, active]
      exact (Catalog.Walks.unknown called absent _).assemble_eq
  | panicked active called found panics =>
      rw [← sameLookups] at called found
      simp only [assemble, active]
      exact (Catalog.Walks.panicked called found panics _).assemble_eq
  | unnamed active called produced refuses first =>
      rw [← sameLookups] at called
      rw [← refuses, produced]
      simp only [assemble, active]
      exact (Catalog.Walks.through called).assemble_eq
  | built active called produced accepts request response exception =>
      rw [← sameLookups] at called
      rw [← accepts, produced]
      simp only [assemble, active]
      exact (Catalog.Walks.through called).assemble_eq

end Settings

namespace Sample

/-- Settings whose user table moves a middleware of the base table and disables another. -/
def settings : Settings where
  base :=
    .ofList
      [("Cache", .order 900), ("Auth", .order 500), ("Proxy", .order 750), ("Retry", .order 550)]
  user := .ofList [("Auth", .order 100), ("Retry", .switch false)]

/-- A hook that lets requests pass. -/
def passing : Hook Unit Unit Request :=
  .plain fun _ => return .ok .nothing

/-- A hook that passes responses on. -/
def returning : Hook Unit Unit Exchange :=
  .plain fun exchange => return .ok (.response exchange.2)

/-- A layer of both hooks. -/
def transparent (name : String) : Layer Unit Unit :=
  ((Layer.named name).withRequestHook passing).withResponseHook returning

/-- A factory that counts its call and produces a layer. -/
def producing (name : String) : Factory Nat Unit Unit :=
  fun calls => (.layer (transparent name), calls + 1)

theorem producing_apply
    (name : String)
    (calls : Nat) :
    producing name calls = (.layer (transparent name), calls + 1) :=
  rfl

/-- A factory that counts its call and declines. -/
def declining : Factory Nat Unit Unit :=
  fun calls => (.declined, calls + 1)

theorem declining_apply (calls : Nat) : declining calls = (.declined, calls + 1) :=
  rfl

/-- Factories, two of them under one name. -/
def registrations : List (String × Factory Nat Unit Unit) :=
  [("Auth", declining), ("Proxy", declining), ("Cache", producing "cache"),
    ("Auth", producing "auth")]

/-- The same factories in another order, but for those under one name. -/
def reordered : List (String × Factory Nat Unit Unit) :=
  [("Cache", producing "cache"), ("Auth", declining), ("Auth", producing "auth"),
    ("Proxy", declining)]

theorem activeNames_settings : settings.activeNames = .ok ["Auth", "Proxy", "Cache"] := by
  have placed :
      Settings.placements settings.effective.entries =
        .ok [⟨100, "Auth"⟩, ⟨900, "Cache"⟩, ⟨750, "Proxy"⟩] :=
    rfl
  have sorted :
      List.mergeSort [⟨100, "Auth"⟩, ⟨900, "Cache"⟩, ⟨750, "Proxy"⟩] Placement.precedes =
        [⟨100, "Auth"⟩, ⟨750, "Proxy"⟩, ⟨900, "Cache"⟩] := by
    simp [List.mergeSort, List.MergeSort.Internal.splitInTwo, Placement.precedes]
  rw [Settings.activeNames, placed]
  exact congrArg (fun placed => Except.ok (placed.map Placement.name)) sorted

end Sample

namespace Settings

/--
Assembly from settings does what the settings and the registered factories say and
nothing else. It walks over the active names, by order and then by name, whose
directives are those of the user table or else of the base table. Of the
registrations under one name only the last counts, so registrations under
different names may come in any order.
-/
theorem assemble_eq_iff
    (settings : Settings)
    (registrations : List (String × Factory θ σ ν))
    (state : θ) :
    (∀ assembly,
      settings.assemble (.ofList registrations) state = assembly ↔
        settings.Assembles registrations state assembly) ∧
      (∀ names,
        settings.activeNames = .ok names →
          ∃ placed, settings.Lists placed ∧ names = placed.map (·.name)) ∧
      ∀ others : List (String × Factory θ σ ν),
        (∀ name,
          others.filter (fun registration => registration.1 = name) =
            registrations.filter fun registration => registration.1 = name) →
          settings.assemble (.ofList others) state =
            settings.assemble (.ofList registrations) state := by
  have sameLookups : (Dictionary.ofList registrations).get? = inForce? registrations :=
    funext (Dictionary.get?_ofList registrations)
  refine ⟨fun assembly => ⟨?assembles, Assembles.assemble_eq⟩, ?ordered, ?anyOrder⟩
  case assembles =>
    rintro rfl
    cases active : settings.activeNames with
    | error failure =>
        simp only [assemble, active]
        exact .refused active
    | ok names =>
        simp only [assemble, active]
        exact assembles_of_walks active sameLookups (Catalog.walks_assemble _ [] state names)
  case ordered =>
    exact fun names => exists_lists_of_activeNames_eq_ok
  case anyOrder =>
    intro others sameOfEach
    have sameCatalog : Dictionary.ofList others = Dictionary.ofList registrations := by
      apply Dictionary.ext_get?
      intro name
      rw [Dictionary.get?_ofList, Dictionary.get?_ofList]
      exact congrFun (inForce?_congr sameOfEach) name
    rw [sameCatalog]

/--
The user table moves one middleware ahead and disables another. A layer is declined
by the factory that is registered first under its name, which the last one replaces,
and another layer is skipped. The same comes of the registrations in another order.
-/
theorem assemble_eq_iff_reordered :
    let assembly := Sample.settings.assemble (.ofList Sample.registrations) 0
    assembly =
        ⟨["Auth", "Proxy", "Cache"],
          [skippedLine "Proxy", enabledLine ["Auth", "Cache"]],
          3,
          .returned
            (.ok
              ⟨[⟨"auth", Sample.passing⟩, ⟨"cache", Sample.passing⟩],
                [⟨"cache", Sample.returning⟩, ⟨"auth", Sample.returning⟩], []⟩)⟩ ∧
      Sample.settings.assemble (.ofList Sample.reordered) 0 = assembly := by
  intro assembly
  obtain ⟨comesTo, _, anyOrder⟩ := assemble_eq_iff Sample.settings Sample.registrations 0
  constructor
  · have called :
        CallsInOrder (inForce? Sample.registrations) 0
          [("Auth", .layer (Sample.transparent "auth")), ("Proxy", .declined),
            ("Cache", .layer (Sample.transparent "cache"))]
          3 :=
      .produced rfl (Sample.producing_apply "auth" 0)
        (.declined rfl (Sample.declining_apply 1)
          (.produced rfl (Sample.producing_apply "cache" 2) (.none 3)))
    exact
      (comesTo _).mpr (.built Sample.activeNames_settings called rfl rfl rfl rfl rfl)
  · apply anyOrder
    intro name
    by_cases isAuth : "Auth" = name
    · subst isAuth
      rfl
    · by_cases isProxy : "Proxy" = name
      · subst isProxy
        rfl
      · simp [Sample.reordered, Sample.registrations, List.filter_cons, isAuth, isProxy]

end Settings

end Middleware
