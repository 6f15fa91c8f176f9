import Middleware.Failure.Message
import Middleware.Proofs.Settings.Order
import Middleware.Proofs.Text.ByteOrder

namespace Middleware

/-!
# The active middlewares of overlaid tables

What settings come to depends on the directives in force alone. If one of them
merely switches a middleware on, the first of these names is reported. Otherwise
the names with an order are listed, by order and then by the bytes of the names,
so a change of one directive leaves the others in their order.
-/

namespace Settings

/-- Both names are active, and one comes before the other: by order, then by its bytes. -/
def ComesBefore
    (settings : Settings)
    (earlier later : String) :
    Prop :=
  ∃ order orderThen,
    settings.directive? earlier = some (.order order) ∧
      settings.directive? later = some (.order orderThen) ∧
      (order < orderThen ∨ order = orderThen ∧ Text.bytes earlier < Text.bytes later)

/--
What the directives in force come to.

- One of them switches a middleware on without an order: of these names the first
  one by its bytes is reported.
- All names with an order are listed, each of them once and in ascending order.
-/
inductive Resolves (settings : Settings) : Except Failure (List String) → Prop where
  | refused
      {name : String}
      (enabled : settings.directive? name = some (.switch true))
      (first :
        ∀ other,
          settings.directive? other = some (.switch true) →
            other ≠ name → Text.bytes name < Text.bytes other)
      {failure : Failure}
      (reported : failure = .configuration (.missingOrder name))
      (shown :
        failure.message =
          "middleware configuration: middleware " ++ name ++
            ": expected an integer order or `false`, got `true`") :
      Resolves settings (.error failure)
  | listed
      {names : List String}
      (accepted : ∀ name, settings.directive? name ≠ some (.switch true))
      (active :
        ∀ name, name ∈ names ↔ ∃ order, settings.directive? name = some (.order order))
      (once : names.Nodup)
      (ascending : names.Pairwise settings.ComesBefore) :
      Resolves settings (.ok names)

variable {settings changed : Settings}

theorem ComesBefore.asymm
    {earlier later : String}
    (before : settings.ComesBefore earlier later) :
    ¬ settings.ComesBefore later earlier := by
  obtain ⟨order, orderThen, gives, givesThen, less⟩ := before
  rintro ⟨other, otherThen, otherGives, otherGivesThen, lessThen⟩
  obtain rfl : orderThen = other := by simpa [givesThen] using otherGives
  obtain rfl : order = otherThen := by simpa [gives] using otherGivesThen
  rcases less with lessOrder | ⟨rfl, lessName⟩
  · rcases lessThen with lessOrderThen | ⟨rfl, _⟩
    · exact Int.lt_asymm lessOrder lessOrderThen
    · exact Int.lt_irrefl _ lessOrder
  · rcases lessThen with lessOrderThen | ⟨_, lessNameThen⟩
    · exact Int.lt_irrefl _ lessOrderThen
    · exact List.lt_asymm lessName lessNameThen

/-- What comes before what is decided by the directives of the two names alone. -/
theorem ComesBefore.congr
    {earlier later : String}
    (before : settings.ComesBefore earlier later)
    (sameEarlier : changed.directive? earlier = settings.directive? earlier)
    (sameLater : changed.directive? later = settings.directive? later) :
    changed.ComesBefore earlier later := by
  rwa [ComesBefore, sameEarlier, sameLater]

theorem nodup_of_ascending
    {names : List String}
    (ascending : names.Pairwise settings.ComesBefore) :
    names.Nodup := by
  refine ascending.imp ?_
  rintro earlier later before rfl
  exact before.asymm before

/-- There is only one ascending list of the same names. -/
theorem eq_of_ascending
    {names others : List String}
    (ascending : names.Pairwise settings.ComesBefore)
    (othersAscending : others.Pairwise settings.ComesBefore)
    (sameNames : ∀ name, name ∈ names ↔ name ∈ others) :
    names = others := by
  have perm : names.Perm others :=
    (List.perm_ext_iff_of_nodup (nodup_of_ascending ascending)
      (nodup_of_ascending othersAscending)).mpr sameNames
  refine perm.eq_of_pairwise ?_ ascending othersAscending
  intro earlier later _ _ before after
  exact (before.asymm after).elim

/-- Settings come to one result. -/
theorem Resolves.unique
    {result other : Except Failure (List String)}
    (resolves : settings.Resolves result)
    (otherResolves : settings.Resolves other) :
    result = other := by
  cases resolves with
  | @refused name enabled first failure reported shown =>
      cases otherResolves with
      | @refused nameThen enabledThen firstThen failureThen reportedThen shownThen =>
          by_cases same : nameThen = name
          · rw [reported, reportedThen, same]
          · have before := first nameThen enabledThen same
            have after := firstThen name enabled (Ne.symm same)
            exact (List.lt_asymm before after).elim
      | listed accepted active once ascending => exact (accepted name enabled).elim
  | @listed names accepted active once ascending =>
      cases otherResolves with
      | @refused name enabled first failure reported shown => exact (accepted name enabled).elim
      | @listed others acceptedThen activeThen onceThen ascendingThen =>
          have sameNames : ∀ name, name ∈ names ↔ name ∈ others := by
            intro name
            rw [active, activeThen]
          rw [eq_of_ascending ascending ascendingThen sameNames]

/-- Entries are refused at the first that switches a middleware on without an order. -/
theorem exists_of_placements_eq_error
    {entries : List (String × Directive)}
    {failure : Failure}
    (refused : placements entries = .error failure) :
    ∃ before name after,
      entries = before ++ (name, .switch true) :: after ∧
        failure = .configuration (.missingOrder name) ∧
        ∀ entry ∈ before, entry.2 ≠ .switch true := by
  induction entries with
  | nil => cases refused
  | cons entry rest inductionHypothesis =>
      rcases entry with ⟨name, directive⟩
      cases directive with
      | switch on =>
          cases on with
          | true =>
              exact ⟨[], name, rest, rfl, (Except.error.inj refused).symm, List.forall_mem_nil _⟩
          | false =>
              obtain ⟨before, enabled, after, rfl, reported, none⟩ := inductionHypothesis refused
              exact
                ⟨(name, .switch false) :: before, enabled, after, rfl, reported,
                  List.forall_mem_cons.mpr ⟨by simp, none⟩⟩
      | order order =>
          cases later : placements rest with
          | ok placed =>
              rw [placements, later] at refused
              cases refused
          | error laterFailure =>
              rw [placements, later] at refused
              obtain rfl := Except.error.inj refused
              obtain ⟨before, enabled, after, rfl, reported, none⟩ := inductionHypothesis later
              exact
                ⟨(name, .order order) :: before, enabled, after, rfl, reported,
                  List.forall_mem_cons.mpr ⟨by simp, none⟩⟩

/-- Entries that are accepted switch no middleware on without an order. -/
theorem ne_switch_of_placements_eq_ok
    {entries : List (String × Directive)}
    {placed : List Placement}
    (accepted : placements entries = .ok placed) :
    ∀ entry ∈ entries, entry.2 ≠ .switch true := by
  induction entries generalizing placed with
  | nil => exact List.forall_mem_nil _
  | cons entry rest inductionHypothesis =>
      rcases entry with ⟨name, directive⟩
      cases directive with
      | switch on =>
          cases on with
          | true => cases accepted
          | false => exact List.forall_mem_cons.mpr ⟨by simp, inductionHypothesis accepted⟩
      | order order =>
          cases later : placements rest with
          | error failure =>
              rw [placements, later] at accepted
              cases accepted
          | ok laterPlaced => exact List.forall_mem_cons.mpr ⟨by simp, inductionHypothesis later⟩

/-- The entries in force are those that the directives in force give. -/
theorem mem_effective_iff
    {name : String}
    {directive : Directive} :
    (name, directive) ∈ settings.effective.entries ↔
      settings.directive? name = some directive := by
  rw [Dictionary.mem_entries_iff, get?_effective]

/-- Settings that are refused are refused for the first name without an order. -/
theorem resolves_of_placements_eq_error
    {failure : Failure}
    (refused : placements settings.effective.entries = .error failure) :
    settings.Resolves (.error failure) := by
  obtain ⟨before, name, after, sameEntries, rfl, none⟩ := exists_of_placements_eq_error refused
  have enabled : settings.directive? name = some (.switch true) := by
    rw [← mem_effective_iff, sameEntries]
    simp
  refine .refused enabled ?first rfl rfl
  case first =>
    intro other otherEnabled different
    have member := mem_effective_iff.mpr otherEnabled
    have ascending := settings.effective.ascending
    rw [sameEntries] at member ascending
    obtain ⟨_, ascendingThen, _⟩ := List.pairwise_append.mp ascending
    rw [Text.bytes_lt_bytes_iff]
    rcases List.mem_append.mp member with isBefore | isHere
    · exact (none _ isBefore rfl).elim
    · rcases List.mem_cons.mp isHere with same | isAfter
      · exact (different (congrArg Prod.fst same)).elim
      · exact (List.pairwise_cons.mp ascendingThen).1 _ isAfter

/-- The placements of active names list these in ascending order. -/
theorem Lists.pairwise_comesBefore
    {placed : List Placement}
    (lists : settings.Lists placed) :
    (placed.map (·.name)).Pairwise settings.ComesBefore := by
  rw [List.pairwise_map]
  refine lists.ascending.imp_of_mem ?_
  intro earlier later member memberThen before
  refine
    ⟨earlier.order, later.order, (lists.active earlier).mp member,
      (lists.active later).mp memberThen, ?_⟩
  rwa [Text.bytes_lt_bytes_iff]

/-- What settings come to is what their directives in force come to. -/
theorem resolves_activeNames (settings : Settings) :
    settings.Resolves settings.activeNames := by
  cases placedOrRefused : placements settings.effective.entries with
  | error failure =>
      have refuses : settings.activeNames = .error failure := by
        rw [activeNames, placedOrRefused]
        rfl
      rw [refuses]
      exact resolves_of_placements_eq_error placedOrRefused
  | ok found =>
      have listed :
          settings.activeNames = .ok ((found.mergeSort Placement.precedes).map (·.name)) := by
        rw [activeNames, placedOrRefused]
        rfl
      obtain ⟨placed, lists, sameNames⟩ := exists_lists_of_activeNames_eq_ok listed
      rw [listed, sameNames]
      have ascending := lists.pairwise_comesBefore
      refine .listed ?accepted ?active (nodup_of_ascending ascending) ascending
      case accepted =>
        intro name enabled
        exact ne_switch_of_placements_eq_ok placedOrRefused _ (mem_effective_iff.mpr enabled) rfl
      case active =>
        intro name
        rw [List.mem_map]
        constructor
        · rintro ⟨placement, member, rfl⟩
          exact ⟨placement.order, (lists.active placement).mp member⟩
        · rintro ⟨order, gives⟩
          exact ⟨⟨order, name⟩, (lists.active ⟨order, name⟩).mpr gives, rfl⟩

/-- Settings with the same directives in force come to the same. -/
theorem Resolves.congr
    (sameDirectives : ∀ name, changed.directive? name = settings.directive? name)
    {result : Except Failure (List String)}
    (resolves : settings.Resolves result) :
    changed.Resolves result := by
  cases resolves with
  | refused enabled first reported shown =>
      refine .refused ((sameDirectives _).trans enabled) ?_ reported shown
      intro other otherEnabled
      rw [sameDirectives] at otherEnabled
      exact first other otherEnabled
  | listed accepted active once ascending =>
      refine .listed ?_ ?_ once ?_
      · intro name
        rw [sameDirectives]
        exact accepted name
      · intro name
        rw [sameDirectives]
        exact active name
      · exact ascending.imp fun before =>
          before.congr (sameDirectives _) (sameDirectives _)

/-- A list of active names is ascending, and it has the names whose directives give an order. -/
theorem ascending_of_activeNames_eq_ok
    {names : List String}
    (listed : settings.activeNames = .ok names) :
    names.Pairwise settings.ComesBefore ∧
      ∀ name, name ∈ names ↔ ∃ order, settings.directive? name = some (.order order) := by
  have resolves := settings.resolves_activeNames
  rw [listed] at resolves
  cases resolves with
  | listed accepted active once ascending => exact ⟨ascending, active⟩

/--
The active names are exactly what the directives in force come to: those of the user
table, or else those of the base table. Nothing else about the two tables counts, so
they may be replaced by what they are together. A change of the directives of one
name, if neither this name nor another one is refused, leaves the others in their
order.
-/
theorem activeNames_eq_iff_resolves (settings : Settings) :
    (∀ result, settings.activeNames = result ↔ settings.Resolves result) ∧
      (∀ changed : Settings,
        (∀ name, changed.directive? name = settings.directive? name) →
          changed.activeNames = settings.activeNames) ∧
      (Settings.mk settings.effective .empty).activeNames = settings.activeNames ∧
      ∀ (changed : Settings) (name : String),
        (∀ other, other ≠ name → changed.directive? other = settings.directive? other) →
          ∀ names namesThen,
            settings.activeNames = .ok names →
              changed.activeNames = .ok namesThen →
                namesThen.filter (· ≠ name) = names.filter (· ≠ name) := by
  have dependsOnDirectives :
      ∀ changed : Settings,
        (∀ name, changed.directive? name = settings.directive? name) →
          changed.activeNames = settings.activeNames := by
    intro changed sameDirectives
    exact changed.resolves_activeNames.unique (settings.resolves_activeNames.congr sameDirectives)
  refine ⟨?resolves, dependsOnDirectives, ?overlaid, ?othersKeepOrder⟩
  case resolves =>
    intro result
    constructor
    · rintro rfl
      exact settings.resolves_activeNames
    · exact settings.resolves_activeNames.unique
  case overlaid =>
    apply dependsOnDirectives
    intro name
    rw [← get?_effective settings]
    rfl
  case othersKeepOrder =>
    intro changed name sameOthers names namesThen listed listedThen
    obtain ⟨ascending, active⟩ := ascending_of_activeNames_eq_ok listed
    obtain ⟨ascendingThen, activeThen⟩ := ascending_of_activeNames_eq_ok listedThen
    have sameAscending : (namesThen.filter (· ≠ name)).Pairwise settings.ComesBefore := by
      refine (ascendingThen.filter _).imp_of_mem ?_
      intro earlier later member memberThen before
      have differs := of_decide_eq_true (List.mem_filter.mp member).2
      have differsThen := of_decide_eq_true (List.mem_filter.mp memberThen).2
      exact before.congr (sameOthers earlier differs).symm (sameOthers later differsThen).symm
    refine eq_of_ascending sameAscending (ascending.filter _) ?_
    intro other
    simp only [List.mem_filter, active, activeThen, decide_eq_true_eq]
    constructor
    · rintro ⟨gives, differs⟩
      exact ⟨sameOthers other differs ▸ gives, differs⟩
    · rintro ⟨gives, differs⟩
      exact ⟨(sameOthers other differs).symm ▸ gives, differs⟩

end Settings

namespace Sample

/-- Settings whose user table gives an order to a middleware that the base table switches on. -/
def overridden : Settings where
  base := .ofList [("Auth", .switch true), ("Cache", .order 900), ("Proxy", .order 900)]
  user := .ofList [("Auth", .order (-1)), ("Retry", .switch false)]

/-- The same settings with another order for one middleware. -/
def moved : Settings where
  base := overridden.base
  user := .ofList [("Auth", .order (-1)), ("Cache", .order (-2)), ("Retry", .switch false)]

theorem activeNames_overridden : overridden.activeNames = .ok ["Auth", "Cache", "Proxy"] := by
  have placed :
      Settings.placements overridden.effective.entries =
        .ok [⟨-1, "Auth"⟩, ⟨900, "Cache"⟩, ⟨900, "Proxy"⟩] :=
    rfl
  have sorted :
      List.mergeSort [⟨-1, "Auth"⟩, ⟨900, "Cache"⟩, ⟨900, "Proxy"⟩] Placement.precedes =
        [⟨-1, "Auth"⟩, ⟨900, "Cache"⟩, ⟨900, "Proxy"⟩] := by
    simp [List.mergeSort, List.MergeSort.Internal.splitInTwo, Placement.precedes]
  rw [Settings.activeNames, placed]
  exact congrArg (fun placed => Except.ok (placed.map Placement.name)) sorted

theorem activeNames_moved : moved.activeNames = .ok ["Cache", "Auth", "Proxy"] := by
  have placed :
      Settings.placements moved.effective.entries =
        .ok [⟨-1, "Auth"⟩, ⟨-2, "Cache"⟩, ⟨900, "Proxy"⟩] :=
    rfl
  have sorted :
      List.mergeSort [⟨-1, "Auth"⟩, ⟨-2, "Cache"⟩, ⟨900, "Proxy"⟩] Placement.precedes =
        [⟨-2, "Cache"⟩, ⟨-1, "Auth"⟩, ⟨900, "Proxy"⟩] := by
    simp [List.mergeSort, List.MergeSort.Internal.splitInTwo, Placement.precedes]
  rw [Settings.activeNames, placed]
  exact congrArg (fun placed => Except.ok (placed.map Placement.name)) sorted

theorem directive?_moved
    {other : String}
    (differs : other ≠ "Cache") :
    moved.directive? other = overridden.directive? other := by
  have otherwise : "Cache" ≠ other := Ne.symm differs
  simp [Settings.directive?, moved, overridden, Dictionary.get?_ofList, List.find?_cons, otherwise]

end Sample

/--
The user table gives an order to a middleware that the base table merely switches on,
and two middlewares of one order are listed by their names. Another order for one of
them moves it alone.
-/
theorem Settings.activeNames_eq_iff_resolves_moved :
    Sample.overridden.Resolves (.ok ["Auth", "Cache", "Proxy"]) ∧
      Sample.moved.Resolves (.ok ["Cache", "Auth", "Proxy"]) ∧
      ["Cache", "Auth", "Proxy"].filter (· ≠ "Cache") =
        ["Auth", "Cache", "Proxy"].filter (· ≠ "Cache") := by
  obtain ⟨comesTo, _, _, othersKeepOrder⟩ := activeNames_eq_iff_resolves Sample.overridden
  refine ⟨?overridden, ?moved, ?othersKeepOrder⟩
  case overridden => exact (comesTo _).mp Sample.activeNames_overridden
  case moved =>
    exact ((activeNames_eq_iff_resolves Sample.moved).1 _).mp Sample.activeNames_moved
  case othersKeepOrder =>
    exact
      othersKeepOrder Sample.moved "Cache" (fun _ => Sample.directive?_moved) _ _
        Sample.activeNames_overridden Sample.activeNames_moved

end Middleware
