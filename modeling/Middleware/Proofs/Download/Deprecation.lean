import Mathlib.Data.Finset.Card
import Middleware.Proofs.Download.Blocking
import Middleware.Proofs.Download.Settlement

namespace Middleware

/-!
# Warnings of blocking calls

The places that have been warned about belong to a program as a whole. Whatever
blocking calls the program makes, on whatever downloaders and however they end, a call
begins with a warning exactly if it is the first one from its place, and nothing that a
call does after that is such a warning. So there are as many warnings as there are
places that calls have come from.
-/

variable {σ ν : Type}

/-- The message of the warning that a place uses a deprecated call. -/
def deprecationMessage : String :=
  "Executor::download_blocking() is deprecated, use Executor::download() instead"

/-- The line of a signal that warns of a deprecated call. -/
def Signal.deprecation? : Signal ν → Option LogLine
  | .log line => if line.message = deprecationMessage then some line else none
  | .call _ | .returned _ | .note _ | .event _ => none

/-- The lines among signals that warn of deprecated calls. -/
def deprecationsIn (signals : List (Signal ν)) : List LogLine :=
  signals.filterMap Signal.deprecation?

@[simp] theorem deprecationsIn_append
    (first second : List (Signal ν)) :
    deprecationsIn (first ++ second) = deprecationsIn first ++ deprecationsIn second :=
  List.filterMap_append

/-- Where every line is accounted for, none warns of a deprecated call. -/
theorem deprecationsIn_eq_nil
    {signals : List (Signal ν)}
    (accounted : ∀ signal ∈ signals, signal.IsAccounted) :
    deprecationsIn signals = [] := by
  have otherMessage : deprecationMessage ∉ reporterMessages ++ settledMessages := by
    decide
  refine List.filterMap_eq_nil_iff.mpr ?_
  intro signal emitted
  cases signal with
  | log line =>
      refine if_neg ?_
      intro sameMessage
      have isAccounted := accounted (.log line) emitted
      simp [Signal.IsAccounted, Signal.isStray, sameMessage, otherMessage] at isAccounted
  | call _ => rfl
  | returned _ => rfl
  | note _ => rfl
  | event _ => rfl

namespace WarnedSites

variable {sites : WarnedSites}
variable {site other : CallSite}

/-- After a visit, the place visited counts as warned, too. -/
theorem mem_visit_iff :
    other ∈ (sites.visit site).2 ↔ other = site ∨ other ∈ sites := by
  by_cases warned : site ∈ sites
  · rw [visit, if_pos warned]
    constructor
    · exact .inr
    · rintro (rfl | present)
      · exact warned
      · exact present
  · rw [visit, if_neg warned]
    exact List.mem_cons

/-- The warnings that visits of places give one after another. -/
def warnings (sites : WarnedSites) : List CallSite → List (List LogLine)
  | [] => []
  | site :: later => (sites.visit site).1.toList :: (sites.visit site).2.warnings later

/-- There is a warning for each place that is visited and was not warned before. -/
theorem length_flatten_warnings
    (sites : WarnedSites)
    (visited : List CallSite) :
    (sites.warnings visited).flatten.length = (visited.toFinset \ sites.toFinset).card := by
  induction visited generalizing sites with
  | nil => simp [warnings]
  | cons site later inductionHypothesis =>
      rw [warnings, List.flatten_cons, List.length_append, inductionHypothesis,
        List.toFinset_cons]
      by_cases warned : site ∈ sites
      · have inSites : site ∈ sites.toFinset := List.mem_toFinset.mpr warned
        simp [visit, warned, Finset.insert_sdiff_of_mem _ inSites]
      · have notInSites : site ∉ sites.toFinset := by
          simpa using warned
        have notInRest : site ∉ later.toFinset \ insert site sites.toFinset := by
          simp
        have splits :
            insert site later.toFinset \ sites.toFinset =
              insert site (later.toFinset \ insert site sites.toFinset) := by
          ext other
          by_cases same : other = site
          · simp [same, warned]
          · simp [same]
        rw [splits, Finset.card_insert_of_notMem notInRest]
        simp [visit, warned, Nat.add_comm]

end WarnedSites

/--
A blocking call that a program makes, with the state that it finds. Between two calls
the program may do anything else.
-/
structure BlockingCall (σ ν : Type) where
  downloader : Downloader σ ν
  site : CallSite
  ambient : Ambient
  transport : ContextualTransport σ ν
  request : Request
  context : Context
  found : σ

namespace BlockingCall

/-- A call, where places have been warned about: which ones have afterwards, and what it does. -/
def make
    (call : BlockingCall σ ν)
    (sites : WarnedSites) :
    WarnedSites × Run σ (Signal ν) (Job σ (Signal ν) (Except Failure Outcome)) :=
  let (sites, task) :=
    call.downloader.downloadFrom sites call.site call.ambient call.transport call.request
      call.context
  (sites, (Job.fresh task).poll call.found)

/-- What calls do that are made one after another. -/
def makeAll
    (sites : WarnedSites) :
    List (BlockingCall σ ν) →
    List (Run σ (Signal ν) (Job σ (Signal ν) (Except Failure Outcome)))
  | [] => []
  | call :: later =>
      let (sites, run) := call.make sites
      run :: makeAll sites later

/--
What a call from a place shows: a warning in front of everything, unless the place was
warned before, and no other.
-/
def WarnsFirst
    (sites : WarnedSites)
    (site : CallSite)
    (signals : List (Signal ν)) :
    Prop :=
  ∃ body,
    signals = (if site ∈ sites then [] else [.log (deprecationLine site)]) ++ body ∧
      deprecationsIn body = []

theorem WarnsFirst.congr
    {sites others : WarnedSites}
    {site : CallSite}
    {signals : List (Signal ν)}
    (warns : WarnsFirst sites site signals)
    (sameStanding : site ∈ others ↔ site ∈ sites) :
    WarnsFirst others site signals := by
  rw [WarnsFirst] at warns ⊢
  simpa only [sameStanding] using warns

/-- The warnings of a call are those that a visit of its place gives. -/
theorem WarnsFirst.deprecationsIn_eq
    {sites : WarnedSites}
    {site : CallSite}
    {signals : List (Signal ν)}
    (warns : WarnsFirst sites site signals) :
    deprecationsIn signals = (sites.visit site).1.toList := by
  obtain ⟨body, rfl, noneLater⟩ := warns
  rw [deprecationsIn_append, noneLater, List.append_nil, WarnedSites.visit]
  by_cases warned : site ∈ sites
  · simp only [if_pos warned]
    rfl
  · simp only [if_neg warned]
    rfl

end BlockingCall

namespace Downloader

/-- What a blocking call runs through logs no lines but those of a download. -/
theorem emitsOnly_runThrough
    (downloader : Downloader σ ν)
    (ambient : Ambient)
    (transport : ContextualTransport σ ν)
    (request : Request)
    (context : Context) :
    (downloader.runThrough ambient transport request context).EmitsOnly Signal.IsAccounted := by
  have download :=
    (downloader.inContext context).emitsOnly_download
      (fun request => transport request context) request
  cases ambient with
  | outside => exact download.withoutPauses
  | singleThreaded => exact .done _
  | multiThreaded => exact download.withoutPauses

end Downloader

namespace BlockingCall

/-- A call leaves behind what a visit of its place does, whatever comes of it. -/
theorem make_fst
    (call : BlockingCall σ ν)
    (sites : WarnedSites) :
    (call.make sites).1 = (sites.visit call.site).2 := by
  by_cases warned : call.site ∈ sites
  · simp only [make, Downloader.downloadFrom, WarnedSites.visit, if_pos warned]
  · simp only [make, Downloader.downloadFrom, WarnedSites.visit, if_neg warned]

theorem warnsFirst_make
    (call : BlockingCall σ ν)
    (sites : WarnedSites) :
    WarnsFirst sites call.site (call.make sites).2.signals := by
  have polled :=
    call.downloader.poll_downloadFrom sites call.site call.ambient call.transport call.request
      call.context call.found
  have body :=
    call.downloader.emitsOnly_runThrough call.ambient call.transport call.request call.context
  refine ⟨_, ?_, deprecationsIn_eq_nil (body.poll call.found)⟩
  exact congrArg Run.signals polled

/-- Each of the calls made one after another warns if no call before it came from its place. -/
theorem exists_warnsFirst_makeAll
    {calls : List (BlockingCall σ ν)}
    (sites : WarnedSites)
    {index : Nat}
    {call : BlockingCall σ ν}
    (made : calls[index]? = some call) :
    ∃ run,
      (makeAll sites calls)[index]? = some run ∧
        WarnsFirst (sites ++ (calls.take index).map (·.site)) call.site run.signals := by
  induction calls generalizing sites index with
  | nil => cases made
  | cons first later inductionHypothesis =>
      cases index with
      | zero =>
          obtain rfl : first = call := Option.some.inj made
          refine ⟨(first.make sites).2, rfl, (first.warnsFirst_make sites).congr ?_⟩
          simp
      | succ index =>
          obtain ⟨run, found, warns⟩ := inductionHypothesis (first.make sites).1 made
          refine ⟨run, found, warns.congr ?_⟩
          simp only [make_fst, WarnedSites.mem_visit_iff, List.take_succ_cons, List.map_cons,
            List.mem_append, List.mem_cons]
          rw [or_assoc, or_left_comm]

/-- Which warnings calls give is settled by the places that they come from. -/
theorem map_deprecationsIn_makeAll
    (calls : List (BlockingCall σ ν))
    (sites : WarnedSites) :
    ((makeAll sites calls).map fun run => deprecationsIn run.signals) =
      sites.warnings (calls.map (·.site)) := by
  induction calls generalizing sites with
  | nil => rfl
  | cons call later inductionHypothesis =>
      have first := (call.warnsFirst_make sites).deprecationsIn_eq
      have rest := inductionHypothesis (call.make sites).1
      rw [make_fst] at rest
      rw [List.map_cons, WarnedSites.warnings, ← first, ← rest, ← make_fst]
      rfl

/--
Whatever blocking calls a program makes, each of them begins with a warning if no call
before it came from the same place, and otherwise it gives none. There are as many
warnings as there are places that calls have come from. Which calls warn is settled by
these places alone: it does not change with the downloaders, the runtimes, or what the
calls do and come to.
-/
theorem makeAll_warns_once_per_site (calls : List (BlockingCall σ ν)) :
    let runs := makeAll [] calls
    (∀ index call,
      calls[index]? = some call →
        ∃ run,
          runs[index]? = some run ∧
            WarnsFirst ((calls.take index).map (·.site)) call.site run.signals) ∧
      (runs.flatMap fun run => deprecationsIn run.signals).length =
        (calls.map (·.site)).toFinset.card ∧
      ∀ {τ ξ : Type} (others : List (BlockingCall τ ξ)),
        others.map (·.site) = calls.map (·.site) →
          ((makeAll [] others).map fun run => deprecationsIn run.signals) =
            runs.map fun run => deprecationsIn run.signals := by
  intro runs
  refine ⟨?first, ?count, ?sitesAlone⟩
  case first =>
    intro index call made
    exact exists_warnsFirst_makeAll [] made
  case count =>
    rw [List.flatMap_def, map_deprecationsIn_makeAll, WarnedSites.length_flatten_warnings]
    simp
  case sitesAlone =>
    intro τ ξ others sameSites
    rw [map_deprecationsIn_makeAll, map_deprecationsIn_makeAll, sameSites]

/--
Four calls from two places: one that is refused, two in which the transport panics, and
one that responds. The first and the third of them warn, as they do if all are refused.
-/
theorem makeAll_warns_once_per_site_crashing :
    let here : CallSite := ⟨"main", 3, 1⟩
    let there : CallSite := ⟨"main", 7, 1⟩
    let refused : BlockingCall Unit Unit :=
      ⟨.ofStack Sample.pausing, here, .singleThreaded, fun request _ => Sample.slow request,
        .get "/", .default, ()⟩
    let crashed : BlockingCall Unit Unit :=
      { refused with ambient := .outside, transport := fun request _ => Sample.crashing request }
    let responded := { refused with site := there, ambient := .multiThreaded }
    let calls := [refused, crashed, responded, { crashed with site := there }]
    let runs := makeAll [] calls
    let others := [refused, refused, { refused with site := there }, { refused with site := there }]
    (runs.map fun run => run.result.fate) =
        [.finished (.error (.invalidState .singleThreadedRuntime)), .panicked "no connection",
          .finished (.ok (.response (.plain "/"))), .panicked "no connection"] ∧
      calls[2]? = some responded ∧
      (∃ run, runs[2]? = some run ∧ WarnsFirst [here, here] there run.signals) ∧
      (runs.flatMap fun run => deprecationsIn run.signals).length = 2 ∧
      others.map (·.site) = calls.map (·.site) ∧
      ((makeAll [] others).map fun run => deprecationsIn run.signals) =
        runs.map fun run => deprecationsIn run.signals := by
  intro here there refused crashed responded calls runs others
  obtain ⟨first, count, sitesAlone⟩ := makeAll_warns_once_per_site calls
  have twoPlaces : (calls.map (·.site)).toFinset.card = 2 := by decide
  exact
    ⟨rfl, rfl, first 2 responded rfl, count.trans twoPlaces, rfl, sitesAlone others rfl⟩

end BlockingCall

end Middleware
