import Middleware.Stack

namespace Middleware

/-!
# Stacks and the order of their layers

A stack that is built from an ordered list of layers holds the request hooks
of the layers in this order, and their response and exception hooks in the
reverse order.
-/

variable {σ ν : Type}

namespace Layer

/-- The request hooks of layers, in the order of the layers. -/
def requestEntries (layers : List (Layer σ ν)) : List (Entry σ ν Request) :=
  layers.filterMap fun layer => layer.request.map (Entry.mk layer.name)

/-- The response hooks of layers, in the order of the layers. -/
def responseEntries (layers : List (Layer σ ν)) : List (Entry σ ν Exchange) :=
  layers.filterMap fun layer => layer.response.map (Entry.mk layer.name)

/-- The exception hooks of layers, in the order of the layers. -/
def exceptionEntries (layers : List (Layer σ ν)) : List (Entry σ ν Incident) :=
  layers.filterMap fun layer => layer.exception.map (Entry.mk layer.name)

end Layer

namespace Stack

/-- Adding layers puts their request hooks last and their other hooks first, in reverse order. -/
theorem eq_of_addAll_eq_ok
    {layers : List (Layer σ ν)}
    {stack result : Stack σ ν}
    {position : Nat}
    (added : stack.addAll position layers = .ok result) :
    result.request = stack.request ++ Layer.requestEntries layers ∧
      result.response = (Layer.responseEntries layers).reverse ++ stack.response ∧
      result.exception = (Layer.exceptionEntries layers).reverse ++ stack.exception := by
  induction layers generalizing stack position with
  | nil =>
      simp only [addAll, Except.ok.injEq] at added
      subst result
      simp [Layer.requestEntries, Layer.responseEntries, Layer.exceptionEntries]
  | cons layer rest inductionHypothesis =>
      unfold addAll at added
      split at added
      · cases added
      · obtain ⟨sameRequest, sameResponse, sameException⟩ := inductionHypothesis added
        refine ⟨?_, ?_, ?_⟩
        · rw [sameRequest]
          cases request : layer.request <;>
            simp [add, Layer.requestEntries, request]
        · rw [sameResponse]
          cases response : layer.response <;>
            simp [add, Layer.responseEntries, response]
        · rw [sameException]
          cases exception : layer.exception <;>
            simp [add, Layer.exceptionEntries, exception]

/-- The hooks of an accepted list of layers, each list in the order of its phase. -/
theorem eq_of_ofLayers_eq_ok
    {layers : List (Layer σ ν)}
    {stack : Stack σ ν}
    (accepted : ofLayers layers = .ok stack) :
    stack.request = Layer.requestEntries layers ∧
      stack.response = (Layer.responseEntries layers).reverse ∧
      stack.exception = (Layer.exceptionEntries layers).reverse := by
  simpa [empty] using eq_of_addAll_eq_ok accepted

/-- Layers can be added exactly if each of them has a name. -/
theorem exists_addAll_eq_ok_iff
    {layers : List (Layer σ ν)}
    {stack : Stack σ ν}
    {position : Nat} :
    (∃ result, stack.addAll position layers = .ok result) ↔
      ∀ layer ∈ layers, Text.isBlank layer.name = false := by
  induction layers generalizing stack position with
  | nil =>
      simp [addAll]
  | cons layer rest inductionHypothesis =>
      rw [List.forall_mem_cons]
      by_cases blank : Text.isBlank layer.name
      · simp [addAll, blank]
      · simp only [addAll, if_neg blank, inductionHypothesis]
        simp [blank]

/-- A list of layers is accepted exactly if each of them has a name. -/
theorem exists_ofLayers_eq_ok_iff {layers : List (Layer σ ν)} :
    (∃ stack, ofLayers layers = .ok stack) ↔
      ∀ layer ∈ layers, Text.isBlank layer.name = false :=
  exists_addAll_eq_ok_iff

/-- Layers cannot be added if one has no name; the first such layer is named by its position. -/
theorem addAll_eq_error_of_findIdx?
    {layers : List (Layer σ ν)}
    {index : Nat}
    (first : layers.findIdx? (fun layer => Text.isBlank layer.name) = some index)
    (stack : Stack σ ν)
    (position : Nat) :
    stack.addAll position layers = .error (.configuration (.unnamedLayer (position + index))) := by
  induction layers generalizing index stack position with
  | nil =>
      cases first
  | cons layer rest inductionHypothesis =>
      by_cases blank : Text.isBlank layer.name
      · obtain rfl : 0 = index := by simpa [List.findIdx?_cons, blank] using first
        rw [addAll, if_pos blank, Nat.add_zero]
      · obtain ⟨later, found, rfl⟩ :
            ∃ later,
              rest.findIdx? (fun layer => Text.isBlank layer.name) = some later ∧
                later + 1 = index := by
          simpa [List.findIdx?_cons, blank] using first
        rw [addAll, if_neg blank, inductionHypothesis found, Nat.add_assoc, Nat.add_comm 1]

/-- A list of layers is refused for the first of them that has no name. -/
theorem ofLayers_eq_error_of_findIdx?
    {layers : List (Layer σ ν)}
    {index : Nat}
    (first : layers.findIdx? (fun layer => Text.isBlank layer.name) = some index) :
    ofLayers layers = .error (.configuration (.unnamedLayer index)) := by
  rw [ofLayers, addAll_eq_error_of_findIdx? first, Nat.zero_add]

end Stack

end Middleware
