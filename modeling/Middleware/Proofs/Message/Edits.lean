import Middleware.Message.Request
import Middleware.Message.Response
import Middleware.Proofs.Message.Headers

namespace Middleware

/-!
# Building messages

A message is built by edits, one after another. Header fields add up, so the first field
of a name counts. Metadata, the body and the status are replaced, so the last edit
counts, and for metadata the last one of exactly the key. Edits of different parts of a
request do not depend on each other: only the order among the edits of each part counts.
-/

/-- The last value that is extracted, where there is one more element in front. -/
theorem getLast?_filterMap_cons
    {α β : Type}
    (extract : α → Option β)
    (first : α)
    (rest : List α) :
    ((first :: rest).filterMap extract).getLast? =
      (rest.filterMap extract).getLast?.or (extract first) := by
  cases found : extract first with
  | none => rw [List.filterMap_cons_none found, Option.or_none]
  | some value =>
      rw [List.filterMap_cons_some found, List.getLast?_cons]
      cases (rest.filterMap extract).getLast? <;> rfl

namespace Headers

/-- The laws of a look-up among fields: the first one of the name, up to the case of ASCII letters. -/
structure LooksUp
    (fields : List (String × String))
    (look : String → Option String) :
    Prop where
  finds : ∀ name found, look name = found ↔ Finds fields name found
  ignoresCase : ∀ name variant, SameUpToCase name variant → look variant = look name

theorem looksUp_get? (headers : Headers) : LooksUp headers.fields headers.get? where
  finds := headers.get?_eq_iff_finds
  ignoresCase _ _ := headers.get?_eq_of_sameUpToCase

end Headers

namespace Request

/-- A part of a request that edits change. -/
inductive Part where
  | headers
  | metadata (key : String)
  | body
deriving DecidableEq

/-- One edit of a request. -/
inductive Edit where
  | header (name value : String)
  | metadata (key value : String)
  | body (content : List UInt8)
deriving DecidableEq

namespace Edit

/-- The part that an edit changes. -/
def part : Edit → Part
  | .header _ _ => .headers
  | .metadata key _ => .metadata key
  | .body _ => .body

/-- The header field that an edit adds. -/
def field? : Edit → Option (String × String)
  | .header name value => some (name, value)
  | .metadata _ _ | .body _ => none

/-- The value that an edit gives to a key of the metadata. -/
def metadata? (key : String) : Edit → Option String
  | .metadata given value => if given = key then some value else none
  | .header _ _ | .body _ => none

/-- The body that an edit puts in place. -/
def body? : Edit → Option (List UInt8)
  | .body content => some content
  | .header _ _ | .metadata _ _ => none

/-- What edits give to one part is given by the edits of that part. -/
theorem filterMap_filter_part
    {β : Type}
    {part : Part}
    {extract : Edit → Option β}
    (ofPart : ∀ edit, edit.part ≠ part → extract edit = none)
    (edits : List Edit) :
    (edits.filter (·.part = part)).filterMap extract = edits.filterMap extract := by
  induction edits with
  | nil => rfl
  | cons edit rest inductionHypothesis =>
      by_cases same : edit.part = part
      · rw [List.filter_cons_of_pos (by simpa using same), List.filterMap_cons,
          List.filterMap_cons, inductionHypothesis]
      · rw [List.filter_cons_of_neg (by simpa using same),
          List.filterMap_cons_none (ofPart edit same), inductionHypothesis]

end Edit

/-- Carry out one edit. -/
def edit
    (request : Request) :
    Edit →
    Request
  | .header name value => request.addHeader name value
  | .metadata key value => request.attach key value
  | .body content => request.replaceBody content

/-- Carry out edits in order. -/
def editAll
    (request : Request)
    (edits : List Edit) :
    Request :=
  edits.foldl edit request

section Edit

variable (request : Request)
variable (edit : Edit)

theorem fields_edit :
    (request.edit edit).headers.fields = request.headers.fields ++ edit.field?.toList := by
  cases edit with
  | header name value => rfl
  | metadata key value => exact (List.append_nil _).symm
  | body content => exact (List.append_nil _).symm

theorem metadata?_edit (key : String) :
    (request.edit edit).metadata? key = (edit.metadata? key).or (request.metadata? key) := by
  cases edit with
  | header name value => rfl
  | metadata given value =>
      have inserted := Dictionary.get?_insert request.metadata given key value
      rw [Edit.metadata?]
      refine inserted.trans ?_
      by_cases same : given = key
      · simp [same]
      · simp [same, metadata?]
  | body content => rfl

theorem body_edit : (request.edit edit).body = edit.body?.getD request.body := by
  cases edit <;> rfl

theorem method_edit : (request.edit edit).method = request.method := by
  cases edit <;> rfl

theorem url_edit : (request.edit edit).url = request.url := by
  cases edit <;> rfl

end Edit

section EditAll

variable (start : Request)
variable (edits : List Edit)

/-- Header fields are added after those present, in the order of the edits. -/
theorem fields_editAll :
    (start.editAll edits).headers.fields =
      start.headers.fields ++ edits.filterMap Edit.field? := by
  induction edits generalizing start with
  | nil => exact (List.append_nil _).symm
  | cons edit rest inductionHypothesis =>
      have restAdded := inductionHypothesis (start.edit edit)
      rw [fields_edit, List.append_assoc] at restAdded
      refine restAdded.trans (congrArg _ ?_)
      cases found : edit.field? with
      | none => rw [List.filterMap_cons_none found]; rfl
      | some field => rw [List.filterMap_cons_some found]; rfl

/-- The last edit of exactly a key gives its metadata. -/
theorem metadata?_editAll (key : String) :
    (start.editAll edits).metadata? key =
      (edits.filterMap (Edit.metadata? key)).getLast?.or (start.metadata? key) := by
  induction edits generalizing start with
  | nil => rfl
  | cons edit rest inductionHypothesis =>
      have restGiven := inductionHypothesis (start.edit edit)
      rw [metadata?_edit] at restGiven
      rw [getLast?_filterMap_cons, Option.or_assoc]
      exact restGiven

/-- The last body put in place is the body. -/
theorem body_editAll :
    (start.editAll edits).body =
      (edits.filterMap Edit.body?).getLast?.getD start.body := by
  induction edits generalizing start with
  | nil => rfl
  | cons edit rest inductionHypothesis =>
      have restPut := inductionHypothesis (start.edit edit)
      rw [body_edit] at restPut
      rw [getLast?_filterMap_cons, Option.getD_or]
      exact restPut

theorem method_editAll : (start.editAll edits).method = start.method := by
  induction edits generalizing start with
  | nil => rfl
  | cons edit rest inductionHypothesis =>
      exact (inductionHypothesis (start.edit edit)).trans (start.method_edit edit)

theorem url_editAll : (start.editAll edits).url = start.url := by
  induction edits generalizing start with
  | nil => rfl
  | cons edit rest inductionHypothesis =>
      exact (inductionHypothesis (start.edit edit)).trans (start.url_edit edit)

end EditAll

/-- Requests whose parts are the same are equal. -/
theorem eq_of_parts_eq
    {left right : Request}
    (sameMethod : left.method = right.method)
    (sameUrl : left.url = right.url)
    (sameFields : left.headers.fields = right.headers.fields)
    (sameBody : left.body = right.body)
    (sameMetadata : ∀ key, left.metadata? key = right.metadata? key) :
    left = right := by
  rcases left with ⟨method, url, ⟨fields⟩, body, metadata⟩
  rcases right with ⟨otherMethod, otherUrl, ⟨otherFields⟩, otherBody, otherMetadata⟩
  obtain rfl : metadata = otherMetadata := Dictionary.ext_get? sameMetadata
  cases sameMethod
  cases sameUrl
  cases sameFields
  cases sameBody
  rfl

/-- Edits come to the same if those of each part are the same, in the same order. -/
theorem editAll_eq_of_filter_part_eq
    (start : Request)
    {edits others : List Edit}
    (sameByPart : ∀ part, others.filter (·.part = part) = edits.filter (·.part = part)) :
    start.editAll others = start.editAll edits := by
  have sameExtracted :
      ∀ {β : Type} (part : Part) (extract : Edit → Option β),
        (∀ edit, edit.part ≠ part → extract edit = none) →
          others.filterMap extract = edits.filterMap extract := by
    intro β part extract ofPart
    rw [← Edit.filterMap_filter_part ofPart others, sameByPart,
      Edit.filterMap_filter_part ofPart edits]
  apply eq_of_parts_eq
  case sameMethod => rw [method_editAll, method_editAll]
  case sameUrl => rw [url_editAll, url_editAll]
  case sameFields =>
    rw [fields_editAll, fields_editAll]
    refine congrArg _ (sameExtracted .headers Edit.field? ?_)
    intro edit other
    cases edit with
    | header name value => exact (other rfl).elim
    | metadata key value => rfl
    | body content => rfl
  case sameBody =>
    rw [body_editAll, body_editAll]
    have sameBodies : others.filterMap Edit.body? = edits.filterMap Edit.body? := by
      refine sameExtracted .body Edit.body? ?_
      intro edit other
      cases edit with
      | header name value => rfl
      | metadata key value => rfl
      | body content => exact (other rfl).elim
    rw [sameBodies]
  case sameMetadata =>
    intro key
    rw [metadata?_editAll, metadata?_editAll]
    have sameValues :
        others.filterMap (Edit.metadata? key) = edits.filterMap (Edit.metadata? key) := by
      refine sameExtracted (.metadata key) (Edit.metadata? key) ?_
      intro edit other
      cases edit with
      | header name value => rfl
      | metadata given value =>
          refine if_neg ?_
          rintro rfl
          exact other rfl
      | body content => rfl
    rw [sameValues]

end Request

namespace Response

/-- One edit of a response that is being built. -/
inductive Edit where
  | header (name value : String)
  | status (code : Status)
deriving DecidableEq

namespace Edit

/-- The header field that an edit adds. -/
def field? : Edit → Option (String × String)
  | .header name value => some (name, value)
  | .status _ => none

/-- The status that an edit sets. -/
def status? : Edit → Option Status
  | .header _ _ => none
  | .status code => some code

end Edit

/-- Carry out one edit. -/
def edit
    (response : Response) :
    Edit →
    Response
  | .header name value => response.addHeader name value
  | .status code => response.withStatus code

/-- The response that edits build for a location, with a body put in at the end. -/
def build
    (url : String)
    (edits : List Edit)
    (body : List UInt8) :
    Response :=
  (edits.foldl edit (.plain url)).replaceBody body

/-- Header fields add up in the order of the edits, and the last status counts. -/
theorem foldl_edit_eq
    (start : Response)
    (edits : List Edit) :
    edits.foldl edit start =
      { start with
        headers := ⟨start.headers.fields ++ edits.filterMap Edit.field?⟩
        status := (edits.filterMap Edit.status?).getLast?.getD start.status } := by
  induction edits generalizing start with
  | nil =>
      rcases start with ⟨url, status, ⟨fields⟩, body⟩
      simp
  | cons edit rest inductionHypothesis =>
      rw [List.foldl_cons, inductionHypothesis, getLast?_filterMap_cons, Option.getD_or]
      cases edit with
      | header name value =>
          simp [Response.edit, addHeader, Edit.field?, Edit.status?]
      | status code =>
          simp [Response.edit, withStatus, Edit.field?, Edit.status?, List.filterMap_cons]

theorem build_eq
    (url : String)
    (edits : List Edit)
    (body : List UInt8) :
    build url edits body =
      ⟨url, (edits.filterMap Edit.status?).getLast?.getD .ok,
        ⟨edits.filterMap Edit.field?⟩, body⟩ := by
  rw [build, foldl_edit_eq]
  rfl

end Response

/--
A request that is built by edits has the fields of the start, followed by those added,
all of them in order. A look-up finds the first field of the name, up to the case of ASCII
letters, and later edits do not change what it has found. Metadata is what the last
edit of exactly its key gives, and the body is the last one put in; method and location
stay. Edits of different parts may change places: what comes of them depends on the
order among the edits of each part alone. The same holds of the fields of a response
that is built by edits, and its status is the last one set.
-/
theorem messages_tell_edits :
    (∀ (start : Request) (edits : List Request.Edit),
      let request := start.editAll edits
      request.headers.fields = start.headers.fields ++ edits.filterMap Request.Edit.field? ∧
        Headers.LooksUp request.headers.fields request.header? ∧
        (∀ later name,
          (request.header? name).isSome →
            (request.editAll later).header? name = request.header? name) ∧
        (∀ key,
          request.metadata? key =
            (edits.filterMap (Request.Edit.metadata? key)).getLast?.or (start.metadata? key)) ∧
        request.body = (edits.filterMap Request.Edit.body?).getLast?.getD start.body ∧
        request.method = start.method ∧
        request.url = start.url ∧
        ∀ others : List Request.Edit,
          (∀ part, others.filter (·.part = part) = edits.filter (·.part = part)) →
            start.editAll others = request) ∧
      ∀ (url : String) (edits : List Response.Edit) (body : List UInt8),
        let response := Response.build url edits body
        response.headers.fields = edits.filterMap Response.Edit.field? ∧
          Headers.LooksUp response.headers.fields response.header? ∧
          (∀ later name,
            (response.header? name).isSome →
              (Response.build url (edits ++ later) body).header? name =
                response.header? name) ∧
          response.status = (edits.filterMap Response.Edit.status?).getLast?.getD .ok ∧
          response.url = url ∧
          response.body = body := by
  constructor
  · intro start edits request
    refine
      ⟨start.fields_editAll edits, request.headers.looksUp_get?, ?_, start.metadata?_editAll edits,
        start.body_editAll edits, start.method_editAll edits, start.url_editAll edits,
        fun _ => start.editAll_eq_of_filter_part_eq⟩
    intro later name found
    exact Headers.get?_eq_of_isSome (request.fields_editAll later) found
  · intro url edits body response
    have built := Response.build_eq url edits body
    have fields_build :
        ∀ edits, (Response.build url edits body).headers.fields =
          edits.filterMap Response.Edit.field? := by
      intro edits
      rw [Response.build_eq]
    refine
      ⟨fields_build edits, response.headers.looksUp_get?, ?keepsFound, ?lastStatus, ?sameUrl,
        ?sameBody⟩
    case keepsFound =>
      intro later name found
      have longer :
          (Response.build url (edits ++ later) body).headers.fields =
            response.headers.fields ++ later.filterMap Response.Edit.field? := by
        rw [fields_build, fields_build, List.filterMap_append]
      exact Headers.get?_eq_of_isSome longer found
    case lastStatus => exact congrArg Response.status built
    case sameUrl => exact congrArg Response.url built
    case sameBody => exact congrArg Response.body built

/--
Two fields of one name in different cases, the first of which counts, and two values of
one key, the second of which does. A field of another script does not match in another
case.
-/
theorem messages_tell_edits_shadowed :
    let edits : List Request.Edit :=
      [.header "Accept" "a", .metadata "depth" "1", .header "ACCEPT" "b", .metadata "depth" "2",
        .header "É" "c"]
    let others : List Request.Edit :=
      [.metadata "depth" "1", .metadata "depth" "2", .header "Accept" "a", .header "ACCEPT" "b",
        .header "É" "c"]
    let request := (Request.get "/").editAll edits
    Headers.SameUpToCase "accept" "aCCEPT" ∧
      request.header? "aCCEPT" = request.header? "accept" ∧
      request.header? "accept" = some "a" ∧
      request.header? "é" = none ∧
      (request.header? "accept").isSome ∧
      (request.editAll [.header "accept" "d"]).header? "accept" = some "a" ∧
      request.metadata? "depth" = some "2" ∧
      (∀ part, others.filter (·.part = part) = edits.filter (·.part = part)) ∧
      (Request.get "/").editAll others = request := by
  intro edits others request
  obtain ⟨_, looksUp, keepsFound, metadata, _, _, _, reordered⟩ :=
    messages_tell_edits.1 (.get "/") edits
  have sameUpToCase : Headers.SameUpToCase "accept" "aCCEPT" :=
    Headers.sameName_iff.mp (by decide)
  have found : request.header? "accept" = some "a" := by decide
  have isFound : (request.header? "accept").isSome := by rw [found]; rfl
  have sameByPart : ∀ part, others.filter (·.part = part) = edits.filter (·.part = part) := by
    intro part
    cases part with
    | headers => rfl
    | metadata key => by_cases same : "depth" = key <;> simp [edits, others, Request.Edit.part, same]
    | body => rfl
  exact
    ⟨sameUpToCase, looksUp.ignoresCase _ _ sameUpToCase, found, by decide, isFound,
      (keepsFound _ _ isFound).trans found, metadata "depth", sameByPart,
      reordered others sameByPart⟩

end Middleware
