import MaskedReport.Proofs.FiniteDoubles
import MaskedReport.Proofs.Serving

/-!
# Bodies of answers

The answer to a request is a value, written: what is served for its path, or the message of a
failure. So its body is a JSON text if and only if what is served, where it can be written, holds
finite doubles only: `Http.body_is_json_iff`. Documents can hold others, so not every body is one:
`Http.not_forall_body_is_json`.
-/

set_option autoImplicit false

namespace MaskedReport.Http

/-! ## What is served -/

/-- What is served for a path: a status and a value. -/
def served (e : Endpoint) (path : List Char) (principal : Value) : Except Failure (Nat × Value) :=
  if path = "/health".toList then
    .ok (200, .map [(.text "status", .text "ok"), (.text "enabled", .bool e.enabled)])
  else if !e.enabled then .ok (404, notFound)
  else if path = reportPath then do return (200, (← e.report principal).toValue)
  else if (reportPath ++ ['/']).isPrefixOf path then do
    let name := String.ofList (unquote (path.drop (reportPath.length + 1)))
    match ← e.properties? (.text name) principal with
    | some entry => return (200, entry.toValue)
    | none =>
      return (404, .map [(.text "error", .text "not found"), (.text "property_source", .text name)])
  else .ok (404, notFound)

/-- The answer for a path is what is served, written. -/
theorem routed_eq_served (e : Endpoint) (path : List Char) (principal : Value) :
    routed e path principal =
      served e path principal >>= fun content => Response.json content.1 content.2 := by
  unfold routed served
  split
  · rfl
  split
  · rfl
  split
  · cases e.report principal with
    | error f => rfl
    | ok r => rfl
  split
  · dsimp only
    generalize e.properties? _ principal = found
    rcases found with f | _ | entry
    · rfl
    · rfl
    · rfl
  · rfl

/-- The path of the full report serves the report. -/
theorem served_reportPath {e : Endpoint} (henabled : e.enabled = true) {principal : Value}
    {report : Report} (hreport : e.report principal = .ok report) :
    served e reportPath principal = .ok (200, report.toValue) := by
  have hhealth : ¬ reportPath = "/health".toList := by decide
  rw [served, if_neg hhealth, henabled, if_neg (by decide), if_pos rfl, hreport]
  rfl

/-- The body that tells of a failure is JSON. -/
theorem isText_failed (f : Failure) : Json.IsText (failed f).body.toList := by
  obtain ⟨body, hbody, h⟩ := bind_eq_ok (json_failed f)
  have hsame : (failed f).body = body := by rw [← Except.ok.inj h]
  rw [hsame]
  exact (Json.isText_iff hbody).mpr rfl

/-- An answer made from a value says that it is JSON. -/
theorem contentType_of_json {status : Nat} {v : Value} {r : Response}
    (h : Response.json status v = .ok r) : r.contentType = "application/json" := by
  obtain ⟨body, -, h⟩ := bind_eq_ok h
  cases h
  rfl

/-- Every answer for a target says that it is JSON. -/
theorem contentType_of_answer {e : Endpoint} {target : List Char} {principal : Value}
    {answer : Response} (h : Http.answer e target principal = .ok answer) :
    answer.contentType = "application/json" := by
  unfold Http.answer at h
  split at h
  · cases h
  rw [routed_eq_served] at h
  split at h
  case h_1 r hr =>
    cases h
    obtain ⟨content, -, hjson⟩ := bind_eq_ok hr
    exact contentType_of_json hjson
  case h_2 f hf =>
    cases h
    rfl

/-- The body of the answer for a path is a JSON text iff what is served, where it can be written,
holds finite doubles only. -/
theorem isText_answer_iff {e : Endpoint} {target path : List Char} {principal : Value}
    {answer : Response} (hpath : pathOf target = .ok path)
    (h : Http.answer e target principal = .ok answer) :
    Json.IsText answer.body.toList ↔
      ∀ status v, served e (trimmed path) principal = .ok (status, v) → v.isWritable = true →
        v.isFinite = true := by
  rw [Http.answer, hpath] at h
  dsimp only at h
  cases hserved : served e (trimmed path) principal with
  | error f =>
    have hrouted : routed e (trimmed path) principal = .error f := by
      rw [routed_eq_served, hserved]
      rfl
    rw [hrouted] at h
    cases h
    refine iff_of_true (isText_failed f) ?_
    rintro _ _ ⟨⟩
  | ok content =>
    obtain ⟨status, v⟩ := content
    have hrouted : routed e (trimmed path) principal = Response.json status v := by
      rw [routed_eq_served, hserved]
      rfl
    rw [hrouted] at h
    cases hbody : Json.text Json.oneLine v with
    | error f =>
      have hjson : Response.json status v = .error f := by
        rw [Response.json, hbody]
        rfl
      have hunwritable : v.isWritable = false := by
        rw [← Json.isOk_text Json.oneLine v]
        exact congrArg Except.isOk hbody
      rw [hjson] at h
      cases h
      refine iff_of_true (isText_failed f) ?_
      rintro _ _ ⟨⟩ hwritable
      rw [hunwritable] at hwritable
      cases hwritable
    | ok body =>
      have hjson : Response.json status v =
          .ok { status, contentType := "application/json", body } := by
        rw [Response.json, hbody]
        rfl
      have hwritable : v.isWritable = true := (Json.exists_text_iff Json.oneLine v).mp ⟨body, hbody⟩
      rw [hjson] at h
      cases h
      rw [Json.isText_iff hbody]
      constructor
      · rintro hfinite _ _ ⟨⟩ _
        exact hfinite
      · intro hall
        exact hall status v rfl hwritable

/-- The answer to a request is sent with the length of its body in UTF-8, and the body is a JSON
text iff what is served for the request's path, where it can be written, holds finite doubles only.
What tells of a failure, of an unknown name or path, or of the health of the service is always one.
-/
theorem body_is_json_iff {r : Request} {target : List Char} (htarget : r.target? = some target)
    {e : Endpoint} {answer : Response} (hanswer : respond e r = .ok answer) (sent : List Part) :
    (r.handle e).run.run sent = (.ok (), sent ++ [.status answer.status,
        .header "Content-Type" "application/json",
        .header "Content-Length" (toString (Utf8.encode answer.body.toList).length), .headersEnd,
        .body answer.body]) ∧
      ∃ path, pathOf (singleSlash target) = .ok path ∧
        (Json.IsText answer.body.toList ↔
          ∀ status v, served e (trimmed path) (principalOf r.headers) = .ok (status, v) →
            v.isWritable = true → v.isFinite = true) := by
  have hsent := run_handle e r sent
  rw [hanswer] at hsent
  have hmade : Http.answer e (singleSlash target) (principalOf r.headers) = .ok answer := by
    rw [respond, htarget] at hanswer
    exact hanswer
  have hparts : answer.parts = [.status answer.status,
      .header "Content-Type" "application/json",
      .header "Content-Length" (toString (Utf8.encode answer.body.toList).length), .headersEnd,
      .body answer.body] := by
    rw [Response.parts, contentType_of_answer hmade, Response.contentLength]
  refine ⟨by rw [← hparts]; exact hsent, ?_⟩
  cases hpath : pathOf (singleSlash target) with
  | error why =>
    rw [Http.answer, hpath] at hmade
    cases hmade
  | ok path => exact ⟨path, rfl, isText_answer_iff hpath hmade⟩

/-- An endpoint that shows a double that is not a number. -/
def nanEndpoint : Endpoint where
  registry := {
    sources := [{
      name := .text "a"
      order := .int 0
      convention := .dotted
      contents := .stored [(.text "ratio", .real .nan)] }] }
  hook := some (Masking.hook { mode := .none, patterns := [] })
  enabled := true

/-- Its report. -/
def nanReport : Report where
  activeNames := []
  packages := []
  entries := [{
    name := .text "a"
    order := .int 0
    convention := .dotted
    properties := [(.text "ratio", .real .nan)] }]

/-- What it answers to a request for the full report. -/
def nanAnswer : Response where
  status := 200
  contentType := "application/json"
  body :=
    "\x7b\"activeEnvironments\": [], \"packages\": [], \"propertySources\": [" ++
      "\x7b\"name\": \"a\", \"order\": 0, \"convention\": \"JAVA_PROPERTIES\", " ++
      "\"properties\": \x7b\"ratio\": NaN\x7d\x7d]\x7d"

/-- The report of that endpoint is the one with what is no number. -/
theorem report_nanEndpoint : nanEndpoint.report .null = .ok nanReport := by
  rw [Endpoint.report]
  show Report.full _ nanEndpoint.registry.sources (.tuple []) (.tuple []) = _
  rw [Report.full, Report.sorted, nanEndpoint, List.mergeSort_singleton]
  rfl

/-- The request names nobody who asks. -/
theorem principalOf_reportRequest : principalOf reportRequest.headers = .null := rfl

/-- The endpoint answers with the name of what is no number in the body. -/
theorem respond_nanEndpoint : respond nanEndpoint reportRequest = .ok nanAnswer := by
  have hjson : Response.json 200 nanReport.toValue = .ok nanAnswer := by decide +kernel
  rw [respond_of_path target_reportRequest pathOf_reportPath, trimmed_reportPath,
    principalOf_reportRequest, routed_report rfl report_nanEndpoint, hjson]

/-- Its answer is sent with its length, but is no JSON text. -/
theorem body_is_json_iff_nan :
    (reportRequest.handle nanEndpoint).run.run [] = (.ok (), [.status 200,
        .header "Content-Type" "application/json", .header "Content-Length" "153", .headersEnd,
        .body nanAnswer.body]) ∧
      ¬ Json.IsText nanAnswer.body.toList := by
  obtain ⟨hsent, path, hpath, htext⟩ :=
    body_is_json_iff target_reportRequest respond_nanEndpoint []
  have hlength : toString (Utf8.encode nanAnswer.body.toList).length = "153" := by decide +kernel
  have hserved : served nanEndpoint (trimmed reportPath) (principalOf reportRequest.headers) =
      .ok (200, nanReport.toValue) := by
    rw [trimmed_reportPath, principalOf_reportRequest, served_reportPath rfl report_nanEndpoint]
  rw [hlength] at hsent
  rw [pathOf_reportPath] at hpath
  cases hpath
  have hwritable : nanReport.toValue.isWritable = true := by decide +kernel
  refine ⟨hsent, fun hbody => ?_⟩
  exact absurd (htext.mp hbody 200 nanReport.toValue hserved hwritable) (by decide)

/-- Not every body is a JSON text: a source may hold a double that is not a number. -/
theorem not_forall_body_is_json :
    ¬ ∀ (e : Endpoint) (r : Request) (target : List Char) (answer : Response),
      r.target? = some target → respond e r = .ok answer → Json.IsText answer.body.toList := by
  intro hall
  have hbody := hall nanEndpoint reportRequest reportPath nanAnswer target_reportRequest
    respond_nanEndpoint
  have hwritten : Json.text Json.oneLine nanReport.toValue = .ok nanAnswer.body := by
    decide +kernel
  exact absurd ((Json.isText_iff hwritten).mp hbody) (by decide)

end MaskedReport.Http
