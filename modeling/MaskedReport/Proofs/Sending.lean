import MaskedReport.Proofs.Rendering
import MaskedReport.Proofs.Routing

/-!
# One answer to a request

Handling a request sends what `respond` gives, in one piece and after whatever was sent before. So a
request whose target has a path is sent exactly one answer, and a failure of the endpoint sends its
own answer with nothing before it. A target with a malformed host is not answered at all:
`one_answer_iff` says that this is the only exception.
-/

set_option autoImplicit false

namespace MaskedReport.Http

/-! ## What is sent -/

/-- Sending parts adds them to what is sent. -/
theorem run_sendAll (parts sent : List Part) :
    (sendAll parts).run.run sent = (.ok (), sent ++ parts) := by
  induction parts generalizing sent with
  | nil =>
    rw [List.append_nil]
    rfl
  | cons p rest ih =>
    have hstep : (sendAll (p :: rest)).run.run sent = (sendAll rest).run.run (sent ++ [p]) := rfl
    rw [hstep, ih, List.append_assoc, List.singleton_append]

/-- What does not fail is not caught. -/
theorem run_tryCatch_of_ok {x : Handling Unit} {sent left : List Part}
    (h : x.run.run sent = (.ok (), left)) (caught : Failure → Handling Unit) :
    (tryCatch x caught).run.run sent = (.ok (), left) := by
  rw [ExceptT.run_tryCatch, StateT.run_bind, h]
  rfl

/-- Handling a path sends its answer, or the answer that tells of the failure. -/
theorem run_handlePath (e : Endpoint) (path : List Char) (principal : Value) (sent : List Part) :
    (handlePath e path principal).run.run sent =
      match routed e path principal with
      | .ok r => (.ok (), sent ++ r.parts)
      | .error f => (.ok (), sent ++ (failed f).parts) := by
  unfold handlePath
  cases routed e path principal with
  | error f => exact run_sendAll (failed f).parts sent
  | ok r => exact run_tryCatch_of_ok (run_sendAll r.parts sent) _

/-- Handling a target sends its answer, or ends with nothing sent. -/
theorem run_handleTarget (e : Endpoint) (target : List Char) (principal : Value)
    (sent : List Part) :
    (handleTarget e target principal).run.run sent =
      match answer e target principal with
      | .ok r => (.ok (), sent ++ r.parts)
      | .error f => (.error f, sent) := by
  unfold handleTarget answer
  cases pathOf target with
  | error why => rfl
  | ok path =>
    show (handlePath e (trimmed path) principal).run.run sent = _
    rw [run_handlePath]
    dsimp only
    cases routed e (trimmed path) principal with
    | error f => rfl
    | ok r => rfl

/-- Handling a request sends its answer, or ends with nothing sent. -/
theorem run_handle (e : Endpoint) (r : Request) (sent : List Part) :
    (r.handle e).run.run sent =
      match respond e r with
      | .ok answer => (.ok (), sent ++ answer.parts)
      | .error f => (.error f, sent) := by
  unfold Request.handle respond
  cases r.target? with
  | none => exact run_sendAll r.refusal.parts sent
  | some target => exact run_handleTarget e (singleSlash target) (principalOf r.headers) sent

/-! ## Statuses -/

/-- An answer made from a value has the status given. -/
theorem status_of_json {status : Nat} {v : Value} {r : Response}
    (h : Response.json status v = .ok r) : r.status = status := by
  obtain ⟨body, -, h⟩ := bind_eq_ok h
  cases h
  rfl

/-- What a path is answered with is found or not found. -/
theorem status_of_routed {e : Endpoint} {path : List Char} {principal : Value} {r : Response}
    (h : routed e path principal = .ok r) : r.status = 200 ∨ r.status = 404 := by
  unfold routed at h
  split at h
  · exact Or.inl (status_of_json h)
  split at h
  · exact Or.inr (status_of_json h)
  split at h
  · obtain ⟨report, -, h⟩ := bind_eq_ok h
    exact Or.inl (status_of_json h)
  split at h
  · obtain ⟨found, -, h⟩ := bind_eq_ok h
    cases found with
    | some entry => exact Or.inl (status_of_json h)
    | none => exact Or.inr (status_of_json h)
  · exact Or.inr (status_of_json h)

/-- One item stands between brackets as it is. -/
theorem enclose_oneLine_singleton (depth : Nat) (opening closing : String) (item : Text) :
    Json.enclose Json.oneLine depth opening closing [item] = opening ++ item ++ closing := by
  have hend : ∀ n, Json.lineEnd Json.oneLine n = "" := fun _ => rfl
  rw [Json.enclose, Text.intercalate_singleton, hend, hend, Text.append_empty, Text.append_empty]
  rfl

/-- The answer that tells of a failure is the object with its message. -/
theorem json_failed (f : Failure) :
    Response.json 500 (.map [(.text "error", .text f.message)]) = .ok (failed f) := by
  have hopening : Text.ofString "\x7b\"error\": " =
      Text.ofString "\x7b" ++ (Json.quoted "error" ++ Text.ofString ": ") := by decide
  have hwritten : Json.write Json.oneLine 0 (.map [(.text "error", .text f.message)]) =
      .ok (Json.enclose Json.oneLine 0 "\x7b" "\x7d"
        [Json.quoted "error" ++ Text.ofString ": " ++ Json.quoted f.message]) := rfl
  have hplain : (Json.quoted (Text.ofString f.message)).isPlain = true := by simp
  have hbody : Json.text Json.oneLine (.map [(.text "error", .text f.message)]) =
      .ok (failed f).body := by
    rw [Json.text, hwritten]
    apply Json.encoded_eq_ok_iff.mpr
    rw [enclose_oneLine_singleton, failed, Text.ofString_append, Text.ofString_append,
      Text.ofString_string hplain, hopening]
    simp only [Text.append_assoc]
  rw [Response.json, hbody]
  rfl

/-! ## One answer -/

/-- A request is sent exactly one answer, of status 200, 404 or 500, if and only if its target has a
path. Where the endpoint fails the answer is the object with the message, and nothing goes before
it. Where the target has no path nothing is sent, and its fault ends the handling. -/
theorem one_answer_iff {r : Request} {target : List Char} (htarget : r.target? = some target)
    (e : Endpoint) (sent : List Part) :
    ((∃ answer : Response, (r.handle e).run.run sent = (.ok (), sent ++ answer.parts) ∧
        (answer.status = 200 ∨ answer.status = 404 ∨ answer.status = 500)) ↔
      ∃ path, pathOf (singleSlash target) = .ok path) ∧
    (∀ path f, pathOf (singleSlash target) = .ok path →
      routed e (trimmed path) (principalOf r.headers) = .error f →
      ∃ answer, Response.json 500 (.map [(.text "error", .text f.message)]) = .ok answer ∧
        (r.handle e).run.run sent = (.ok (), sent ++ answer.parts)) ∧
    ∀ why, pathOf (singleSlash target) = .error why →
      (r.handle e).run.run sent = (.error (.target why), sent) := by
  have hfails : ∀ path f, pathOf (singleSlash target) = .ok path →
      routed e (trimmed path) (principalOf r.headers) = .error f →
      (r.handle e).run.run sent = (.ok (), sent ++ (failed f).parts) := by
    intro path f hpath hf
    rw [run_handle, respond_of_path htarget hpath, hf]
  have hfault : ∀ why, pathOf (singleSlash target) = .error why →
      (r.handle e).run.run sent = (.error (.target why), sent) := by
    intro why hwhy
    have hrespond : respond e r = .error (.target why) := by
      simp only [respond, htarget, answer, hwhy]
    rw [run_handle, hrespond]
  refine ⟨⟨?_, ?_⟩, ?_, hfault⟩
  · rintro ⟨answer, hsent, -⟩
    cases hpath : pathOf (singleSlash target) with
    | ok path => exact ⟨path, rfl⟩
    | error why =>
      rw [hfault why hpath] at hsent
      cases hsent
  · rintro ⟨path, hpath⟩
    cases hrouted : routed e (trimmed path) (principalOf r.headers) with
    | ok answer =>
      refine ⟨answer, ?_, (status_of_routed hrouted).imp_right Or.inl⟩
      rw [run_handle, respond_of_path htarget hpath, hrouted]
    | error f => exact ⟨failed f, hfails path f hpath hrouted, Or.inr (Or.inr rfl)⟩
  · intro path f hpath hf
    exact ⟨failed f, json_failed f, hfails path f hpath hf⟩

/-- A request for the full report. -/
def reportRequest : Request where
  line := Utf8.encode "GET /env HTTP/1.0".toList

/-- The request is for the path of the full report. -/
theorem target_reportRequest : reportRequest.target? = some reportPath := by decide

/-- The path of the full report is read as itself. -/
theorem pathOf_reportPath : pathOf (singleSlash reportPath) = .ok reportPath := by decide

/-- The path of the full report ends in no slash. -/
theorem trimmed_reportPath : trimmed reportPath = reportPath := by decide

/-- A hook that fails. -/
theorem one_answer_iff_policy_down :
    let e : Endpoint := {
      registry := {}
      hook := some fun _ => .error (.refused "policy store down")
      enabled := true }
    ∃ answer : Response, answer.status = 500 ∧
      answer.body = "\x7b\"error\": \"policy store down\"\x7d" ∧
      (reportRequest.handle e).run.run [] = (.ok (), answer.parts) := by
  intro e
  have hfails : routed e (trimmed reportPath) (principalOf reportRequest.headers) =
      .error (.refused "policy store down") := by
    rw [trimmed_reportPath]
    rfl
  obtain ⟨answer, hanswer, hsent⟩ :=
    (one_answer_iff target_reportRequest e []).2.1 _ _ pathOf_reportPath hfails
  cases hanswer
  exact ⟨_, rfl, by decide +kernel, hsent⟩

/-- Not every request is sent an answer: the host of this target lacks a bracket. -/
theorem not_forall_one_answer :
    ¬ ∀ (e : Endpoint) (r : Request) (target : List Char) (sent : List Part),
      r.target? = some target →
      ∃ answer : Response, (r.handle e).run.run sent = (.ok (), sent ++ answer.parts) ∧
        (answer.status = 200 ∨ answer.status = 404 ∨ answer.status = 500) := by
  intro hall
  let r : Request := { line := Utf8.encode "GET http://[::1/env HTTP/1.0".toList }
  obtain ⟨answer, hsent, -⟩ :=
    hall { registry := {} } r "http://[::1/env".toList [] (by decide +kernel)
  have hrespond : respond { registry := {} } r = .error (.target .brackets) := by decide +kernel
  rw [run_handle, hrespond] at hsent
  cases hsent

end MaskedReport.Http
