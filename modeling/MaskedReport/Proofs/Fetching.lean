import MaskedReport.Proofs.Completeness
import MaskedReport.Proofs.Serving
import MaskedReport.Proofs.SingleSource

/-!
# Fetching what the full report lists

Where an endpoint from settings answers with its full report, it answers a request for the source of
a name with the entry of that name: `listed_entries_fetched`. So each entry can be fetched by its
name if that is a text. Settings take names of other kinds as they are, and such an entry is listed
but cannot be fetched: `listed_entry_not_fetched`.
-/

set_option autoImplicit false

namespace MaskedReport

/-- In a registry from settings a name that is a text comes once. -/
theorem Settings.textsOnce_registry {w : World} {given : Option Value} {settings : Settings}
    {r : Registry} (h : settings.registry w given = .ok r) : Registry.TextsOnce r.sources := by
  obtain ⟨base, documents, own, -, -, -, rfl⟩ := registry_ok h
  exact Registry.textsOnce_of_registered _ rfl _

namespace Http

variable {e : Endpoint} {r s : Request} {target path : List Char} {answer : Response}

/-- What is served with status 200 is what the route gives. -/
theorem routed_of_served (htarget : r.target? = some target)
    (hpath : pathOf (singleSlash target) = .ok path) (hanswer : respond e r = .ok answer)
    (hserved : answer.status = 200) :
    routed e (trimmed path) (principalOf r.headers) = .ok answer := by
  rw [respond_of_path htarget hpath] at hanswer
  cases hrouted : routed e (trimmed path) (principalOf r.headers) with
  | ok found =>
    rw [hrouted] at hanswer
    exact hanswer
  | error f =>
    rw [hrouted] at hanswer
    cases hanswer
    cases hserved

/-- An answer that is the full report is made of a report that the endpoint gives. -/
theorem exists_report_of_served (henabled : e.enabled = true) (htarget : r.target? = some target)
    (hpath : pathOf (singleSlash target) = .ok path) (hroute : trimmed path = reportPath)
    (hanswer : respond e r = .ok answer) (hserved : answer.status = 200) :
    ∃ report, e.report (principalOf r.headers) = .ok report ∧
      Response.json 200 report.toValue = .ok answer := by
  have hrouted := routed_of_served htarget hpath hanswer hserved
  rw [hroute, routed_reportPath henabled] at hrouted
  exact bind_eq_ok hrouted

/-- A value that can be written is answered with any status. -/
theorem exists_json {v : Value} (h : v.isWritable = true) (status : Nat) :
    ∃ found, Response.json status v = .ok found := by
  rw [← isOk_json status] at h
  cases hjson : Response.json status v with
  | error f =>
    rw [hjson] at h
    cases h
  | ok found => exact ⟨found, rfl⟩

/-- Each entry of a report that is answered can be answered by itself. -/
theorem exists_json_entry {report : Report} (h : Response.json 200 report.toValue = .ok answer)
    {entry : Entry} (hentry : entry ∈ report.entries) :
    ∃ found, Response.json 200 entry.toValue = .ok found := by
  have hreport : report.toValue.isWritable = true := by
    rw [← isOk_json 200, h]
    rfl
  exact exists_json ((report.isWritable_toValue_iff.mp hreport).2.2 entry hentry) 200

/-- A request for the source without a name is one for the full report. -/
theorem respond_sourceTarget_empty (htarget : r.target? = some target)
    (hpath : pathOf (singleSlash target) = .ok path) (hroute : trimmed path = reportPath)
    (hs : s.target? = some (sourceTarget ""))
    (hprincipal : principalOf s.headers = principalOf r.headers) : respond e s = respond e r := by
  have htrimmed : trimmed (sourceTarget "") = reportPath := by decide +kernel
  rw [respond_of_path htarget hpath, respond_of_path hs (pathOf_sourceTarget ""), htrimmed, hroute,
    hprincipal]

/-- Where an endpoint that settings give answers with its full report, the report on a name is the
entry of that name. A request for the source of a name, by whoever got the full report, is answered
with the entry of that name, and with what is answered to unknown names if there is none. -/
theorem listed_entries_fetched {w : World} {v : Value} {given : Option Value}
    (h : Settings.endpointOfValue w v given = .ok e) (henabled : e.enabled = true)
    (htarget : r.target? = some target) (hpath : pathOf (singleSlash target) = .ok path)
    (hroute : trimmed path = reportPath) (hanswer : respond e r = .ok answer)
    (hserved : answer.status = 200) :
    ∃ report, e.report (principalOf r.headers) = .ok report ∧
      Response.json 200 report.toValue = .ok answer ∧
      ∀ (name : String) (s : Request), s.target? = some (sourceTarget name) →
        principalOf s.headers = principalOf r.headers →
        (∀ entry ∈ report.entries,
          e.properties? (.text name) (principalOf s.headers) = .ok (some entry) ↔
            entry.name = .text name) ∧
        (name ≠ "" → ∀ entry ∈ report.entries, entry.name = .text name →
          ∃ found, Response.json 200 entry.toValue = .ok found ∧ respond e s = .ok found) ∧
        (name ≠ "" → (∀ entry ∈ report.entries, entry.name ≠ .text name) →
          ∃ found, Response.json 404 (unknownSource name) = .ok found ∧
            respond e s = .ok found) ∧
        (name = "" → respond e s = .ok answer) := by
  obtain ⟨settings, m, hregistry, -, -⟩ := Settings.endpointOfValue_ok h
  have honce := Settings.textsOnce_registry hregistry
  obtain ⟨report, hreport, hjson⟩ :=
    exists_report_of_served henabled htarget hpath hroute hanswer hserved
  obtain ⟨p, hpolicy, hfull⟩ := bind_eq_ok hreport
  refine ⟨report, hreport, hjson, fun name s hs hprincipal => ?_⟩
  have hlisted : ∀ entry, e.properties? (.text name) (principalOf s.headers) = .ok (some entry) ↔
      entry ∈ report.entries ∧ entry.name = .text name := by
    intro entry
    rw [hprincipal, Endpoint.properties?_of_policy hpolicy]
    exact Report.single?_eq_some_iff honce hfull entry
  refine ⟨fun entry hentry => ?_, fun hname entry hentry hnamed => ?_, fun hname hnone => ?_, ?_⟩
  · rw [hlisted, and_iff_right hentry]
  · obtain ⟨found, hfound⟩ := exists_json_entry hjson hentry
    exact ⟨found, hfound,
      respond_of_entry henabled hname hs ((hlisted entry).mpr ⟨hentry, hnamed⟩) hfound⟩
  · have hunknown : e.properties? (.text name) (principalOf s.headers) = .ok none := by
      rw [hprincipal, Endpoint.properties?_of_policy hpolicy]
      exact (Report.single?_eq_none_iff honce hfull).mpr hnone
    exact respond_of_unknown henabled hname hs hunknown
  · rintro rfl
    rw [respond_sourceTarget_empty htarget hpath hroute hs hprincipal, hanswer]

/-! ## Names of a document -/

/-- The report on a document under a name and on a variable. -/
def portReport (name : Value) : Report where
  activeNames := []
  packages := []
  entries := [{
    name
    order := .int 0
    convention := .dotted
    properties := [(.text "port", .text "80")] }, {
    name := .text "env"
    order := .int 100
    convention := .environment
    properties := [(.text "HOME", .text "/root")] }]

/-- The source of the port keeps a name of its own, and the environment stands after it. -/
theorem sources_portEndpoint {name : Value} (htruthy : name.truthy = true)
    (hnew : name.same (.text "env") = false) :
    (portSource name).name = name ∧
      (portEndpoint name).registry = { sources := [portSource name, homeSource] } := by
  have hname : (portSource name).name = name := if_pos htruthy
  refine ⟨hname, ?_⟩
  simp [portEndpoint, Registry.addAll, Registry.add, Registry.put, hname, homeSource, hnew]

/-- The report of that endpoint lists the port under the name. -/
theorem report_portEndpoint {name : Value} (htruthy : name.truthy = true)
    (hnew : name.same (.text "env") = false) (principal : Value) :
    (portEndpoint name).report principal = .ok (portReport name) := by
  obtain ⟨hname, hregistry⟩ := sources_portEndpoint htruthy hnew
  have hpolicy : (portEndpoint name).policy principal = .ok { principal, allMasked := false } := rfl
  have hinOrder : [portSource name, homeSource].Pairwise fun a b =>
      decide (a.rank?.getD 0 ≤ b.rank?.getD 0) = true := by
    simp [portSource, homeSource, Source.rank?]
  have hsorted : Report.sorted [portSource name, homeSource] =
      .ok [portSource name, homeSource] := by
    rw [Report.sorted, List.mergeSort_of_pairwise hinOrder]
    rfl
  have hfull : Report.full (Policy.classify { principal, allMasked := false })
      [portSource name, homeSource] (.tuple []) (.tuple []) =
        .ok (portReport (portSource name).name) := by
    rw [Report.full, hsorted]
    rfl
  rw [hname] at hfull
  rw [Endpoint.report, hpolicy, hregistry]
  exact hfull

/-- The endpoint answers with its report where that can be written. -/
theorem respond_portEndpoint {name : Value} (htruthy : name.truthy = true)
    (hnew : name.same (.text "env") = false)
    (hjson : Response.json 200 (portReport name).toValue = .ok answer) :
    respond (portEndpoint name) reportRequest = .ok answer := by
  rw [respond_of_path target_reportRequest pathOf_reportPath, trimmed_reportPath,
    routed_report rfl (report_portEndpoint htruthy hnew _), hjson]

/-- A document whose name has a slash is listed and fetched. -/
theorem listed_entries_fetched_slash :
    Settings.endpointOfValue portWorld (portSettings (.text "a/b")) none =
        .ok (portEndpoint (.text "a/b")) ∧
      respond (portEndpoint (.text "a/b")) (Request.ofTarget (sourceTarget "a/b") none) = .ok {
        status := 200
        contentType := "application/json"
        body := "\x7b\"name\": \"a/b\", \"order\": 0, \"convention\": " ++
          "\"JAVA_PROPERTIES\", \"properties\": \x7b\"port\": \"80\"\x7d\x7d" } := by
  have hmade := endpointOfValue_portSettings (.text "a/b")
  refine ⟨hmade, ?_⟩
  have hnew : (Value.text "a/b").same (.text "env") = false := by simp [Value.same]
  have hwritable : (portReport (.text "a/b")).toValue.isWritable = true := by decide +kernel
  obtain ⟨answer, hjson⟩ := exists_json hwritable 200
  obtain ⟨report, hreport, -, hnames⟩ := listed_entries_fetched hmade rfl target_reportRequest
    pathOf_reportPath trimmed_reportPath (respond_portEndpoint rfl hnew hjson)
    (status_of_json hjson)
  rw [report_portEndpoint rfl hnew] at hreport
  cases hreport
  have htarget : (Request.ofTarget (sourceTarget "a/b") none).target? =
      some (sourceTarget "a/b") := by decide +kernel
  obtain ⟨-, hfetched, -, -⟩ := hnames "a/b" _ htarget rfl
  obtain ⟨found, hfound, hrespond⟩ := hfetched (by decide) _ List.mem_cons_self rfl
  rw [hrespond, ← hfound]
  decide +kernel

/-- A document whose name is a number is listed, but the number as a text leads to no source. -/
theorem listed_entry_not_fetched :
    Settings.endpointOfValue portWorld (portSettings (.int 5)) none = .ok (portEndpoint (.int 5)) ∧
      (portEndpoint (.int 5)).enabled = true ∧
      respond (portEndpoint (.int 5)) reportRequest = .ok {
        status := 200
        contentType := "application/json"
        body := "\x7b\"activeEnvironments\": [], \"packages\": [], \"propertySources\": [" ++
          "\x7b\"name\": 5, \"order\": 0, \"convention\": \"JAVA_PROPERTIES\", " ++
          "\"properties\": \x7b\"port\": \"80\"\x7d\x7d, " ++
          "\x7b\"name\": \"env\", \"order\": 100, \"convention\": \"ENVIRONMENT_VARIABLE\", " ++
          "\"properties\": \x7b\"HOME\": \"/root\"\x7d\x7d]\x7d" } ∧
      Json.text Json.oneLine (.int 5) = .ok "5" ∧
      respond (portEndpoint (.int 5)) (Request.ofTarget (sourceTarget "5") none) = .ok {
        status := 404
        contentType := "application/json"
        body := "\x7b\"error\": \"not found\", \"property_source\": \"5\"\x7d" } := by
  have hnew : (Value.int 5).same (.text "env") = false := by simp [Value.same, Value.quantity?]
  obtain ⟨hname, hregistry⟩ := sources_portEndpoint rfl hnew
  have htarget : (Request.ofTarget (sourceTarget "5") none).target? = some (sourceTarget "5") := by
    decide +kernel
  have hpolicy : (portEndpoint (.int 5)).policy .null =
      .ok { principal := .null, allMasked := false } := rfl
  have hunknown : (portEndpoint (.int 5)).properties? (.text "5") .null = .ok none := by
    rw [Endpoint.properties?_of_policy hpolicy, hregistry, Report.single?_eq]
    simp [hname, homeSource, Value.same, Value.quantity?]
  refine ⟨endpointOfValue_portSettings (.int 5), rfl,
    respond_portEndpoint rfl hnew (by decide +kernel), by decide +kernel, ?_⟩
  have hprincipal : principalOf (Request.ofTarget (sourceTarget "5") none).headers = .null := rfl
  rw [respond_sourceTarget rfl (by decide) htarget, hprincipal, hunknown]
  decide +kernel

end Http

end MaskedReport
