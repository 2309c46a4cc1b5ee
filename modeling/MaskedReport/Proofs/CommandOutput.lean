import MaskedReport.Command
import MaskedReport.Proofs.Fetching
import MaskedReport.Proofs.Layouts
import MaskedReport.Proofs.Printing

/-!
# What the command shows

The command prints what the service answers: the full report and the entries of single sources, but
for white space. It ends well exactly where there is something to print that can be written, and
with the code for an unknown name and nothing printed exactly where no source has the name:
`command_shows_what_is_served`.
-/

set_option autoImplicit false

namespace MaskedReport

/-! ## Tasks -/

/-- The JSON texts of a value in two layouts are the same but for space. -/
theorem Json.sameButSpace_text {l m : Layout} {v : Value} {t u : String} (ht : text l v = .ok t)
    (hu : text m v = .ok u) : SameButSpace t u := by
  obtain ⟨s, hs, ht⟩ := bind_eq_ok ht
  obtain ⟨r, hr, hu⟩ := bind_eq_ok hu
  rw [← encoded_eq_ok_iff.mp ht, ← encoded_eq_ok_iff.mp hu]
  exact sameButSpace_write l m 0 0 v hs hr

namespace Command

namespace Ending

/-- A failed command does not end with zero. -/
theorem exitCode_failed_ne_zero (text : String) (why : Failure) :
    (failed text why).exitCode ≠ 0 := by
  cases hblame : why.isOfSettings with
  | true => simp [exitCode, exitCode?, hblame]
  | false => simp [exitCode, exitCode?, hblame]

/-- Printing ends well iff the value can be written, in whatever layout. -/
theorem exitCode_printed_iff (v : Value) :
    (printed v).exitCode = 0 ↔ ∃ t, Json.text Json.oneLine v = .ok t := by
  rw [Json.exists_text_iff, ← Json.exists_text_iff Json.indented]
  cases hwritten : Json.text Json.indented v with
  | ok t =>
    rw [printed_of_ok hwritten]
    exact iff_of_true rfl ⟨t, rfl⟩
  | error why =>
    obtain ⟨part, reason, -, hpart⟩ := exists_printed_of_error hwritten
    rw [hpart]
    exact iff_of_false (exitCode_failed_ne_zero part reason) nofun

/-- What is printed of a value is its text but for white space. -/
theorem withoutSpace_output_printed {v : Value} {t : String}
    (h : Json.text Json.oneLine v = .ok t) :
    Json.withoutSpace (printed v).output = Json.withoutSpace t := by
  obtain ⟨u, hu⟩ := (Json.exists_text_iff Json.indented v).mpr
    ((Json.exists_text_iff Json.oneLine v).mp ⟨t, h⟩)
  rw [printed_of_ok hu]
  have hsame := (Json.sameButSpace_text hu h).append_newline
  rw [← Text.ofString_append] at hsame
  exact hsame.withoutSpace_eq

end Ending

variable {e : Endpoint} {principal : Value}

/-- The command for the full report prints it, or fails as it does. -/
theorem ending_report (e : Endpoint) (principal : Value) :
    (perform e principal .report).ending =
      match e.report principal with
      | .error why => .failed "" why
      | .ok report => .printed report.toValue := by
  rw [perform]
  cases e.report principal with
  | error why => rfl
  | ok report => rfl

/-- The command for a source prints its entry if there is one, or fails as it does. -/
theorem ending_source (e : Endpoint) (principal : Value) (name : Text) :
    (perform e principal (.source name)).ending =
      match e.properties? (.text name) principal with
      | .error why => .failed "" why
      | .ok none => .absent name
      | .ok (some entry) => .printed entry.toValue := by
  rw [perform]
  rcases e.properties? (.text name) principal with why | _ | entry
  · rfl
  · rfl
  · rfl

/-- The task of the full report ends well iff there is a report that can be written. -/
theorem exitCode_report_iff :
    (perform e principal .report).ending.exitCode = 0 ↔
      ∃ report t, e.report principal = .ok report ∧
        Json.text Json.oneLine report.toValue = .ok t := by
  rw [ending_report]
  cases e.report principal with
  | error why =>
    refine iff_of_false (Ending.exitCode_failed_ne_zero "" why) ?_
    rintro ⟨report, t, hreport, -⟩
    cases hreport
  | ok report =>
    refine (Ending.exitCode_printed_iff report.toValue).trans ⟨?_, ?_⟩
    · rintro ⟨t, ht⟩
      exact ⟨report, t, rfl, ht⟩
    · rintro ⟨_, t, hreport, ht⟩
      cases hreport
      exact ⟨t, ht⟩

/-- But for white space, the command prints the text of the report in one line. -/
theorem withoutSpace_output_report {report : Report} {t : String}
    (hreport : e.report principal = .ok report)
    (ht : Json.text Json.oneLine report.toValue = .ok t) :
    Json.withoutSpace (perform e principal .report).ending.output = Json.withoutSpace t := by
  rw [ending_report, hreport]
  exact Ending.withoutSpace_output_printed ht

/-- The task of a single source ends well iff it has an entry that can be written. -/
theorem exitCode_source_iff (name : Text) :
    (perform e principal (.source name)).ending.exitCode = 0 ↔
      ∃ entry t, e.properties? (.text name) principal = .ok (some entry) ∧
        Json.text Json.oneLine entry.toValue = .ok t := by
  rw [ending_source]
  rcases e.properties? (.text name) principal with why | _ | entry
  · refine iff_of_false (Ending.exitCode_failed_ne_zero "" why) ?_
    rintro ⟨entry, t, hentry, -⟩
    cases hentry
  · refine iff_of_false Nat.one_ne_zero ?_
    rintro ⟨entry, t, hentry, -⟩
    cases hentry
  · refine (Ending.exitCode_printed_iff entry.toValue).trans ⟨?_, ?_⟩
    · rintro ⟨t, ht⟩
      exact ⟨entry, t, rfl, ht⟩
    · rintro ⟨_, t, hentry, ht⟩
      cases hentry
      exact ⟨t, ht⟩

/-- But for white space, the command prints the text of the entry in one line. -/
theorem withoutSpace_output_source {name : Text} {entry : Entry} {t : String}
    (hentry : e.properties? (.text name) principal = .ok (some entry))
    (ht : Json.text Json.oneLine entry.toValue = .ok t) :
    Json.withoutSpace (perform e principal (.source name)).ending.output =
      Json.withoutSpace t := by
  rw [ending_source, hentry]
  exact Ending.withoutSpace_output_printed ht

/-- Where asking for a name does not fail, the task of a single source ends with the code for
failures and nothing printed iff there is no source of the name. An entry that cannot be written
ends with that code too, but not before its bracket is printed. -/
theorem nothing_printed_iff {name : Text}
    (h : ∃ found, e.properties? (.text name) principal = .ok found) :
    (perform e principal (.source name)).ending.exitCode = 1 ∧
        (perform e principal (.source name)).ending.output = "" ↔
      e.properties? (.text name) principal = .ok none := by
  obtain ⟨found, hfound⟩ := h
  rw [ending_source, hfound]
  cases found with
  | none => exact iff_of_true ⟨rfl, rfl⟩ rfl
  | some entry =>
    refine iff_of_false ?_ nofun
    rintro ⟨-, hnothing⟩
    exact Ending.output_printed_ne_empty _ _ hnothing

/-- The options take the place of settings, from the file or from nothing. -/
theorem overridden_of_settings {w : World} {a : Arguments} {s : Settings}
    (h : (if a.config.truthy then Settings.ofFile w a.config
      else Settings.ofValue (.map [])) = .ok s) :
    a.overridden w = .ok { s with
      enabled := true
      masking := if a.masking.truthy then a.masking else s.masking
      maskPatterns := s.maskPatterns ++ a.patterns
      includeEnvironment := s.includeEnvironment && !a.withoutEnvironment } := by
  unfold Arguments.overridden
  by_cases hfile : a.config.truthy = true
  · rw [if_pos hfile] at h ⊢
    rw [h]
    rfl
  · rw [if_neg hfile] at h ⊢
    rw [h]
    rfl

/-- The command carries out its task on the endpoint that its settings give. -/
theorem ending_run {w : World} {a : Arguments} {s : Settings} {rank : Nat}
    (hlevel : a.threshold = .ok rank) (hsettings : a.overridden w = .ok s)
    (hendpoint : Settings.endpointOfValue w s.toValue none = .ok e) :
    (run w a).ending = (perform e a.principal a.task).ending := by
  obtain ⟨checked, hchecked, hmade⟩ := bind_eq_ok hendpoint
  have hown : a.settings w = .ok checked := by
    rw [Arguments.settings, hsettings]
    exact hchecked
  rw [run, hlevel]
  simp only [happenings, hown, hmade]

end Command

/-! ## The service -/

namespace Http

/-- A request for the full report is answered with it, or with the failure of it. -/
theorem respond_reportPath {e : Endpoint} (henabled : e.enabled = true)
    {principal? : Option String}
    (hvisible : ∀ principal ∈ principal?, ∀ c ∈ principal.toList, 33 ≤ c.toNat ∧ c.toNat ≤ 126) :
    respond e (Request.ofTarget reportPath principal?) =
      match e.report (principalValue principal?) >>= fun report =>
        Response.json 200 report.toValue with
      | .ok answer => .ok answer
      | .error f => .ok (failed f) := by
  have hne : reportPath ≠ [] := by decide
  have hchars : ∀ c ∈ reportPath, c.toNat < 128 ∧ CharClass.isBlank c.toNat = false :=
    forall_mem_of_all (by decide)
  have hrespond := respond_of_path (target?_ofTarget hne hchars principal?) pathOf_reportPath e
  rw [trimmed_reportPath, principalOf_ofTarget reportPath hvisible, routed_reportPath henabled]
    at hrespond
  exact hrespond

/-- An enabled endpoint answers a request for the full report with status 200 iff there is a report
that can be written, and then with the text of that report. -/
theorem exists_answer_reportPath {e : Endpoint} (henabled : e.enabled = true)
    {principal? : Option String}
    (hvisible : ∀ principal ∈ principal?, ∀ c ∈ principal.toList, 33 ≤ c.toNat ∧ c.toNat ≤ 126) :
    ∃ answer, respond e (Request.ofTarget reportPath principal?) = .ok answer ∧
      (answer.status = 200 ↔ ∃ report t, e.report (principalValue principal?) = .ok report ∧
        Json.text Json.oneLine report.toValue = .ok t) ∧
      ∀ report t, e.report (principalValue principal?) = .ok report →
        Json.text Json.oneLine report.toValue = .ok t → answer.body = t := by
  rw [respond_reportPath henabled hvisible]
  cases hjson : e.report (principalValue principal?) >>= fun report =>
    Response.json 200 report.toValue with
  | ok answer =>
    obtain ⟨report, hreport, hanswer⟩ := bind_eq_ok hjson
    obtain ⟨t, ht, hanswer⟩ := bind_eq_ok hanswer
    cases hanswer
    refine ⟨_, rfl, iff_of_true rfl ⟨report, t, hreport, ht⟩, ?_⟩
    intro other u hother hu
    cases hreport.symm.trans hother
    exact Except.ok.inj (ht.symm.trans hu)
  | error f =>
    have hlacking : ¬ ∃ report t, e.report (principalValue principal?) = .ok report ∧
        Json.text Json.oneLine report.toValue = .ok t := by
      rintro ⟨report, t, hreport, ht⟩
      rw [hreport] at hjson
      have hfails : Response.json 200 report.toValue = .error f := hjson
      rw [Response.json, ht] at hfails
      cases hfails
    have hstatus : (failed f).status ≠ 200 := show 500 ≠ 200 by decide
    refine ⟨failed f, rfl, iff_of_false hstatus hlacking, ?_⟩
    exact fun report t hreport ht => absurd ⟨report, t, hreport, ht⟩ hlacking

end Http

namespace Command

/-- What the command shows is what the service serves. Given settings, with the options in place of
their own and always enabled, that make an endpoint: the command for the full report ends well iff
a request for the full report by the same principal is answered with status 200, and prints the body
of that answer but for white space. The command for a single source ends well iff the report on its
name is an entry that can be written, and prints the text of that entry but for white space; it ends
with the code for failures and nothing printed iff there is no source of the name. -/
theorem command_shows_what_is_served {w : World} {a : Arguments} {s : Settings} {e : Endpoint}
    {rank : Nat} {principal? : Option String} (hvariables : (Value.map w.environment).IsTextMap)
    (hlevel : a.threshold = .ok rank)
    (hsettings : (if a.config.truthy then Settings.ofFile w a.config
      else Settings.ofValue (.map [])) = .ok s)
    (hendpoint : Settings.endpointOfValue w (Settings.toValue { s with
      enabled := true
      masking := if a.masking.truthy then a.masking else s.masking
      maskPatterns := s.maskPatterns ++ a.patterns
      includeEnvironment := s.includeEnvironment && !a.withoutEnvironment }) none = .ok e)
    (hprincipal : a.principal = Http.principalValue principal?)
    (hvisible : ∀ principal ∈ principal?, ∀ c ∈ principal.toList, 33 ≤ c.toNat ∧ c.toNat ≤ 126) :
    (∃ answer, Http.respond e (Http.Request.ofTarget Http.reportPath principal?) = .ok answer ∧
      ((run w { a with task := .report }).ending.exitCode = 0 ↔ answer.status = 200) ∧
      (answer.status = 200 →
        Json.withoutSpace (run w { a with task := .report }).ending.output =
          Json.withoutSpace answer.body)) ∧
    ∀ name,
      ((run w { a with task := .source name }).ending.exitCode = 0 ↔
        ∃ entry t, e.properties? (.text name) a.principal = .ok (some entry) ∧
          Json.text Json.oneLine entry.toValue = .ok t) ∧
      (∀ entry t, e.properties? (.text name) a.principal = .ok (some entry) →
        Json.text Json.oneLine entry.toValue = .ok t →
        Json.withoutSpace (run w { a with task := .source name }).ending.output =
          Json.withoutSpace t) ∧
      ((run w { a with task := .source name }).ending.exitCode = 1 ∧
          (run w { a with task := .source name }).ending.output = "" ↔
        e.properties? (.text name) a.principal = .ok none) := by
  have hown : ∀ task, (run w { a with task }).ending = (perform e a.principal task).ending := by
    intro task
    exact @ending_run e w { a with task } _ rank hlevel (overridden_of_settings hsettings) hendpoint
  have henabled : e.enabled = true := by
    obtain ⟨checked, m, hchecked, -, -, henabled⟩ := Settings.exists_settings hendpoint
    rw [Settings.ofValue_toValue] at hchecked
    cases hchecked
    exact henabled
  have hfound : ∀ name : Text, ∃ found, e.properties? (.text name) a.principal = .ok found := by
    obtain ⟨⟨m, hhook⟩, hsources⟩ := Settings.reportable_of_endpoint
      (show (none.getD (Value.map w.environment)).IsTextKeyed from hvariables.isTextKeyed) hendpoint
    exact fun name => Endpoint.exists_properties? hhook hsources (.text name) a.principal
  constructor
  · obtain ⟨answer, hanswer, hserved, hbody⟩ := Http.exists_answer_reportPath henabled hvisible
    rw [← hprincipal] at hserved hbody
    refine ⟨answer, hanswer, ?_, fun hstatus => ?_⟩
    · rw [hown, exitCode_report_iff, hserved]
    · obtain ⟨report, t, hreport, ht⟩ := hserved.mp hstatus
      rw [hown, withoutSpace_output_report hreport ht, hbody report t hreport ht]
  · intro name
    rw [hown]
    exact ⟨exitCode_source_iff name, fun entry t => withoutSpace_output_source,
      nothing_printed_iff (hfound name)⟩

/-- The endpoint of the environment alone, with nothing masked. -/
def homeEndpoint : Endpoint where
  registry := { sources := [homeSource] }
  hook := some (Masking.hook { mode := .none, patterns := [] })
  enabled := true

/-- Its report. -/
def homeReport : Report where
  activeNames := []
  packages := []
  entries := [{
    name := .text "env"
    order := .int 100
    convention := .environment
    properties := [(.text "HOME", .text "/root")] }]

/-- The report of that endpoint is the one with the home directory. -/
theorem report_homeEndpoint : homeEndpoint.report (.text "bob") = .ok homeReport := by
  have hsorted : Report.sorted [homeSource] = .ok [homeSource] := by
    rw [Report.sorted, List.mergeSort_singleton]
    rfl
  rw [Endpoint.report, homeEndpoint]
  show Report.full _ [homeSource] (.tuple []) (.tuple []) = _
  rw [Report.full, hsorted]
  rfl

/-- The endpoint has no source of another name. -/
theorem properties?_homeEndpoint :
    homeEndpoint.properties? (.text "a") (.text "bob") = .ok none := by
  have hdiffers : homeSource.name.same (.text "a") = false := by
    simp [homeSource, Value.same]
  rw [Endpoint.properties?]
  show Report.single? _ [homeSource] _ = _
  rw [Report.single?, List.find?_cons, hdiffers]
  rfl

/-- Without settings from a file the environment is shown, and no document. -/
theorem command_shows_what_is_served_home :
    let a : Arguments := { masking := .text "none", principal := .text "bob" }
    (run byteKeyWorld { a with task := .report }).ending.exitCode = 0 ∧
      Json.withoutSpace (run byteKeyWorld { a with task := .report }).ending.output =
        "\x7b\"activeEnvironments\":[],\"packages\":[],\"propertySources\":[" ++
          "\x7b\"name\":\"env\",\"order\":100,\"convention\":\"ENVIRONMENT_VARIABLE\"," ++
          "\"properties\":\x7b\"HOME\":\"/root\"\x7d\x7d]\x7d" ∧
      (run byteKeyWorld { a with task := .source "a" }).ending.exitCode = 1 ∧
      (run byteKeyWorld { a with task := .source "a" }).ending.output = "" := by
  intro a
  have hsettings : Settings.ofValue (.map []) = .ok {
      enabled := false
      masking := .text "all"
      maskPatterns := []
      activeEnvironments := []
      packages := []
      includeEnvironment := true
      sources := []
      baseDirectory := .null } := rfl
  have hendpoint : Settings.endpointOfValue byteKeyWorld (Settings.toValue {
      enabled := true
      masking := .text "none"
      maskPatterns := []
      activeEnvironments := []
      packages := []
      includeEnvironment := true
      sources := []
      baseDirectory := .null }) none = .ok homeEndpoint := by
    have hhome : Settings.environment byteKeyWorld none = .ok homeSource := rfl
    simp only [Settings.endpointOfValue, Settings.ofValue_toValue, Settings.endpoint,
      Settings.maskingHook, ofValues_none, Settings.registry, Settings.base, Value.truthy,
      Settings.registerAll, hhome, Bool.false_eq_true, if_false, if_true, bind, Except.bind, pure,
      Except.pure]
    rfl
  have hlevel : a.threshold = .ok 30 := by decide +kernel
  have hvisible : ∀ principal ∈ some "bob", ∀ c ∈ principal.toList,
      33 ≤ c.toNat ∧ c.toNat ≤ 126 := by simp
  obtain ⟨⟨answer, hanswer, hended, hshown⟩, hsources⟩ := command_shows_what_is_served
    Http.isTextMap_byteKeyWorld hlevel hsettings hendpoint rfl hvisible
  obtain ⟨hexit, hnothing⟩ := (hsources "a").2.2.mpr properties?_homeEndpoint
  have hjson : Http.Response.json 200 homeReport.toValue = .ok {
      status := 200
      contentType := "application/json"
      body := "\x7b\"activeEnvironments\": [], \"packages\": [], \"propertySources\": [" ++
        "\x7b\"name\": \"env\", \"order\": 100, \"convention\": \"ENVIRONMENT_VARIABLE\", " ++
        "\"properties\": \x7b\"HOME\": \"/root\"\x7d\x7d]\x7d" } := by decide +kernel
  have hbound : ∀ report : Report, (Except.ok report >>= fun report =>
      Http.Response.json 200 report.toValue) = Http.Response.json 200 report.toValue :=
    fun report => rfl
  rw [Http.respond_reportPath rfl hvisible, Http.principalValue, report_homeEndpoint, hbound,
    hjson] at hanswer
  cases hanswer
  refine ⟨hended.mpr rfl, (hshown rfl).trans ?_, hexit, hnothing⟩
  decide +kernel

end Command

end MaskedReport
