import MaskedReport.Proofs.Rendering
import MaskedReport.Proofs.Reporting
import MaskedReport.Proofs.Sending

/-!
# Serving reports of endpoints from settings

An endpoint from settings always reports, but a report is served only if it can be written. It can
be if and only if every value that the policy leaves plain can be, with the names, orders and
packages that stand beside them: `configured_endpoint_serves_iff`. Documents give values that cannot
be, so not every endpoint from settings serves its report: `configured_endpoint_not_served`.
-/

set_option autoImplicit false

namespace MaskedReport

/-- Whether a value is a mapping of texts to texts. -/
def Value.IsTextMap (v : Value) : Prop :=
  ∃ es : Entries, v = .map es ∧ ∀ b ∈ es, (∃ k, b.1 = .text k) ∧ ∃ t, b.2 = .text t

/-- A mapping of texts to texts has texts for keys. -/
theorem Value.IsTextMap.isTextKeyed {v : Value} (h : v.IsTextMap) : v.IsTextKeyed := by
  obtain ⟨es, rfl, hes⟩ := h
  refine ⟨es, rfl, ?_⟩
  intro key hkey
  obtain ⟨b, hb, rfl⟩ := List.mem_map.mp hkey
  exact (hes b hb).1

/-! ## What is shown -/

/-- Whether all that a policy lets a source show can be written: a key that is read more than once
shows what is read last. -/
structure Source.Renderable (p : Policy) (s : Source) : Prop where
  name : s.name.isWritable
  order : s.order.isWritable
  keys : ∀ key ∈ s.keys, key.isWritableKey
  plain : ∀ r, Entry.IsLast s.readings r → p.classify r.1 = .ok .plain →
    ∀ v, r.2 = .ok v → v.isWritable

/-- Whether all that a policy lets an endpoint show can be written. -/
structure Endpoint.Renderable (p : Policy) (e : Endpoint) : Prop where
  activeNames : ∀ v ∈ e.registry.activeNames, v.isWritable
  packages : ∀ v ∈ e.registry.packages, v.isWritable
  sources : ∀ s ∈ e.registry.sources, s.Renderable p

/-! ## Entries -/

namespace Entry

variable {p : Policy} {s : Source} {e : Entry}

/-- The keys that a reportable source reads are texts. -/
theorem text_of_reportable (hs : s.Reportable) :
    ∀ key ∈ s.readings.map Prod.fst, ∃ t, key = .text t := by
  obtain ⟨entries, hcontents, htexts⟩ := hs.contents
  have hsame : s.keys = entries.keys := by rw [Source.keys, hcontents]
  rw [s.map_fst_readings, hsame]
  exact htexts

/-- Every key of a reportable source has a property, for a policy hides none. -/
theorem exists_property_of_reportable (hs : s.Reportable) {es : Entries}
    (h : addProperties p.classify s.readings [] = .ok es) {name : Text}
    (hname : .text name ∈ s.keys) : ∃ value, (.text name, value) ∈ es := by
  have htexts := text_of_reportable hs
  rw [← s.map_fst_readings] at hname
  obtain ⟨reading, hlast⟩ := exists_isLast hname
  obtain ⟨v, rfl⟩ : ∃ v, reading = .ok v := by
    obtain ⟨entries, hcontents, -⟩ := hs.contents
    obtain ⟨before, after, hsplit, -⟩ := hlast
    have hmem : (.text name, reading) ∈ s.readings := by simp [hsplit]
    rw [Source.readings, hcontents] at hmem
    obtain ⟨b, -, hb⟩ := List.mem_map.mp hmem
    exact ⟨b.2, (congrArg Prod.snd hb).symm⟩
  have hverdict := p.classify_text name
  split at hverdict
  · exact ⟨v, (mem_addProperties_iff htexts h).mpr ⟨_, hlast, Or.inr ⟨hverdict, rfl⟩⟩⟩
  · exact ⟨maskMark, (mem_addProperties_iff htexts h).mpr ⟨_, hlast, Or.inl ⟨hverdict, rfl⟩⟩⟩

/-- The properties of an entry can be written iff JSON can name the keys and what is read last of
each plain key can be written. -/
theorem entriesWritable_iff (hs : s.Reportable) (h : ofSource p.classify s = .ok e) :
    Value.entriesWritable e.properties = true ↔
      (∀ key ∈ s.keys, key.isWritableKey) ∧
      ∀ r, IsLast s.readings r → p.classify r.1 = .ok .plain → ∀ v, r.2 = .ok v →
        v.isWritable := by
  obtain ⟨es, hes, h⟩ := bind_eq_ok h
  cases h
  have htexts := text_of_reportable hs
  rw [Value.entriesWritable_eq_all, List.all_eq_true]
  constructor
  · intro hall
    refine ⟨fun key hkey => ?_, fun r hlast hplain v hv => ?_⟩
    · obtain ⟨name, rfl⟩ := htexts key (by rwa [s.map_fst_readings])
      obtain ⟨value, hmem⟩ := exists_property_of_reportable hs hes hkey
      exact (Bool.and_eq_true_iff.mp (hall _ hmem)).1
    · obtain ⟨key, reading⟩ := r
      have hkey : key ∈ s.readings.map Prod.fst := by
        obtain ⟨before, after, hsplit, -⟩ := hlast
        simp [hsplit]
      obtain ⟨name, rfl⟩ := htexts key hkey
      have hmem := (mem_addProperties_iff htexts hes).mpr ⟨reading, hlast, Or.inr ⟨hplain, hv⟩⟩
      exact (Bool.and_eq_true_iff.mp (hall _ hmem)).2
  · rintro ⟨hkeys, hplain⟩ ⟨key, value⟩ hmem
    obtain ⟨hread, -⟩ := (mem_keys_addProperties s.readings hes
      (List.mem_map_of_mem (f := Prod.fst) hmem)).resolve_left List.not_mem_nil
    obtain ⟨name, rfl⟩ := htexts key hread
    rw [s.map_fst_readings] at hread
    refine Bool.and_eq_true_iff.mpr ⟨hkeys _ hread, ?_⟩
    obtain ⟨reading, hlast, ⟨-, rfl⟩ | ⟨hshown, hv⟩⟩ := (mem_addProperties_iff htexts hes).mp hmem
    · rfl
    · exact hplain _ hlast hshown value hv

/-- An entry can be written if its name, its order and its properties can. -/
theorem isWritable_toValue (e : Entry) : e.toValue.isWritable =
    (e.name.isWritable && (e.order.isWritable && Value.entriesWritable e.properties)) := by
  simp [toValue, Value.isWritable, Value.entriesWritable, Value.isWritableKey]

/-- An entry can be written iff its source is renderable. -/
theorem isWritable_toValue_iff (hs : s.Reportable) (h : ofSource p.classify s = .ok e) :
    e.toValue.isWritable = true ↔ s.Renderable p := by
  rw [isWritable_toValue, Bool.and_eq_true, Bool.and_eq_true, entriesWritable_iff hs h,
    name_ofSource h, order_ofSource h]
  constructor
  · rintro ⟨hname, horder, hkeys, hplain⟩
    exact ⟨hname, horder, hkeys, hplain⟩
  · rintro ⟨hname, horder, hkeys, hplain⟩
    exact ⟨hname, horder, hkeys, hplain⟩

end Entry

namespace Report

/-- A report can be written iff its names, its packages and its entries can be. -/
theorem isWritable_toValue_iff (r : Report) :
    r.toValue.isWritable = true ↔ (∀ v ∈ r.activeNames, v.isWritable) ∧
      (∀ v ∈ r.packages, v.isWritable) ∧ ∀ e ∈ r.entries, e.toValue.isWritable := by
  simp [toValue, Value.isWritable, Value.entriesWritable, Value.isWritableKey,
    Value.allWritable_eq_all]

/-- The entries of sources can all be written if and only if the sources are renderable. -/
theorem forall_isWritable_entries_iff {p : Policy} {sources : List Source} {entries : List Entry}
    (hs : ∀ s ∈ sources, s.Reportable)
    (h : List.Forall₂ (fun s e => Entry.ofSource p.classify s = .ok e) sources entries) :
    (∀ e ∈ entries, e.toValue.isWritable) ↔ ∀ s ∈ sources, s.Renderable p := by
  induction h with
  | nil => simp
  | @cons s e sources entries he _ ih =>
    rw [List.forall_mem_cons, List.forall_mem_cons,
      Entry.isWritable_toValue_iff (hs s List.mem_cons_self) he,
      ih fun t ht => hs t (List.mem_cons_of_mem s ht)]

end Report

/-- The report of an endpoint can be written iff the endpoint is renderable. -/
theorem Endpoint.isWritable_report_iff {p : Policy} {e : Endpoint} {ordered : List Source}
    {entries : List Entry} (hordered : ∀ s ∈ ordered, s.Reportable)
    (hperm : ordered.Perm e.registry.sources)
    (h : List.Forall₂ (fun s e => Entry.ofSource p.classify s = .ok e) ordered entries) :
    (Report.mk e.registry.activeNames e.registry.packages entries).toValue.isWritable = true ↔
      e.Renderable p := by
  rw [Report.isWritable_toValue_iff, Report.forall_isWritable_entries_iff hordered h]
  constructor
  · rintro ⟨hnames, hpackages, hrenderable⟩
    exact ⟨hnames, hpackages, fun s hs => hrenderable s (hperm.mem_iff.mpr hs)⟩
  · rintro ⟨hnames, hpackages, hrenderable⟩
    exact ⟨hnames, hpackages, fun s hs => hrenderable s (hperm.mem_iff.mp hs)⟩

namespace Http

/-- A value is answered iff it can be written. -/
theorem isOk_json (status : Nat) (v : Value) : (Response.json status v).isOk = v.isWritable := by
  rw [Response.json, isOk_bind_pure]
  exact Json.isOk_text Json.oneLine v

/-- An enabled endpoint answers with its report. -/
theorem routed_reportPath {e : Endpoint} (henabled : e.enabled = true) (principal : Value) :
    routed e reportPath principal =
      e.report principal >>= fun report => Response.json 200 report.toValue := by
  have hhealth : ¬ reportPath = "/health".toList := by decide
  rw [routed, if_neg hhealth, henabled, if_neg (by decide), if_pos rfl]

/-- The route to the full report answers with the report. -/
theorem routed_report {e : Endpoint} (henabled : e.enabled = true) {principal : Value}
    {report : Report} (hreport : e.report principal = .ok report) :
    routed e reportPath principal = Response.json 200 report.toValue := by
  rw [routed_reportPath henabled, hreport]
  rfl

/-- A report is answered if it can be written; else the failure to write it is. -/
theorem respond_report {e : Endpoint} {r : Request} {target path : List Char}
    (henabled : e.enabled = true) (htarget : r.target? = some target)
    (hpath : pathOf (singleSlash target) = .ok path) (hroute : trimmed path = reportPath)
    {report : Report} (hreport : e.report (principalOf r.headers) = .ok report) :
    ∃ answer, respond e r = .ok answer ∧
      (answer.status = 200 ∧ report.toValue.isWritable = true ∨
        answer.status = 500 ∧ report.toValue.isWritable = false) := by
  have hwritable := isOk_json 200 report.toValue
  rw [respond_of_path htarget hpath, hroute, routed_report henabled hreport]
  cases hjson : Response.json 200 report.toValue with
  | ok answer =>
    rw [hjson] at hwritable
    exact ⟨answer, rfl, Or.inl ⟨status_of_json hjson, hwritable.symm⟩⟩
  | error f =>
    rw [hjson] at hwritable
    exact ⟨failed f, rfl, Or.inr ⟨rfl, hwritable.symm⟩⟩

/-- An enabled endpoint that settings give, over an environment whose variables have texts for
names, answers a request for the full report. The status is 200 if and only if all that the policy
lets the endpoint show can be written, and else it is 500. -/
theorem configured_endpoint_serves_iff {w : World} {v : Value} {given : Option Value} {e : Endpoint}
    (hgiven : (given.getD (.map w.environment)).IsTextKeyed)
    (h : Settings.endpointOfValue w v given = .ok e) (henabled : e.enabled = true) {r : Request}
    {target path : List Char} (htarget : r.target? = some target)
    (hpath : pathOf (singleSlash target) = .ok path) (hroute : trimmed path = reportPath) :
    ∃ (p : Policy) (answer : Response), e.policy (principalOf r.headers) = .ok p ∧
      respond e r = .ok answer ∧ (answer.status = 200 ↔ e.Renderable p) ∧
      (answer.status = 200 ∨ answer.status = 500) := by
  obtain ⟨⟨m, hhook⟩, hsources⟩ := Settings.reportable_of_endpoint hgiven h
  obtain ⟨ordered, entries, hreport, hperm, hentries⟩ :=
    Endpoint.exists_report hhook hsources (principalOf r.headers)
  obtain ⟨answer, hanswer, hstatus⟩ := respond_report henabled htarget hpath hroute hreport
  refine ⟨_, answer, Endpoint.policy_of_masking hhook _, hanswer, ?_, hstatus.imp And.left And.left⟩
  have hordered : ∀ s ∈ ordered, s.Reportable := fun s hs => hsources s (hperm.mem_iff.mp hs)
  rw [← Endpoint.isWritable_report_iff hordered hperm hentries]
  rcases hstatus with ⟨hstatus, hw⟩ | ⟨hstatus, hw⟩
  · exact iff_of_true hstatus hw
  · exact iff_of_false (by rw [hstatus]; decide) (by rw [hw]; decide)

/-- The environment of that world is one of texts. -/
theorem isTextMap_byteKeyWorld : (Value.map byteKeyWorld.environment).IsTextMap :=
  ⟨byteKeyWorld.environment, rfl, by simp [byteKeyWorld]⟩

/-- The byte is shown, so the report is not served. -/
theorem configured_endpoint_serves_iff_byteKey :
    ∃ (p : Policy) (answer : Response), byteKeyEndpoint.policy .null = .ok p ∧
      ¬ byteKeyEndpoint.Renderable p ∧ respond byteKeyEndpoint reportRequest = .ok answer ∧
      answer.status = 500 := by
  have hgiven : (none.getD (Value.map byteKeyWorld.environment)).IsTextKeyed :=
    isTextMap_byteKeyWorld.isTextKeyed
  obtain ⟨p, answer, hpolicy, hanswer, hserved, hstatus⟩ :=
    configured_endpoint_serves_iff hgiven endpointOfValue_byteKey rfl target_reportRequest
      pathOf_reportPath trimmed_reportPath
  have hshown : ¬ byteKeyEndpoint.Renderable p := by
    intro hrenderable
    have hplain : p.classify (.text "a") = .ok .plain := by
      cases hpolicy
      rfl
    have hwritable := (hrenderable.sources byteKeySource List.mem_cons_self).plain _
      ⟨[], [], rfl, List.not_mem_nil⟩ hplain _ rfl
    exact absurd hwritable (by decide)
  refine ⟨p, answer, hpolicy, hshown, hanswer, ?_⟩
  exact hstatus.resolve_left fun h => hshown (hserved.mp h)

/-! ## A report that is not served -/

/-- The report of the endpoint that shows a byte for a key. -/
def byteKeyReport : Report where
  activeNames := []
  packages := []
  entries := [{
    name := .text "a"
    order := .int 0
    convention := .dotted
    properties := [(.text "a", .list [.map [(.bytes [107], .text "x")]])] }, {
    name := .text "env"
    order := .int 100
    convention := .environment
    properties := [(.text "HOME", .text "/root")] }]

/-- The report of that endpoint shows the byte for a key. -/
theorem report_byteKeyEndpoint (principal : Value) :
    byteKeyEndpoint.report principal = .ok byteKeyReport := by
  have hpolicy : byteKeyEndpoint.policy principal = .ok { principal, allMasked := false } := rfl
  have hinOrder : [byteKeySource, homeSource].Pairwise fun a b =>
      decide (a.rank?.getD 0 ≤ b.rank?.getD 0) = true := by
    simp [byteKeySource, homeSource, Source.rank?]
  have hsorted : Report.sorted [byteKeySource, homeSource] = .ok [byteKeySource, homeSource] := by
    rw [Report.sorted, List.mergeSort_of_pairwise hinOrder]
    rfl
  rw [Endpoint.report, hpolicy]
  show Report.full _ [byteKeySource, homeSource] (.tuple []) (.tuple []) = _
  rw [Report.full, hsorted]
  rfl

/-- Not every enabled endpoint from settings serves its report: JSON has no name for the key that
is a byte, though the document that holds it is loaded. -/
theorem configured_endpoint_not_served :
    byteKeyWorld.document .sourceFile (.ofText "a.yml") =
        .ok (.map [(.text "a", .list [.map [(.bytes [107], .text "x")]])]) ∧
      (Value.map byteKeyWorld.environment).IsTextMap ∧
      Settings.endpointOfValue byteKeyWorld byteKeySettings none = .ok byteKeyEndpoint ∧
      byteKeyEndpoint.enabled = true ∧
      respond byteKeyEndpoint reportRequest = .ok {
        status := 500
        contentType := "application/json"
        body :=
          "\x7b\"error\": \"keys must be str, int, float, bool or None, not bytes\"\x7d" } := by
  refine ⟨document_byteKeyWorld, isTextMap_byteKeyWorld, endpointOfValue_byteKey, rfl, ?_⟩
  have hjson : Response.json 200 byteKeyReport.toValue = .error (.keyUnwritable "bytes") := by
    decide +kernel
  rw [respond_of_path target_reportRequest pathOf_reportPath, trimmed_reportPath,
    routed_report rfl (report_byteKeyEndpoint _), hjson]
  decide +kernel

end Http

end MaskedReport
