import MaskedReport.Proofs.PercentCoding
import MaskedReport.Proofs.Sending

/-!
# Requests for single sources

A request for a source spells its name in percent codes below `/env/`. The codes go through the
request line and the path unchanged, whatever the name holds, and are read back once: the answer is
that of the report on the name, `single_source_served`.
-/

set_option autoImplicit false

namespace MaskedReport.Http

/-! ## Requests -/

/-- The target of a request for the source of a name. -/
def sourceTarget (name : String) : List Char := reportPath ++ '/' :: percentCode name.toList

/-- A request for a target as it is sent, with or without a header that tells who asks. -/
def Request.ofTarget (target : List Char) (principal? : Option String) : Request where
  line := Utf8.encode ("GET ".toList ++ (target ++ " HTTP/1.0".toList))
  headers := principal?.toList.map fun principal =>
    headerOfLine (Utf8.encode ("X-Principal: ".toList ++ principal.toList))

/-- Who asks in such a request. -/
def principalValue : Option String → Value
  | none => .null
  | some principal => .text principal

/-- What is answered for a name that no source has. -/
def unknownSource (name : String) : Value :=
  .map [(.text "error", .text "not found"), (.text "property_source", .text name)]

/-- The answer for a name, by the entry that it has. -/
def entryAnswer (name : String) : Option Entry → Except Failure Response
  | some entry => Response.json 200 entry.toValue
  | none => Response.json 404 (unknownSource name)

/-- A property that is found for all characters holds of each. -/
theorem forall_mem_of_all {s : List Char} {P : Char → Prop} [DecidablePred P]
    (h : (s.all fun c => decide (P c)) = true) : ∀ c ∈ s, P c := by
  simpa using h

/-- The bytes of ASCII characters are read as these, one by one. -/
theorem byteChars_encode {s : List Char} (h : ∀ c ∈ s, c.toNat < 128) :
    byteChars (Utf8.encode s) = s := by
  induction s with
  | nil => rfl
  | cons c s ih =>
    have hc : c.toNat < 128 := h c List.mem_cons_self
    have hchar : Char.ofNat (UInt8.ofNat c.toNat).toNat = c := by
      rw [Utf8.toNat_byte (by omega), Char.ofNat_toNat]
    have hs := ih fun d hd => h d (List.mem_cons_of_mem c hd)
    rw [byteChars] at hs ⊢
    rw [Utf8.encode_cons, Utf8.encodeChar_of_ascii hc, List.map_append, hs, List.map_singleton,
      hchar, List.singleton_append]

/-- Characters that are no blanks go on with the word. -/
theorem words_append {w : List Char} (h : ∀ c ∈ w, CharClass.isBlank c.toNat = false)
    (rest word : List Char) : words (w ++ rest) word = words rest (w.reverse ++ word) := by
  induction w generalizing word with
  | nil => rfl
  | cons c w ih =>
    have hc := h c List.mem_cons_self
    have hw := ih fun d hd => h d (List.mem_cons_of_mem c hd)
    rw [List.cons_append, words, hc, if_neg Bool.false_ne_true, hw, List.reverse_cons,
      List.append_assoc, List.singleton_append]

/-- A word ends at a space. -/
theorem words_append_space {w : List Char} (h : ∀ c ∈ w, CharClass.isBlank c.toNat = false)
    (hne : w ≠ []) (rest : List Char) : words (w ++ ' ' :: rest) [] = w :: words rest [] := by
  have hblank : CharClass.isBlank ' '.toNat = true := by decide
  have hword : w.reverse.isEmpty = false := by simpa using hne
  rw [words_append h, List.append_nil, words, if_pos hblank, hword, if_neg Bool.false_ne_true,
    List.reverse_reverse]

/-- A request made for a target of visible ASCII characters is for that target. -/
theorem target?_ofTarget {target : List Char} (hne : target ≠ [])
    (h : ∀ c ∈ target, c.toNat < 128 ∧ CharClass.isBlank c.toNat = false)
    (principal? : Option String) : (Request.ofTarget target principal?).target? = some target := by
  have hascii : ∀ c ∈ "GET ".toList ++ (target ++ " HTTP/1.0".toList), c.toNat < 128 := by
    have hget : ∀ c ∈ "GET ".toList, c.toNat < 128 :=
      forall_mem_of_all (by decide)
    have hversion : ∀ c ∈ " HTTP/1.0".toList, c.toNat < 128 :=
      forall_mem_of_all (by decide)
    intro c hc
    rcases List.mem_append.mp hc with hc | hc
    · exact hget c hc
    · rcases List.mem_append.mp hc with hc | hc
      · exact (h c hc).1
      · exact hversion c hc
  have hwords : words ("GET ".toList ++ (target ++ " HTTP/1.0".toList)) [] =
      ["GET".toList, target, "HTTP/1.0".toList] := by
    have hversion : words "HTTP/1.0".toList [] = ["HTTP/1.0".toList] := by decide
    have hmethod : ∀ c ∈ "GET".toList, CharClass.isBlank c.toNat = false :=
      forall_mem_of_all (by decide)
    show words ("GET".toList ++ ' ' :: (target ++ ' ' :: "HTTP/1.0".toList)) [] = _
    rw [words_append_space hmethod (by decide), words_append_space (fun c hc => (h c hc).2) hne,
      hversion]
  have hline : byteChars (Request.ofTarget target principal?).line =
      "GET ".toList ++ (target ++ " HTTP/1.0".toList) := byteChars_encode hascii
  rw [Request.target?, hline, hwords]
  rfl

/-- The header line of who asks has that name and a blank before the value. -/
theorem headerOfLine_principal (principal : List Char) :
    headerOfLine (Utf8.encode ("X-Principal: ".toList ++ principal)) =
      (Utf8.encode "X-Principal".toList, Utf8.encode (' ' :: principal)) := by
  have hsplit : Utf8.encode ("X-Principal: ".toList ++ principal) =
      Utf8.encode "X-Principal".toList ++ 58 :: Utf8.encode (' ' :: principal) := rfl
  have hname : ∀ b ∈ Utf8.encode "X-Principal".toList, (b != 58) = true := by decide +kernel
  rw [hsplit, headerOfLine, List.takeWhile_append_of_pos hname]
  rfl

/-- A visible text begins with no blank. -/
theorem dropWhile_blank_of_visible {s : List Char} (h : ∀ c ∈ s, 33 ≤ c.toNat ∧ c.toNat ≤ 126) :
    s.dropWhile (fun c => c == ' ' || c == '\t') = s := by
  cases s with
  | nil => rfl
  | cons c rest =>
    have hc := h c List.mem_cons_self
    have hspace : c ≠ ' ' := by
      rintro rfl
      exact absurd hc.1 (by decide)
    have htab : c ≠ '\t' := by
      rintro rfl
      exact absurd hc.1 (by decide)
    simp [hspace, htab]

/-- Who asks is who the request says. -/
theorem principalOf_ofTarget (target : List Char) {principal? : Option String}
    (h : ∀ principal ∈ principal?, ∀ c ∈ principal.toList, 33 ≤ c.toNat ∧ c.toNat ≤ 126) :
    principalOf (Request.ofTarget target principal?).headers = principalValue principal? := by
  cases principal? with
  | none => rfl
  | some principal =>
    have hvisible := h principal rfl
    have hheaders : (Request.ofTarget target (some principal)).headers =
        [(Utf8.encode "X-Principal".toList, Utf8.encode (' ' :: principal.toList))] :=
      congrArg (fun header => [header]) (headerOfLine_principal principal.toList)
    have hproper : isHeaderName (Utf8.encode "X-Principal".toList) = true := by decide
    have hnamed : (lowered (byteChars (Utf8.encode "X-Principal".toList)) == principalHeader) =
        true := by decide
    have hvalue : byteChars (Utf8.encode (' ' :: principal.toList)) = ' ' :: principal.toList := by
      refine byteChars_encode fun c hc => ?_
      rcases List.mem_cons.mp hc with rfl | hc
      · decide
      · have := hvisible c hc
        omega
    rw [principalOf, hheaders]
    simp only [List.takeWhile_cons, hproper, if_true, List.takeWhile_nil, List.find?_cons, hnamed]
    rw [hvalue, List.dropWhile_cons_of_pos (by decide), dropWhile_blank_of_visible hvisible,
      String.ofList_toList]
    rfl

/-! ## Answers -/

/-- The target of a source consists of slashes and characters of codes. -/
theorem isCodeChar_of_mem_sourceTarget {name : String} {c : Char} (hc : c ∈ sourceTarget name) :
    c = '/' ∨ isCodeChar c = true := by
  rcases List.mem_append.mp hc with hc | hc
  · have hall : ∀ c ∈ reportPath, c = '/' ∨ isCodeChar c = true :=
      forall_mem_of_all (by decide)
    exact hall c hc
  · rcases List.mem_cons.mp hc with rfl | hc
    · exact Or.inl rfl
    · exact Or.inr (isCodeChar_percentCode _ c hc)

/-- The target of a source consists of visible ASCII characters without the marks of a query. -/
theorem ascii_of_mem_sourceTarget {name : String} {c : Char} (hc : c ∈ sourceTarget name) :
    c.toNat < 128 ∧ CharClass.isBlank c.toNat = false ∧ c ≠ '?' ∧ c ≠ '#' := by
  rcases isCodeChar_of_mem_sourceTarget hc with rfl | hcode
  · decide
  · obtain ⟨hascii, hblank, -, hquery, hfragment⟩ := (isCodeChar_iff c).mp hcode
    exact ⟨hascii, hblank, hquery, hfragment⟩

/-- The whole target is path. -/
theorem pathOf_sourceTarget (name : String) :
    pathOf (singleSlash (sourceTarget name)) = .ok (sourceTarget name) := by
  have hchars := fun c => @ascii_of_mem_sourceTarget name c
  obtain ⟨rest, hrest, hone⟩ : ∃ rest, sourceTarget name = '/' :: rest ∧ rest.head? ≠ some '/' :=
    ⟨"env/".toList ++ percentCode name.toList, rfl, by simp⟩
  rw [hrest] at hchars ⊢
  rw [singleSlash_of_head? hone,
    pathOf_slash hone fun c hc => (hchars c (List.mem_cons_of_mem _ hc)).2.1]
  -- the coding has no mark that ends the path, so nothing is left for a query
  have hpath : ∀ c ∈ '/' :: rest, c ≠ '?' ∧ c ≠ '#' := fun c hc => (hchars c hc).2.2
  have hend : FollowsPath [] := by simp [FollowsPath]
  have hbefore := beforeQuery_append hpath hend
  rw [List.append_nil] at hbefore
  rw [hbefore]

/-- A path that ends in no slash is not trimmed. -/
theorem trimmed_concat (path : List Char) {c : Char} (hc : c ≠ '/') :
    trimmed (path ++ [c]) = path ++ [c] := by
  have hlast : (path ++ [c]).reverse.dropWhile (· == '/') = c :: path.reverse := by
    rw [List.reverse_append, List.reverse_singleton, List.singleton_append,
      List.dropWhile_cons_of_neg (by simpa using hc)]
  rw [trimmed, hlast, List.reverse_cons, List.reverse_reverse]
  cases path with
  | nil => rfl
  | cons d path => rfl

/-- The target of a source with a name is not trimmed. -/
theorem trimmed_sourceTarget {name : String} (hname : name ≠ "") :
    trimmed (sourceTarget name) = sourceTarget name := by
  have hcode : percentCode name.toList ≠ [] := by
    refine percentCode_ne_nil fun hnil => hname ?_
    rwa [String.toList_eq_nil_iff] at hnil
  obtain ⟨front, c, hlast⟩ := (List.eq_nil_or_concat (percentCode name.toList)).resolve_left hcode
  have hc : c ≠ '/' := by
    have hmem : c ∈ percentCode name.toList := by simp [hlast]
    exact ((isCodeChar_iff c).mp (isCodeChar_percentCode _ c hmem)).2.2.1
  have htarget : sourceTarget name = (reportPath ++ '/' :: front) ++ [c] := by
    rw [sourceTarget, hlast, List.concat_eq_append, List.append_assoc, List.cons_append]
  rw [htarget, trimmed_concat _ hc]

/-- An enabled endpoint answers below `/env/` by the entry of the name. -/
theorem routed_sourceTarget {e : Endpoint} (henabled : e.enabled = true) (name : String)
    (principal : Value) :
    routed e (sourceTarget name) principal =
      e.properties? (.text name) principal >>= entryAnswer name := by
  have hhealth : ¬ sourceTarget name = "/health".toList := by
    intro h
    have hsecond := congrArg (fun path => path[1]?) h
    cases hsecond
  have hwhole : ¬ sourceTarget name = reportPath := by
    intro h
    have hlength := congrArg List.length h
    simp [sourceTarget] at hlength
  have hbelow : (reportPath ++ ['/']).isPrefixOf (sourceTarget name) = true := by
    rw [List.isPrefixOf_iff_prefix, sourceTarget]
    exact ⟨percentCode name.toList, by simp⟩
  have hdrop : (sourceTarget name).drop (reportPath.length + 1) = percentCode name.toList := rfl
  rw [routed, if_neg hhealth, henabled, if_neg (by decide), if_neg hwhole, if_pos hbelow]
  simp only [hdrop, unquote_percentCode, String.ofList_toList]
  rfl

/-- A request for a source is answered with its entry, or with the failure of it. -/
theorem respond_sourceTarget {e : Endpoint} (henabled : e.enabled = true) {name : String}
    (hname : name ≠ "") {r : Request} (htarget : r.target? = some (sourceTarget name)) :
    respond e r =
      match e.properties? (.text name) (principalOf r.headers) >>= entryAnswer name with
      | .ok answer => .ok answer
      | .error f => .ok (failed f) := by
  have hrespond := respond_of_path htarget (pathOf_sourceTarget name) e
  rw [trimmed_sourceTarget hname, routed_sourceTarget henabled] at hrespond
  exact hrespond

/-- A request for a source with an entry that can be written is answered with it. -/
theorem respond_of_entry {e : Endpoint} (henabled : e.enabled = true) {name : String}
    (hname : name ≠ "") {r : Request} (htarget : r.target? = some (sourceTarget name))
    {entry : Entry}
    (hentry : e.properties? (.text name) (principalOf r.headers) = .ok (some entry))
    {found : Response} (hjson : Response.json 200 entry.toValue = .ok found) :
    respond e r = .ok found := by
  have hanswer : (Except.ok (some entry) : Except Failure (Option Entry)) >>= entryAnswer name =
      .ok found := hjson
  rw [respond_sourceTarget henabled hname htarget, hentry, hanswer]

/-- A request for a name without source is answered with status 404. -/
theorem respond_of_unknown {e : Endpoint} (henabled : e.enabled = true) {name : String}
    (hname : name ≠ "") {r : Request} (htarget : r.target? = some (sourceTarget name))
    (hnone : e.properties? (.text name) (principalOf r.headers) = .ok none) :
    ∃ answer, Response.json 404 (unknownSource name) = .ok answer ∧ respond e r = .ok answer := by
  have hwritable : (unknownSource name).isWritable = true := by
    simp [unknownSource, Value.isWritable, Value.entriesWritable, Value.isWritableKey]
  obtain ⟨body, hbody⟩ := (Json.exists_text_iff Json.oneLine _).mpr hwritable
  have hjson : Response.json 404 (unknownSource name) =
      .ok { status := 404, contentType := "application/json", body } := by
    rw [Response.json, hbody]
    rfl
  have hanswer : (Except.ok none : Except Failure (Option Entry)) >>= entryAnswer name =
      .ok { status := 404, contentType := "application/json", body } := hjson
  refine ⟨_, hjson, ?_⟩
  rw [respond_sourceTarget henabled hname htarget, hnone, hanswer]

/-- A request for the source of a name, whatever characters the name has, tells that name and who
asks. An enabled endpoint answers it with the entry that the report on the name is, if the entry can
be written; with what it answers to unknown names, if there is none; and with the failure, if the
report on the name fails. -/
theorem single_source_served {e : Endpoint} (henabled : e.enabled = true) {name : String}
    (hname : name ≠ "") :
    (∀ principal? : Option String,
      (∀ principal ∈ principal?, ∀ c ∈ principal.toList, 33 ≤ c.toNat ∧ c.toNat ≤ 126) →
      (Request.ofTarget (sourceTarget name) principal?).target? = some (sourceTarget name) ∧
      principalOf (Request.ofTarget (sourceTarget name) principal?).headers =
        principalValue principal?) ∧
    ∀ r : Request, r.target? = some (sourceTarget name) →
      (∀ entry answer,
        e.properties? (.text name) (principalOf r.headers) = .ok (some entry) →
        Response.json 200 entry.toValue = .ok answer → respond e r = .ok answer) ∧
      (e.properties? (.text name) (principalOf r.headers) = .ok none →
        ∃ answer, Response.json 404 (unknownSource name) = .ok answer ∧
          respond e r = .ok answer) ∧
      ∀ f, e.properties? (.text name) (principalOf r.headers) = .error f →
        ∃ answer, Response.json 500 (.map [(.text "error", .text f.message)]) = .ok answer ∧
          respond e r = .ok answer := by
  constructor
  · intro principal? hvisible
    refine ⟨target?_ofTarget (List.cons_ne_nil _ _) ?_ principal?,
      principalOf_ofTarget _ hvisible⟩
    intro c hc
    obtain ⟨hascii, hblank, -⟩ := ascii_of_mem_sourceTarget hc
    exact ⟨hascii, hblank⟩
  · intro r htarget
    refine ⟨fun entry answer hentry hjson => respond_of_entry henabled hname htarget hentry hjson,
      respond_of_unknown henabled hname htarget, fun f hf => ⟨failed f, json_failed f, ?_⟩⟩
    rw [respond_sourceTarget henabled hname htarget, hf]
    rfl

/-- A name with a slash, a percent sign, a line end and a letter beyond ASCII, and one that no
source has. -/
theorem single_source_served_slash :
    let e : Endpoint := {
      registry := { sources := [{
        name := .text "a/%2F?ü\n"
        order := .int 0
        convention := .dotted
        contents := .stored [(.text "port", .int 80)] }] }
      enabled := true }
    respond e (Request.ofTarget (sourceTarget "a/%2F?ü\n") (some "bob")) = .ok {
        status := 200
        contentType := "application/json"
        body := "\x7b\"name\": \"a/%2F?ü\\n\", \"order\": 0, \"convention\": " ++
          "\"JAVA_PROPERTIES\", \"properties\": \x7b\"port\": \"*****\"\x7d\x7d" } ∧
      respond e (Request.ofTarget (sourceTarget "a") none) = .ok {
        status := 404
        contentType := "application/json"
        body := "\x7b\"error\": \"not found\", \"property_source\": \"a\"\x7d" } := by
  intro e
  have hlisted : e.properties? (.text "a/%2F?ü\n") (.text "bob") = .ok (some {
      name := .text "a/%2F?ü\n"
      order := .int 0
      convention := .dotted
      properties := [(.text "port", maskMark)] }) := by
    have hsame : (Value.text "a/%2F?ü\n").same (.text "a/%2F?ü\n") = true := by
      simp [Value.same]
    rw [Endpoint.properties?]
    show Report.single? _ [_] _ = _
    rw [Report.single?, List.find?_cons, hsame]
    rfl
  have hunknown : e.properties? (.text "a") .null = .ok none := by
    have hdiffers : (Value.text "a/%2F?ü\n").same (.text "a") = false := by
      simp [Value.same]
    rw [Endpoint.properties?]
    show Report.single? _ [_] _ = _
    rw [Report.single?, List.find?_cons, hdiffers]
    rfl
  have henabled : e.enabled = true := rfl
  constructor
  · have hname : "a/%2F?ü\n" ≠ "" := by decide
    obtain ⟨hsent, hserved⟩ := single_source_served henabled hname
    obtain ⟨htarget, hprincipal⟩ := hsent (some "bob") (by simp)
    refine (hserved _ htarget).1 _ _ (by rw [hprincipal]; exact hlisted) ?_
    decide +kernel
  · have hname : "a" ≠ "" := by decide
    obtain ⟨hsent, hserved⟩ := single_source_served henabled hname
    obtain ⟨htarget, hprincipal⟩ := hsent none (by simp)
    obtain ⟨answer, hjson, hanswer⟩ := (hserved _ htarget).2.1 (by rw [hprincipal]; exact hunknown)
    rw [hanswer, ← hjson]
    decide +kernel

end MaskedReport.Http
