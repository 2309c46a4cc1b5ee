import Mathlib.Data.List.TakeWhile
import MaskedReport.Http.Service

/-!
# Routes

What an answer depends on. The path of a target that begins with one slash is what stands before its
query and fragment, and slashes at its end do not count. Where no report is answered, because the
endpoint is disabled or the path is not one of reports, neither the sources nor the hook nor who
asks has any influence: `closed_routes_without_influence`.
-/

set_option autoImplicit false

namespace MaskedReport.Http

/-! ## Targets of requests -/

/-- Words have no blanks. -/
theorem not_isBlank_of_mem_words {s word : List Char}
    (hword : ∀ c ∈ word, CharClass.isBlank c.toNat = false) :
    ∀ w ∈ words s word, ∀ c ∈ w, CharClass.isBlank c.toNat = false := by
  induction s generalizing word with
  | nil =>
    intro w hw c hc
    unfold words at hw
    split at hw
    · cases hw
    · rw [List.mem_singleton.mp hw] at hc
      exact hword c (List.mem_reverse.mp hc)
  | cons d rest ih =>
    intro w hw
    unfold words at hw
    split at hw
    · split at hw
      · exact ih (by simp) w hw
      · rcases List.mem_cons.mp hw with rfl | hw
        · intro c hc
          exact hword c (List.mem_reverse.mp hc)
        · exact ih (by simp) w hw
    · apply ih _ w hw
      intro c hc
      rcases List.mem_cons.mp hc with rfl | hc
      · simpa using ‹¬ CharClass.isBlank _ = true›
      · exact hword c hc

/-- A target has no white space. -/
theorem Request.not_isBlank_of_target {r : Request} {target : List Char}
    (h : r.target? = some target) : ∀ c ∈ target, CharClass.isBlank c.toNat = false := by
  unfold Request.target? at h
  split at h
  case h_1 method found rest hwords =>
    split at h
    · cases h
      have hmem : target ∈ words (byteChars r.line) [] := by
        rw [hwords]
        exact List.mem_cons_of_mem _ List.mem_cons_self
      exact not_isBlank_of_mem_words (by simp) target hmem
    · cases h
  case h_2 => cases h

/-- What is answered to a target goes by its path. -/
theorem respond_of_path {r : Request} {target path : List Char} (htarget : r.target? = some target)
    (hpath : pathOf (singleSlash target) = .ok path) (e : Endpoint) :
    respond e r = match routed e (trimmed path) (principalOf r.headers) with
      | .ok answer => .ok answer
      | .error f => .ok (failed f) := by
  cases hrouted : routed e (trimmed path) (principalOf r.headers) with
  | ok found => simp only [respond, htarget, answer, hpath, hrouted]
  | error f => simp only [respond, htarget, answer, hpath, hrouted]

/-! ## Paths of targets -/

/-- The part of a target before its query and fragment. -/
def beforeQuery (target : List Char) : List Char := target.takeWhile fun c => c != '?' && c != '#'

/-- Whether a text can follow the path of a target: a query, a fragment or nothing. -/
def FollowsPath (s : List Char) : Prop := ∀ c ∈ s.head?, c = '?' ∨ c = '#'

/-- What is left from the first mark on follows a path. -/
theorem followsPath_dropWhile (target : List Char) :
    FollowsPath (target.dropWhile fun c => c != '?' && c != '#') := by
  intro c hc
  have hstop := List.head?_dropWhile_not (fun c => c != '?' && c != '#') target
  rw [Option.mem_def.mp hc] at hstop
  by_cases hquery : c = '?'
  · exact Or.inl hquery
  · right
    simpa [hquery] using hstop

/-- A path without marks is what stands before what follows it. -/
theorem beforeQuery_append {path tail : List Char} (hpath : ∀ c ∈ path, c ≠ '?' ∧ c ≠ '#')
    (htail : FollowsPath tail) : beforeQuery (path ++ tail) = path := by
  have hkept : ∀ c ∈ path, (c != '?' && c != '#') = true := by
    intro c hc
    simp [hpath c hc]
  rw [beforeQuery, List.takeWhile_append_of_pos hkept]
  cases tail with
  | nil => simp
  | cons c tail =>
    have hstop : (c != '?' && c != '#') = false := by
      rcases htail c rfl with rfl | rfl
      · rfl
      · rfl
    simp [hstop]

/-- Before the query there are no marks. -/
theorem mem_beforeQuery {target : List Char} {c : Char} (hc : c ∈ beforeQuery target) :
    c ≠ '?' ∧ c ≠ '#' := by
  have hkept := List.mem_takeWhile_imp hc
  simpa using hkept

/-- The path of a target that begins with one slash. -/
theorem pathOf_slash {rest : List Char} (hone : rest.head? ≠ some '/')
    (hblank : ∀ c ∈ rest, CharClass.isBlank c.toNat = false) :
    pathOf ('/' :: rest) = .ok (beforeQuery ('/' :: rest)) := by
  have hcleaned : cleaned ('/' :: rest) = '/' :: rest := by
    have hfront : ('/' :: rest).dropWhile (fun c => decide (c.toNat ≤ 32)) = '/' :: rest := rfl
    rw [cleaned, hfront, List.filter_eq_self]
    intro c hc
    have hkept : CharClass.isBlank c.toNat = false := by
      rcases List.mem_cons.mp hc with rfl | hc
      · decide
      · exact hblank c hc
    have hne : ∀ blank : Char, CharClass.isBlank blank.toNat = true → c ≠ blank := by
      rintro blank h rfl
      rw [h] at hkept
      cases hkept
    simp [hne '\t' (by decide), hne '\r' (by decide), hne '\n' (by decide)]
  have hscheme : withoutScheme ('/' :: rest) = '/' :: rest := by
    have hhead : (('/' :: rest).takeWhile (· != ':')).head?.any Ascii.isLetter = false := rfl
    unfold withoutScheme
    simp only [hhead, Bool.false_and, Bool.false_eq_true, if_false]
    split
    · rfl
    · rfl
  have hends : ∀ s : List Char, (s.takeWhile (· != '#')).takeWhile (· != '?') = beforeQuery s := by
    intro s
    rw [List.takeWhile_takeWhile, beforeQuery]
    simp only [Bool.decide_and, Bool.decide_eq_true]
  unfold pathOf
  rw [hcleaned, hscheme]
  cases rest with
  | nil => rfl
  | cons c rest =>
    have hc : c ≠ '/' := fun h => hone (by rw [h]; rfl)
    simp only [hends]
    split
    case h_1 heq =>
      cases heq
      exact absurd rfl hc
    case h_2 => rfl

/-- Slashes at the end of a path do not count. -/
theorem trimmed_append_replicate (path : List Char) (n : Nat) :
    trimmed (path ++ List.replicate n '/') = trimmed path := by
  have hslashes : ∀ s : List Char, (List.replicate n '/' ++ s).dropWhile (· == '/') =
      s.dropWhile (· == '/') := by
    intro s
    exact List.dropWhile_append_of_pos (by simp)
  rw [trimmed, trimmed, List.reverse_append, List.reverse_replicate, hslashes]

/-- A target with one slash in front stays as it is. -/
theorem singleSlash_of_head? {rest : List Char} (hone : rest.head? ≠ some '/') :
    singleSlash ('/' :: rest) = '/' :: rest := by
  unfold singleSlash
  split
  case h_1 more heq =>
    cases heq
    exact absurd rfl hone
  case h_2 => rfl

/-- Slashes in front of a target count as one. -/
theorem singleSlash_replicate {rest : List Char} (hone : rest.head? ≠ some '/') (n : Nat) :
    singleSlash ('/' :: (List.replicate n '/' ++ rest)) = '/' :: rest := by
  cases n with
  | zero => exact singleSlash_of_head? hone
  | succ n =>
    have hrest : rest.dropWhile (· == '/') = rest := by
      cases rest with
      | nil => rfl
      | cons c rest =>
        have hc : c ≠ '/' := fun h => hone (by rw [h]; rfl)
        simp [hc]
    have hslashes : (List.replicate n '/' ++ rest).dropWhile (· == '/') = rest := by
      rw [List.dropWhile_append_of_pos (by simp), hrest]
    show '/' :: (List.replicate n '/' ++ rest).dropWhile (· == '/') = _
    rw [hslashes]

/-- The path of a target, whatever number of slashes and whatever query and fragment follow. -/
theorem exists_pathOf {path tail : List Char} {n : Nat} (hslash : path.head? = some '/')
    (hone : path[1]? ≠ some '/') (hpath : ∀ c ∈ path, c ≠ '?' ∧ c ≠ '#')
    (htail : FollowsPath tail)
    (hblank : ∀ c ∈ path ++ List.replicate n '/' ++ tail, CharClass.isBlank c.toNat = false) :
    ∃ m, pathOf (singleSlash (path ++ List.replicate n '/' ++ tail)) =
      .ok (path ++ List.replicate m '/') := by
  obtain ⟨rest, rfl⟩ : ∃ rest, path = '/' :: rest := List.head?_eq_some_iff.mp hslash
  cases rest with
  | nil =>
    -- after the root all slashes are taken as one
    have htailSlash : tail.head? ≠ some '/' := by
      intro h
      rcases htail '/' h with h | h
      · cases h
      · cases h
    have hroot : singleSlash (['/'] ++ List.replicate n '/' ++ tail) = '/' :: tail :=
      singleSlash_replicate htailSlash n
    refine ⟨0, ?_⟩
    rw [hroot, pathOf_slash htailSlash fun c hc => hblank c (by simp [hc])]
    exact congrArg Except.ok (@beforeQuery_append ['/'] tail hpath htail)
  | cons c rest =>
    have hrest : (c :: rest ++ List.replicate n '/' ++ tail).head? ≠ some '/' := hone
    have hkept : singleSlash ('/' :: c :: rest ++ List.replicate n '/' ++ tail) =
        '/' :: (c :: rest ++ List.replicate n '/' ++ tail) := singleSlash_of_head? hrest
    have hslashed : ∀ d ∈ '/' :: c :: rest ++ List.replicate n '/', d ≠ '?' ∧ d ≠ '#' := by
      intro d hd
      rcases List.mem_append.mp hd with hd | hd
      · exact hpath d hd
      · rw [(List.mem_replicate.mp hd).2]
        decide
    refine ⟨n, ?_⟩
    rw [hkept, pathOf_slash hrest fun d hd => hblank d (List.mem_cons_of_mem _ hd)]
    exact congrArg Except.ok (beforeQuery_append hslashed htail)

/-! ## Closed routes -/

/-- Whether reports are answered at a path of an enabled endpoint. -/
def IsReportPath (path : List Char) : Prop := path = "/env".toList ∨ "/env/".toList <+: path

/-- Whether a path is that of the full report can be computed. -/
instance (path : List Char) : Decidable (IsReportPath path) :=
  inferInstanceAs (Decidable (_ ∨ _))

/-- The answer that an endpoint is there. -/
def healthy (enabled : Bool) : Response where
  status := 200
  contentType := "application/json"
  body :=
    "\x7b\"status\": \"ok\", \"enabled\": " ++ (if enabled then "true" else "false") ++ "\x7d"

/-- The answer for what does not exist. -/
def missing : Response where
  status := 404
  contentType := "application/json"
  body := "\x7b\"error\": \"not found\"\x7d"

/-- Where no report is answered the answer is fixed. -/
theorem routed_of_closed {e : Endpoint} {path : List Char}
    (hclosed : e.enabled = false ∨ ¬ IsReportPath path) (principal : Value) :
    routed e path principal =
      .ok (if path = "/health".toList then healthy e.enabled else missing) := by
  have hmissing : Response.json 404 notFound = .ok missing := rfl
  unfold routed
  by_cases hhealth : path = "/health".toList
  · rw [if_pos hhealth, if_pos hhealth]
    cases e.enabled with
    | true => rfl
    | false => rfl
  · rw [if_neg hhealth, if_neg hhealth, hmissing]
    cases henabled : e.enabled with
    | false => rfl
    | true =>
      have hpath : ¬ IsReportPath path := by
        rcases hclosed with hdisabled | hpath
        · rw [henabled] at hdisabled
          cases hdisabled
        · exact hpath
      have hwhole : ¬ path = reportPath := fun h => hpath (Or.inl h)
      have hbelow : ¬ (reportPath ++ ['/']).isPrefixOf path = true := by
        rw [List.isPrefixOf_iff_prefix]
        exact fun h => hpath (Or.inr h)
      rw [if_neg (by decide), if_neg hwhole, if_neg hbelow]

/-- Where no report is answered, endpoints that are enabled alike answer alike to whoever asks: that
they are there, or that nothing is. What follows the path of a target that begins with one slash has
no influence on any answer, and neither have slashes at the end of the path. -/
theorem closed_routes_without_influence :
    (∀ (e d : Endpoint) (r s : Request) (target path : List Char),
      r.target? = some target → s.target? = some target →
      pathOf (singleSlash target) = .ok path → e.enabled = d.enabled →
      (e.enabled = false ∨ ¬ IsReportPath (trimmed path)) →
      respond e r = respond d s ∧
      respond e r =
        .ok (if trimmed path = "/health".toList then healthy e.enabled else missing)) ∧
    ∀ (e : Endpoint) (r s : Request) (target tail : List Char) (n : Nat),
      r.target? = some target → target.head? = some '/' → target[1]? ≠ some '/' →
      FollowsPath tail →
      s.target? = some (beforeQuery target ++ List.replicate n '/' ++ tail) →
      principalOf r.headers = principalOf s.headers →
      respond e r = respond e s := by
  constructor
  · intro e d r s target path hr hs hpath henabled hclosed
    have hleft : respond e r =
        .ok (if trimmed path = "/health".toList then healthy e.enabled else missing) := by
      rw [respond_of_path hr hpath, routed_of_closed hclosed]
    have hright : respond d s =
        .ok (if trimmed path = "/health".toList then healthy d.enabled else missing) := by
      rw [henabled] at hclosed
      rw [respond_of_path hs hpath, routed_of_closed hclosed]
    exact ⟨by rw [hleft, hright, henabled], hleft⟩
  · intro e r s target tail n hr hslash hone htail hs hprincipal
    have hsplit : beforeQuery target ++ List.replicate 0 '/' ++
        (target.dropWhile fun c => c != '?' && c != '#') = target := by
      rw [List.replicate_zero, List.append_nil]
      exact List.takeWhile_append_dropWhile
    obtain ⟨more, rfl⟩ : ∃ more, target = '/' :: more := List.head?_eq_some_iff.mp hslash
    have hpathSlash : (beforeQuery ('/' :: more)).head? = some '/' := rfl
    have hpathOne : (beforeQuery ('/' :: more))[1]? ≠ some '/' := by
      intro h
      apply hone
      obtain ⟨rest, hrest⟩ : beforeQuery ('/' :: more) <+: '/' :: more := List.takeWhile_prefix _
      rw [← hrest, List.getElem?_append_left (List.getElem?_eq_some_iff.mp h).1]
      exact h
    obtain ⟨m, hm⟩ := exists_pathOf (n := 0) hpathSlash hpathOne (fun c => mem_beforeQuery)
      (followsPath_dropWhile ('/' :: more))
      (by rw [hsplit]; exact Request.not_isBlank_of_target hr)
    obtain ⟨k, hk⟩ := exists_pathOf hpathSlash hpathOne (fun c => mem_beforeQuery) htail
      (Request.not_isBlank_of_target hs)
    rw [hsplit] at hm
    rw [respond_of_path hr hm, respond_of_path hs hk, trimmed_append_replicate,
      trimmed_append_replicate, hprincipal]

/-- A hook that fails against none at `/environment`, and two spellings of `/env/app`. -/
theorem closed_routes_without_influence_environment :
    let request (target : String) (headers : List (List UInt8 × List UInt8)) : Request := {
      line := Utf8.encode ("GET " ++ target ++ " HTTP/1.0").toList
      headers }
    let principal := [(Utf8.encode "X-Principal".toList, Utf8.encode "admin".toList)]
    let failing : Endpoint := {
      registry := {}
      hook := some fun _ => .error (.refused "policy store down")
      enabled := true }
    let plain : Endpoint := { registry := {}, enabled := true }
    respond failing (request "/environment?x" []) =
        respond plain (request "/environment?x" principal) ∧
      respond failing (request "/environment?x" []) = .ok missing ∧
      respond failing (request "/env/app?x=/" []) =
        respond failing (request "/env/app//#y" []) := by
  intro request principal failing plain
  obtain ⟨hclosed, hspelling⟩ := closed_routes_without_influence
  have hpath : pathOf (singleSlash "/environment?x".toList) = .ok "/environment".toList := by
    decide +kernel
  have hreport : ¬ IsReportPath (trimmed "/environment".toList) := by decide +kernel
  have hresult := hclosed failing plain (request "/environment?x" [])
    (request "/environment?x" principal) "/environment?x".toList "/environment".toList
    (by decide +kernel) (by decide +kernel) hpath rfl (Or.inr hreport)
  have hsame := hspelling failing (request "/env/app?x=/" []) (request "/env/app//#y" [])
    "/env/app?x=/".toList "#y".toList 2 (by decide +kernel) (by decide +kernel)
    (by decide +kernel) (by simp [FollowsPath]) (by decide +kernel) rfl
  exact ⟨hresult.1, hresult.2, hsame⟩

end MaskedReport.Http
