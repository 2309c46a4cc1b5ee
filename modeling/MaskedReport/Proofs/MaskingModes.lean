import MaskedReport.Proofs.Reporting

/-!
# What a masking from settings makes of policies

A masking is read from settings once, and configures the policy of every request. Its patterns have
been read by then and stand for themselves when they are given again, so configuring never fails,
whatever the policy was before: `Masking.hook_eq`. On a new policy the verdicts go by the mode and
the patterns alone: `Policy.classify_hooked`. Both are put together, from the values of the settings
on, in `masking_never_fails`.
-/

set_option autoImplicit false

namespace MaskedReport

namespace Mode

/-- A mode is read from its name, which is a text, and from nothing else. -/
theorem ofValue_eq_ok_iff {v : Value} {mode : Mode} :
    ofValue v = .ok mode ↔ v = .text mode.name := by
  constructor
  · intro h
    unfold ofValue at h
    cases hfind : every.find? fun m : Mode => (Value.text m.name).same v with
    | some m =>
      rw [hfind] at h
      cases h
      have hsame := List.find?_some hfind
      exact (Value.text_same_iff mode.name v).mp hsame
    | none =>
      rw [hfind] at h
      obtain ⟨shown, -, hthrow⟩ := bind_eq_ok h
      cases hthrow
  · rintro rfl
    cases mode <;> simp [ofValue, every, name, Value.same]

/-- The patterns that a mode brings along. -/
def patterns : Mode → List Pattern
  | legacy => Pattern.secretPatterns
  | _ => []

/-- The verdict on a text under a mode with given patterns. -/
def verdict (mode : Mode) (given : List Pattern) (key : Text) : Verdict :=
  match mode with
  | all => if given.any fun q => q.matchesAll key then .plain else .mask
  | none => if given.any fun q => q.matchesAll key then .mask else .plain
  | legacy =>
    if (given ++ Pattern.secretPatterns).any fun q => q.matchesAll key then .mask else .plain

end Mode

namespace Masking

/-- A masking is made of the name of its mode and of what its patterns are read from. -/
theorem ofValues_eq_ok_iff {mode given : Value} {m : Masking} :
    ofValues mode given = .ok m ↔ mode = .text m.mode.name ∧
      ∃ items, given.items = .ok items ∧ Pattern.ofValues items = .ok m.patterns := by
  constructor
  · intro h
    obtain ⟨known, hknown, h⟩ := bind_eq_ok h
    obtain ⟨items, hitems, h⟩ := bind_eq_ok h
    obtain ⟨patterns, hpatterns, h⟩ := bind_eq_ok h
    cases h
    exact ⟨Mode.ofValue_eq_ok_iff.mp hknown, items, hitems, hpatterns⟩
  · rintro ⟨rfl, items, hitems, hpatterns⟩
    rw [ofValues, Mode.ofValue_eq_ok_iff.mpr rfl]
    show (given.items >>= fun items => Pattern.ofValues items >>= _) = _
    rw [hitems]
    show (Pattern.ofValues items >>= _) = _
    rw [hpatterns]
    rfl

/-- The step of a mode sets the mode of a policy and adds the patterns that the mode brings along.
-/
theorem attempt_step (mode : Mode) (p : Policy) :
    (p.attempt mode.step).2 =
      { p with allMasked := mode = .all, patterns := p.patterns ++ mode.patterns } := by
  cases mode with
  | all =>
    rw [Mode.patterns, List.append_nil]
    · rfl
    · nofun
  | none =>
    rw [Mode.patterns, List.append_nil]
    · rfl
    · nofun
  | legacy => rfl

/-- A masking sets the mode of every policy, and adds the patterns of the mode and then its own. -/
theorem hook_eq (m : Masking) (p : Policy) :
    m.hook p = .ok { p with
      allMasked := m.mode = .all
      patterns := p.patterns ++ m.mode.patterns ++ m.patterns } := by
  have hrun : p.run m.steps =
      ((p.attempt m.mode.step).2.attempt (.patterns (m.patterns.map .pattern))).2 := rfl
  rw [hook_eq_run, hrun, attempt_step, Policy.attempt_patterns, Pattern.ofValues_pattern]
  rfl

end Masking

/-- What a masking makes of a new policy gives each text the verdict of the mode. -/
theorem Policy.classify_hooked {m : Masking} {principal : Value} {q : Policy}
    (h : m.hook { principal } = .ok q) (key : Text) :
    q.classify (.text key) = .ok (m.mode.verdict m.patterns key) := by
  rw [Masking.hook_eq, Except.ok.injEq] at h
  subst h
  rw [classify_text]
  cases m.mode with
  | all => simp [Mode.patterns, Mode.verdict]
  | none =>
    rw [Mode.verdict, Mode.patterns, List.append_nil, List.nil_append]
    · cases m.patterns.any fun q => q.matchesAll key <;> rfl
    · nofun
  | legacy =>
    rw [Mode.verdict, Mode.patterns, List.nil_append, List.any_append, List.any_append,
      Bool.or_comm]
    cases (m.patterns.any fun q => q.matchesAll key) ||
      Pattern.secretPatterns.any fun q => q.matchesAll key <;> rfl

/-- A masking that has been made from values fails for no request. Its patterns are those that the
values are read as, and it configures every policy, whatever that was before: it sets the mode and
adds the patterns of the mode and then its own. An endpoint with the masking for its hook has a
policy for whoever asks, and the verdict on a text is the same for all. -/
theorem masking_never_fails {mode given : Value} {m : Masking}
    (hm : Masking.ofValues mode given = .ok m) :
    mode = .text m.mode.name ∧
    ∃ items compiled, given.items = .ok items ∧ Pattern.ofValues items = .ok compiled ∧
      (∀ p : Policy, ∃ q, m.hook p = .ok q ∧ (q.allMasked = true ↔ m.mode = .all) ∧
        q.patterns = p.patterns ++ m.mode.patterns ++ compiled ∧
        q.principal = p.principal ∧ q.allowed = p.allowed) ∧
      ∀ e : Endpoint, e.hook = some m.hook → ∀ principal,
        ∃ q, e.policy principal = .ok q ∧ q.principal = principal ∧
          ∀ key : Text, q.classify (.text key) = .ok (m.mode.verdict compiled key) := by
  obtain ⟨hmode, items, hitems, hcompiled⟩ := Masking.ofValues_eq_ok_iff.mp hm
  refine ⟨hmode, items, m.patterns, hitems, hcompiled, ?_, ?_⟩
  · intro p
    exact ⟨_, m.hook_eq p, decide_eq_true_iff, rfl, rfl, rfl⟩
  · intro e he principal
    have hpolicy := m.hook_eq { principal }
    refine ⟨_, ?_, rfl, fun key => Policy.classify_hooked hpolicy key⟩
    rw [Endpoint.policy, he]
    exact hpolicy

/-- A masking with a text and a pattern that has been read, for a policy that masks everything. -/
theorem masking_never_fails_port :
    let port : Pattern := {
      text := "port"
      flags := { unicode := true }
      node := .sequence ("port".toList.map fun c => .char c.toNat) }
    let host := Pattern.holdingWord "host"
    ∃ m, Masking.ofValues (.text "none") (.list [.text "port", .pattern host]) = .ok m ∧
      (∃ q, m.hook { principal := .null, patterns := [host] } = .ok q ∧ q.allMasked = false ∧
        q.patterns = [host, port, host]) ∧
      ∀ e : Endpoint, e.hook = some m.hook → ∀ principal, ∃ q, e.policy principal = .ok q ∧
        q.classify (.text "port") = .ok .mask ∧ q.classify (.text "path") = .ok .plain := by
  intro port host
  have hport : Pattern.compile {} "port" = .ok port := by
    have hletters : ∀ c ∈ Text.toList "port", c ∉ Pattern.metaChars := by decide
    refine Pattern.compile_simple {} ((Text.toList "port").map .letter) ?_ rfl rfl rfl
    intro part hpart
    obtain ⟨c, hc, rfl⟩ := List.mem_map.mp hpart
    exact hletters c hc
  have hcompiled : Pattern.ofValues [.text "port", .pattern host] = .ok [port, host] := by
    rw [Pattern.ofValues, Pattern.ofValue, hport]
    rfl
  have hm : Masking.ofValues (.text "none") (.list [.text "port", .pattern host]) =
      .ok { mode := .none, patterns := [port, host] } :=
    Masking.ofValues_eq_ok_iff.mpr ⟨rfl, _, rfl, hcompiled⟩
  obtain ⟨-, items, compiled, hitems, hread, hhook, hverdicts⟩ := masking_never_fails hm
  obtain rfl : [.text "port", .pattern host] = items := Except.ok.inj hitems
  obtain rfl : [port, host] = compiled := Except.ok.inj (hcompiled.symm.trans hread)
  refine ⟨_, hm, ?_, ?_⟩
  · obtain ⟨q, hq, hmode, hpatterns, -⟩ := hhook { principal := .null, patterns := [host] }
    exact ⟨q, hq, by simpa using hmode, hpatterns⟩
  · intro e he principal
    obtain ⟨q, hq, -, hclassify⟩ := hverdicts e he principal
    refine ⟨q, hq, ?_, ?_⟩
    · rw [hclassify]
      decide +kernel
    · rw [hclassify]
      decide +kernel

end MaskedReport
