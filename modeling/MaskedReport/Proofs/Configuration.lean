import Mathlib.Data.List.Induction
import MaskedReport.Proofs.Reading
import MaskedReport.Proofs.Sorting

/-!
# Configuring policies

What a step does to a policy, and what a whole run of steps comes to when any of them may fail. A
step has the patterns it compiles; it fails exactly when compiling them does, and then it changes
nothing. From this `Policy.run_meaning` reads the mode, the patterns and the verdicts of a policy
off its steps.
-/

set_option autoImplicit false

namespace MaskedReport

/-! ## Patterns from values -/

namespace Pattern

/-- Reading the patterns of values is reading that of each in order. -/
theorem ofValues_eq_mapM (given : List Value) : ofValues given = given.mapM (ofValue {}) := by
  induction given with
  | nil => rfl
  | cons v rest ih =>
    rw [List.mapM_cons, ofValues, ih]

/-- Patterns are matched against a text one after the other, which never fails. -/
theorem anyMatches_text (key : Text) (patterns : List Pattern) :
    anyMatches (.text key) patterns = .ok (patterns.any fun p => p.matchesAll key) := by
  induction patterns with
  | nil => rfl
  | cons p rest ih =>
    have hstep : anyMatches (.text key) (p :: rest) =
        if p.matchesAll key then .ok true else anyMatches (.text key) rest := rfl
    rw [hstep, ih, List.any_cons]
    cases p.matchesAll key with
    | true => rfl
    | false => rfl

end Pattern

namespace Policy

/-! ## Steps -/

/-- Whether a step sets the mode. -/
def Step.setsMode : Step → Bool
  | .patterns _ => false
  | _ => true

/-- The patterns that a step compiles, or the failure of the first that cannot be. -/
def Step.compiled : Step → Except Failure (List Pattern)
  | .maskAll => .ok []
  | .maskNone => .ok []
  | .legacy => Pattern.secretWords.mapM fun word =>
      Pattern.ofValue { ignoreCase := true } (.text (".*" ++ word ++ ".*"))
  | .patterns given => given.mapM (Pattern.ofValue {})

/-- The patterns that a step adds: those that it compiles, unless it fails. -/
def Step.added (s : Step) : List Pattern :=
  match s.compiled with
  | .ok new => new
  | .error _ => []

/-- The patterns of secret words compile. -/
theorem Step.compiled_legacy : Step.legacy.compiled = .ok Pattern.secretPatterns :=
  Pattern.mapM_ofValue_secretWords

/-- Adding the patterns of values: all of them, or none if one cannot be read. -/
theorem attempt_patterns (p : Policy) (given : List Value) :
    p.attempt (.patterns given) =
      match Pattern.ofValues given with
      | .ok new => (.ok (), p.addPatterns new)
      | .error f => (.error f, p) := by
  let add : ExceptT Failure (StateM Policy) Unit := do
    let new ← liftExcept (Pattern.ofValues given)
    modify fun q => q.addPatterns new
  show add.run.run p = _
  unfold add
  cases Pattern.ofValues given with
  | ok new => rfl
  | error f => rfl

/-- A step ends as compiling its patterns does. -/
theorem attempt_fst (p : Policy) (s : Step) : (p.attempt s).1 = s.compiled.map fun _ => () := by
  cases s with
  | maskAll => rfl
  | maskNone => rfl
  | legacy =>
    rw [Step.compiled_legacy]
    rfl
  | patterns given =>
    rw [attempt_patterns, Step.compiled, ← Pattern.ofValues_eq_mapM]
    cases Pattern.ofValues given with
    | ok new => rfl
    | error f => rfl

/-- A step adds its patterns after those there are. -/
theorem patterns_attempt (p : Policy) (s : Step) :
    (p.attempt s).2.patterns = p.patterns ++ s.added := by
  cases s with
  | maskAll => exact (List.append_nil _).symm
  | maskNone => exact (List.append_nil _).symm
  | legacy =>
    rw [Step.added, Step.compiled_legacy]
    rfl
  | patterns given =>
    rw [attempt_patterns, Step.added, Step.compiled, ← Pattern.ofValues_eq_mapM]
    cases Pattern.ofValues given with
    | ok new => rfl
    | error f => exact (List.append_nil _).symm

/-- A step that sets the mode sets it to masking everything iff it says so. -/
theorem allMasked_attempt_of_setsMode (p : Policy) (s : Step) (hs : s.setsMode) :
    (p.attempt s).2.allMasked = true ↔ s = .maskAll := by
  cases s with
  | maskAll => exact iff_of_true rfl rfl
  | maskNone => exact iff_of_false Bool.false_ne_true nofun
  | legacy => exact iff_of_false Bool.false_ne_true nofun
  | patterns given => exact absurd hs Bool.false_ne_true

/-- Another step leaves the mode. -/
theorem allMasked_attempt_of_not_setsMode (p : Policy) (s : Step) (hs : ¬ s.setsMode) :
    (p.attempt s).2.allMasked = p.allMasked := by
  cases s with
  | patterns given =>
    rw [attempt_patterns]
    cases Pattern.ofValues given with
    | ok new => rfl
    | error f => rfl
  | _ => exact absurd rfl hs

/-- No step changes for whom the policy is, or the patterns kept for rules that hide. -/
theorem principal_allowed_attempt (p : Policy) (s : Step) :
    (p.attempt s).2.principal = p.principal ∧ (p.attempt s).2.allowed = p.allowed := by
  cases s with
  | patterns given =>
    rw [attempt_patterns]
    cases Pattern.ofValues given with
    | ok new => exact ⟨rfl, rfl⟩
    | error f => exact ⟨rfl, rfl⟩
  | _ => exact ⟨rfl, rfl⟩

/-- A step that fails leaves the policy as it was. -/
theorem attempt_snd_of_error (p : Policy) (s : Step) (f : Failure)
    (hf : (p.attempt s).1 = .error f) : (p.attempt s).2 = p := by
  cases s with
  | patterns given =>
    rw [attempt_patterns] at hf ⊢
    cases hgiven : Pattern.ofValues given with
    | ok new =>
      rw [hgiven] at hf
      cases hf
    | error g => rfl
  | _ => cases hf

/-! ## Runs -/

/-- The steps of a run come one after the other. -/
theorem run_append (p : Policy) (before after : List Step) :
    p.run (before ++ after) = (p.run before).run after := by
  induction before generalizing p with
  | nil => rfl
  | cons s before ih => exact ih (p.attempt s).2

/-- A run with one more step is the run and then the step. -/
theorem run_concat (p : Policy) (steps : List Step) (s : Step) :
    p.run (steps ++ [s]) = ((p.run steps).attempt s).2 := by
  rw [run_append]
  rfl

/-- A run adds the patterns of its steps in order. -/
theorem patterns_run (p : Policy) (steps : List Step) :
    (p.run steps).patterns = p.patterns ++ steps.flatMap Step.added := by
  induction steps using List.reverseRecOn with
  | nil => exact (List.append_nil _).symm
  | append_singleton steps s ih =>
    rw [run_concat, patterns_attempt, ih, List.flatMap_append, List.append_assoc]
    simp

/-- A run keeps for whom the policy is, and the patterns kept for rules that hide. -/
theorem principal_allowed_run (p : Policy) (steps : List Step) :
    (p.run steps).principal = p.principal ∧ (p.run steps).allowed = p.allowed := by
  induction steps using List.reverseRecOn with
  | nil => exact ⟨rfl, rfl⟩
  | append_singleton steps s ih =>
    obtain ⟨hprincipal, hallowed⟩ := principal_allowed_attempt (p.run steps) s
    rw [run_concat, hprincipal, hallowed]
    exact ih

/-- The last step that sets the mode decides it. -/
theorem allMasked_run (principal : Value) (steps : List Step) :
    (run { principal } steps).allMasked = true ↔
      ∀ s, (steps.filter Step.setsMode).getLast? = some s → s = .maskAll := by
  induction steps using List.reverseRecOn with
  | nil => simp [run]
  | append_singleton steps last ih =>
    rw [run_concat, List.filter_append]
    by_cases hlast : last.setsMode
    · rw [allMasked_attempt_of_setsMode _ last hlast]
      simp [hlast]
    · rw [allMasked_attempt_of_not_setsMode _ last hlast, ih]
      simp [hlast]

/-- Where all steps succeed they come to what the run comes to. -/
theorem run_of_applyAll {p q : Policy} {steps : List Step} (h : p.applyAll steps = .ok q) :
    q = p.run steps := by
  induction steps generalizing p with
  | nil =>
    cases h
    rfl
  | cons s steps ih =>
    obtain ⟨next, hnext, h⟩ := bind_eq_ok h
    have hleft : next = (p.attempt s).2 := by
      unfold apply at hnext
      split at hnext
      case h_1 left hattempt =>
        cases hnext
        rw [hattempt]
      case h_2 => cases hnext
    rw [ih h, hleft]
    rfl

/-! ## Verdicts -/

/-- The verdict on a text: plain where it is an exception to what is masked. -/
theorem classify_text (p : Policy) (key : Text) :
    p.classify (.text key) = .ok
      (if (p.patterns.any fun q => q.matchesAll key) = p.allMasked then .plain else .mask) := by
  unfold classify
  rw [Pattern.anyMatches_text]
  cases p.patterns.any fun q => q.matchesAll key <;> cases p.allMasked <;> rfl

/-- What a run of steps on a new policy comes to. The last step that sets the mode decides it; the
patterns are those of the steps in order, where a step that fails has none; a step fails as
compiling its patterns does, and then leaves the policy as it was; and the verdict on a text goes by
mode and patterns and never hides. -/
theorem run_meaning (principal : Value) (steps : List Step) :
    let p := run { principal } steps
    (p.allMasked = true ↔
      ∀ s, (steps.filter Step.setsMode).getLast? = some s → s = .maskAll) ∧
    p.patterns = steps.flatMap Step.added ∧
    (∀ s, (p.attempt s).1 = s.compiled.map fun _ => ()) ∧
    (∀ s f, (p.attempt s).1 = .error f → (p.attempt s).2 = p) ∧
    (p.principal = principal ∧ p.allowed = []) ∧
    ∀ key : Text, p.classify (.text key) = .ok
      (if (p.patterns.any fun q => q.matchesAll key) = p.allMasked then .plain else .mask) := by
  intro p
  exact ⟨allMasked_run principal steps, patterns_run _ steps, attempt_fst p,
    attempt_snd_of_error p, principal_allowed_run _ steps, classify_text p⟩

end Policy

end MaskedReport
