import MaskedReport.Proofs.BadPatterns
import MaskedReport.Proofs.Blame
import MaskedReport.Proofs.MaskingModes

/-!
# What keeps an endpoint from being made

The settings are to blame where an endpoint cannot be made because of them: where they name no mode,
a malformed pattern or a document that cannot be read. Other failures have their place in the
settings and the files too: a pattern beyond the bounds of patterns, a base that is no text, a path
from an unknown home, a document with a scalar that does not convert. Step by step, in the order in
which an endpoint is made, settings are sound if nothing of the latter kind is in what is reached:
`Settings.contained_endpoint_iff`.
-/

set_option autoImplicit false

namespace MaskedReport

section Contained

variable {α β : Type}

end Contained

/-! ## Patterns and modes -/

namespace Pattern

end Pattern

/-- Whether a value is the name of a mode. -/
def Value.NamesMode (v : Value) : Prop := ∃ mode : Mode, v = .text mode.name

namespace Settings

variable {w : World} {base : Path} {s : Settings}

/-- Whether the masking of settings is settled: they name a mode, and all their patterns are read.
-/
structure Masks (s : Settings) : Prop where
  mode : s.masking.NamesMode
  patterns : ∀ v ∈ s.maskPatterns, Pattern.Reads v

end Settings

/-- Whether nothing but its document keeps a source from being loaded: the homes for its path are
known, and its document is faulty in its form or has a value that is no mapping or has leaves that
can be found. -/
def SourceSetting.IsSound (w : World) (base : Path) (x : SourceSetting) : Prop :=
  ∃ p q, (Path.ofText x.path).expandHome w.home? = .ok p ∧
    (base.join p).expandHome w.home? = .ok q ∧
    w.Yields q fun v => ∀ es, v = .map es → Flatten.Writable es

namespace Settings

variable {w : World} {base : Path} {s : Settings}

/-- Whether every source that is reached is sound: those before it are all loaded. -/
def SourcesSound (w : World) (base : Path) (sources : List SourceSetting) : Prop :=
  ∀ before x after, sources = before ++ x :: after →
    (∀ b ∈ before, ∃ t, load w base b = .ok t) → x.IsSound w base

/-- Whether nothing but what is wrong with settings keeps their endpoint from being made. The
masking comes first: a mode that is none can be shown, and no pattern that is reached escapes. Where
the masking is settled, the base is a text or counts as false, and all sources that are reached are
sound. -/
structure IsSound (w : World) (s : Settings) : Prop where
  mode : s.masking.NamesMode ∨ s.masking.isShowable = true
  patterns : s.masking.NamesMode → Pattern.NoneEscapes s.maskPatterns
  base : s.Masks → s.baseDirectory.truthy = true → ∃ path, s.baseDirectory = .text path
  sources : s.Masks → ∀ base, s.base = .ok base → SourcesSound w base s.sources

end Settings

end MaskedReport
