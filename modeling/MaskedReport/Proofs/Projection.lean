import MaskedReport.Proofs.Loading
import MaskedReport.Proofs.NormalForm

/-!
# Reading settings again

Reading settings is a projection: what is read from a value is read again from its own value,
whether that stands alone or under the key of settings. A mapping is read the same alone and under
that key, and an endpoint is the same made of a value or of what was read from it:
`Settings.normal_form_read_again`.
-/

set_option autoImplicit false

namespace MaskedReport.Settings

/-- Settings in normal form under their key are the section. -/
theorem entriesOf_of_named {s : Settings} {es : Entries}
    (h : es.named? "env_endpoint" = some s.toValue) :
    entriesOf (.map es) = entriesOf s.toValue := by
  obtain ⟨first, rest, hown, hflat⟩ : ∃ first rest, s.toValue = .map (first :: rest) ∧
      Entries.named? "env_endpoint" (first :: rest) = none :=
    ⟨_, _, rfl, by simp [Entries.named?, Entries.get?, Value.same]⟩
  rw [hown] at h ⊢
  cases es with
  | nil => cases h
  | cons e es => simp [entriesOf, h, hflat, Value.truthy]

/-- A mapping without the key of settings is the section whether it stands alone or under the key.
-/
theorem entriesOf_nested {es : Entries} (h : es.named? "env_endpoint" = none) :
    entriesOf (.map [(.text "env_endpoint", .map es)]) = entriesOf (.map es) := by
  have hfound : Entries.named? "env_endpoint" [(.text "env_endpoint", .map es)] =
      some (.map es) := by
    simp [Entries.named?, Entries.get?, Value.same]
  cases es with
  | nil => simp [entriesOf, hfound, Value.truthy]
  | cons e rest => simp [entriesOf, hfound, h, Value.truthy]

/-- Values with the same entries of settings give the same settings. -/
theorem ofValue_congr {v v' : Value} (h : entriesOf v = entriesOf v') : ofValue v = ofValue v' := by
  rw [ofValue, ofValue, h]

/-- What is read from a value is read again from its own value, also where that is under the key of
settings beside whatever else. A mapping without that key is read the same under it, with the same
failure. The masking and the endpoint that a value gives are those of what is read from it. -/
theorem normal_form_read_again {v : Value} {s : Settings} (h : ofValue v = .ok s) :
    ofValue s.toValue = .ok s ∧
    (∀ es : Entries, es.named? "env_endpoint" = some s.toValue → ofValue (.map es) = .ok s) ∧
    (∀ es : Entries, es.named? "env_endpoint" = none →
      ofValue (.map [(.text "env_endpoint", .map es)]) = ofValue (.map es)) ∧
    (ofValue v >>= maskingHook) = (ofValue s.toValue >>= maskingHook) ∧
    ∀ w given, endpointOfValue w v given = endpointOfValue w s.toValue given := by
  have hagain : ofValue s.toValue = ofValue v := by rw [ofValue_toValue, h]
  refine ⟨ofValue_toValue s, ?_, ?_, ?_, ?_⟩
  · intro es hes
    rw [ofValue_congr (entriesOf_of_named hes), ofValue_toValue]
  · exact fun es hes => ofValue_congr (entriesOf_nested hes)
  · rw [hagain]
  · intro w given
    rw [endpointOfValue, endpointOfValue, hagain]

/-- The normal form of nested settings is read again as itself. -/
theorem normal_form_read_again_nested :
    ∃ s, ofValue nestedSettings = .ok s ∧
      s.sources.map (fun x => (x.path, x.order)) =
        [(Text.ofString "a.yml", 0), (Text.ofString "5", 10)] ∧
      ofValue s.toValue = .ok s ∧
      ofValue (.map [(.text "env_endpoint", s.toValue), (.text "packages", .text "web")]) = .ok s ∧
      ∀ w given, endpointOfValue w nestedSettings given = endpointOfValue w s.toValue given := by
  have hread : (ofValue nestedSettings).toOption.map (fun s =>
      s.sources.map fun x => (x.path, x.order)) =
        some [(Text.ofString "a.yml", 0), (Text.ofString "5", 10)] := by
    decide +kernel
  obtain ⟨s, hs, hsources⟩ := Option.map_eq_some_iff.mp hread
  have hok : ofValue nestedSettings = .ok s := eq_ok_of_toOption hs
  obtain ⟨hagain, hnested, -, -, hendpoint⟩ := normal_form_read_again hok
  exact ⟨s, hok, hsources, hagain, hnested _ (by simp [Entries.named?, Entries.get?, Value.same]),
    hendpoint⟩

end MaskedReport.Settings
