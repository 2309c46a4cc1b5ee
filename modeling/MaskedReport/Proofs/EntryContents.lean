import MaskedReport.Proofs.Completeness
import MaskedReport.Proofs.Noninterference

/-!
# What an entry contains

An entry is built by one pass over the keys of a source, which may repeat, under a rule that may
hide keys. The pass is compared with what it should come to: the keys that are not hidden, each
where it comes first, with the mask or the value (`Entry.addProperties_eq_ok_iff`), or the failure
of the first plain key that cannot be read (`Entry.addProperties_eq_error_iff`). The two together
are `entry_built_exactly`.
-/

set_option autoImplicit false

namespace MaskedReport

/-! ## What a key shows -/

namespace Source

/-- Whether a property is what a source shows of a key that is not hidden: the mask where the key is
masked, and what asking for the key gives where it is plain. -/
def Shows (verdict : Text → Verdict) (s : Source) (name : Text) (property : Value × Value) :
    Prop :=
  property.1 = .text name ∧
    (verdict name = .mask ∧ property.2 = maskMark ∨
      verdict name = .plain ∧ s.get (.text name) = .ok property.2)

/-- Whether a failure is that of the first plain key that cannot be read. -/
def FirstFailure (verdict : Text → Verdict) (s : Source) (names : List Text) (f : Failure) :
    Prop :=
  ∃ before name after, names = before ++ name :: after ∧ verdict name = .plain ∧
    s.get (.text name) = .error f ∧
    ∀ other ∈ before, verdict other = .plain → ∃ v, s.get (.text other) = .ok v

variable {verdict : Text → Verdict} {s : Source} {name : Text} {seen rest : List Text}
  {found : Entries}

/-- A key shows one thing. -/
theorem shows_rightUnique : Relator.RightUnique (s.Shows verdict) := by
  intro name e d he hd
  obtain ⟨hkey, ⟨hmask, hvalue⟩ | ⟨hplain, hread⟩⟩ := he
  · obtain ⟨hkey', ⟨-, hvalue'⟩ | ⟨hplain, -⟩⟩ := hd
    · exact Prod.ext (hkey.trans hkey'.symm) (hvalue.trans hvalue'.symm)
    · simp [hmask] at hplain
  · obtain ⟨hkey', ⟨hmask, -⟩ | ⟨-, hread'⟩⟩ := hd
    · simp [hplain] at hmask
    · rw [hread, Except.ok.injEq] at hread'
      exact Prod.ext (hkey.trans hkey'.symm) hread'

/-- A plain key that cannot be read shows nothing. -/
theorem not_shows_of_error {f : Failure} (hplain : verdict name = .plain)
    (hfail : s.get (.text name) = .error f) (e : Value × Value) : ¬ s.Shows verdict name e := by
  rintro ⟨-, ⟨hmask, -⟩ | ⟨-, hread⟩⟩
  · simp [hplain] at hmask
  · simp [hfail] at hread

/-- Shown properties have the keys that show them. -/
theorem keys_of_shows (h : List.Forall₂ (s.Shows verdict) seen found) :
    Entries.keys found = seen.map .text := by
  induction h with
  | nil => rfl
  | @cons name e seen found he _ ih =>
    rw [List.map_cons, ← ih, ← he.1]
    rfl

/-- Giving a key that is shown what it shows changes nothing. -/
theorem assign_of_mem (h : List.Forall₂ (s.Shows verdict) seen found) {value : Value}
    (hname : name ∈ seen) (hvalue : s.Shows verdict name (.text name, value)) :
    Entries.assign (.text name) value found = found := by
  induction h with
  | nil => cases hname
  | @cons first e seen found he _ ih =>
    obtain ⟨key, shown⟩ := e
    obtain rfl : key = .text first := he.1
    by_cases hsame : first = name
    · subst hsame
      obtain rfl : shown = value := (Prod.ext_iff.mp (shows_rightUnique he hvalue)).2
      simp [Entries.assign, Value.same]
    · have hrest : name ∈ seen := List.mem_of_ne_of_mem (Ne.symm hsame) hname
      have hne : ¬ (Value.text first).same (.text name) = true := by
        rw [Value.same_text_iff, Value.text.injEq]
        exact hsame
      rw [Entries.assign, if_neg hne, ih hrest]

/-- Giving a key that is not shown yet a value adds it at the end. -/
theorem assign_of_notMem (h : List.Forall₂ (s.Shows verdict) seen found) (hname : name ∉ seen)
    (value : Value) :
    Entries.assign (.text name) value found = found ++ [(.text name, value)] := by
  apply Entries.assign_of_new
  rw [keys_of_shows h, List.mem_map]
  rintro ⟨other, hother, heq⟩
  cases heq
  exact hname hother

/-- A key that does not fail is passed over. -/
theorem firstFailure_cons_iff {f : Failure}
    (hread : verdict name = .plain → ∃ v, s.get (.text name) = .ok v) :
    s.FirstFailure verdict (name :: rest) f ↔ s.FirstFailure verdict rest f := by
  constructor
  · rintro ⟨before, first, after, hnames, hplain, hfail, hbefore⟩
    cases before with
    | nil =>
      cases hnames
      obtain ⟨v, hv⟩ := hread hplain
      simp [hfail] at hv
    | cons other before =>
      cases hnames
      exact ⟨before, first, after, rfl, hplain, hfail, (List.forall_mem_cons.mp hbefore).2⟩
  · rintro ⟨before, first, after, rfl, hplain, hfail, hbefore⟩
    refine ⟨name :: before, first, after, rfl, hplain, hfail, ?_⟩
    rw [List.forall_mem_cons]
    exact ⟨hread, hbefore⟩

/-- A plain key that cannot be read stops the pass. -/
theorem firstFailure_cons_of_error {f g : Failure} (hplain : verdict name = .plain)
    (hfail : s.get (.text name) = .error g) :
    s.FirstFailure verdict (name :: rest) f ↔ g = f := by
  constructor
  · rintro ⟨before, first, after, hnames, -, hfirst, hbefore⟩
    cases before with
    | nil =>
      cases hnames
      simpa [hfail] using hfirst
    | cons other before =>
      cases hnames
      obtain ⟨v, hv⟩ := hbefore name List.mem_cons_self hplain
      simp [hfail] at hv
  · rintro rfl
    exact ⟨[], name, rest, rfl, hplain, hfail, by simp⟩

end Source

/-! ## First occurrences -/

/-- The keys that are not hidden, each where it comes first. -/
def shownNames (verdict : Text → Verdict) (names : List Text) : List Text :=
  (names.filter fun name => verdict name != .hide).eraseDups

/-- The keys that are not hidden and have not been seen, each where it comes first. -/
def newNames (verdict : Text → Verdict) (seen names : List Text) : List Text :=
  ((names.filter fun name => verdict name != .hide).removeAll seen).eraseDups

section NewNames

variable {verdict : Text → Verdict} {name : Text} {seen names : List Text}

/-- Where nothing has been seen all shown names are new. -/
theorem newNames_nil (verdict : Text → Verdict) (names : List Text) :
    newNames verdict [] names = shownNames verdict names := by
  simp [newNames, shownNames, List.removeAll]

/-- A hidden name is not new. -/
theorem newNames_cons_of_hide (h : verdict name = .hide) :
    newNames verdict seen (name :: names) = newNames verdict seen names := by
  simp [newNames, h]

/-- A name that has been seen is not new. -/
theorem newNames_cons_of_mem (h : name ∈ seen) :
    newNames verdict seen (name :: names) = newNames verdict seen names := by
  by_cases hhide : verdict name = .hide
  · exact newNames_cons_of_hide hhide
  · simp [newNames, hhide, List.removeAll, h]

/-- A shown name that has not been seen is new, and seen from then on. -/
theorem newNames_cons_of_notMem (hshown : verdict name ≠ .hide) (h : name ∉ seen) :
    newNames verdict seen (name :: names) = name :: newNames verdict (seen ++ [name]) names := by
  have hfilter : (name :: names).filter (fun name => verdict name != .hide) =
      name :: names.filter fun name => verdict name != .hide := by
    simp [hshown]
  unfold newNames List.removeAll
  rw [hfilter, List.filter_cons_of_pos (by simpa using h), List.eraseDups_cons, List.filter_filter]
  congr 3
  funext other
  by_cases hother : other = name <;> simp [hother]

end NewNames

/-! ## The pass -/

namespace Entry

variable {classify : Classify} {verdict : Text → Verdict} {s : Source}

/-- A key is left out, masked or read. -/
theorem addProperties_cons (hclassify : ∀ name, classify (.text name) = .ok (verdict name))
    (name : Text) (reading : Except Failure Value)
    (rest : List (Value × Except Failure Value)) (found : Entries) :
    addProperties classify ((.text name, reading) :: rest) found =
      match verdict name with
      | .hide => addProperties classify rest found
      | .mask => addProperties classify rest (found.assign (.text name) maskMark)
      | .plain => reading >>= fun value =>
          addProperties classify rest (found.assign (.text name) value) := by
  rw [addProperties, hclassify]
  cases verdict name <;> rfl

/-- The pass fails with what the first plain key that cannot be read gives. -/
theorem addProperties_eq_error_iff
    (hclassify : ∀ name, classify (.text name) = .ok (verdict name)) (names : List Text)
    (found : Entries) (f : Failure) :
    addProperties classify (names.map fun name => (.text name, s.get (.text name))) found =
      .error f ↔ s.FirstFailure verdict names f := by
  induction names generalizing found with
  | nil => simp [addProperties, Source.FirstFailure]
  | cons name rest ih =>
    rw [List.map_cons, addProperties_cons hclassify]
    cases hverdict : verdict name with
    | hide =>
      rw [Source.firstFailure_cons_iff (by simp [hverdict])]
      exact ih found
    | mask =>
      rw [Source.firstFailure_cons_iff (by simp [hverdict])]
      exact ih _
    | plain =>
      cases hread : s.get (.text name) with
      | ok value =>
        rw [Source.firstFailure_cons_iff fun _ => ⟨value, hread⟩]
        exact ih _
      | error g =>
        rw [Source.firstFailure_cons_of_error hverdict hread]
        exact Except.error.injEq g f ▸ Iff.rfl

/-- The pass, on properties that are those of the keys seen, adds the new ones that are not
hidden. -/
theorem addProperties_eq_ok_iff
    (hclassify : ∀ name, classify (.text name) = .ok (verdict name)) (names : List Text)
    {seen : List Text} {found : Entries} (hfound : List.Forall₂ (s.Shows verdict) seen found)
    (es : Entries) :
    addProperties classify (names.map fun name => (.text name, s.get (.text name))) found =
      .ok es ↔ List.Forall₂ (s.Shows verdict) (seen ++ newNames verdict seen names) es := by
  induction names generalizing seen found with
  | nil =>
    have hnone : newNames verdict seen [] = [] := by simp [newNames, List.removeAll]
    rw [hnone, List.append_nil, List.map_nil, addProperties, Except.ok.injEq]
    constructor
    · rintro rfl
      exact hfound
    · exact fun hes => Source.shows_rightUnique.forall₂ hfound hes
  | cons name rest ih =>
    -- a key that is shown either keeps its place or comes at the end
    have hshown : ∀ value, s.Shows verdict name (.text name, value) →
        (addProperties classify (rest.map fun name => (.text name, s.get (.text name)))
            (found.assign (.text name) value) = .ok es ↔
          List.Forall₂ (s.Shows verdict) (seen ++ newNames verdict seen (name :: rest)) es) := by
      intro value hvalue
      by_cases hname : name ∈ seen
      · rw [Source.assign_of_mem hfound hname hvalue, newNames_cons_of_mem hname]
        exact ih hfound
      · have hhide : verdict name ≠ .hide := by
          obtain ⟨-, ⟨hmask, -⟩ | ⟨hplain, -⟩⟩ := hvalue
          · simp [hmask]
          · simp [hplain]
        have hlonger : List.Forall₂ (s.Shows verdict) (seen ++ [name])
            (found ++ [(.text name, value)]) :=
          List.rel_append hfound (.cons hvalue .nil)
        have hsplit := List.append_cons seen name (newNames verdict (seen ++ [name]) rest)
        rw [Source.assign_of_notMem hfound hname, newNames_cons_of_notMem hhide hname, hsplit]
        exact ih hlonger
    rw [List.map_cons, addProperties_cons hclassify]
    cases hverdict : verdict name with
    | hide =>
      rw [newNames_cons_of_hide hverdict]
      exact ih hfound
    | mask => exact hshown maskMark ⟨rfl, Or.inl ⟨hverdict, rfl⟩⟩
    | plain =>
      cases hread : s.get (.text name) with
      | ok value => exact hshown value ⟨rfl, Or.inr ⟨hverdict, hread⟩⟩
      | error g =>
        have hhide : verdict name ≠ .hide := by simp [hverdict]
        have hmem : name ∈ seen ++ newNames verdict seen (name :: rest) := by
          by_cases hname : name ∈ seen
          · simp [hname]
          · simp [newNames_cons_of_notMem hhide hname]
        apply iff_of_false
        · intro h
          cases h
        · intro hes
          obtain ⟨e, -, he⟩ := exists_related_right hes hmem
          exact Source.not_shows_of_error hverdict hread e he

end Entry

/-- An entry is built exactly, by any rule that knows all texts and from any source whose keys are
texts and read as asking for them does. It fails iff some plain key cannot be read, and then with
the failure of the first such key. Otherwise it has the frame of the source, and the properties are
the keys that are not hidden, each where it comes first, with the mask where the key is masked and
what asking for it gives where it is plain. -/
theorem entry_built_exactly {classify : Classify} {verdict : Text → Verdict}
    (hclassify : ∀ name, classify (.text name) = .ok (verdict name)) {s : Source}
    (hreads : s.ReadsByGet) {names : List Text} (hnames : s.keys = names.map .text) :
    ((∃ f, Entry.ofSource classify s = .error f) ↔
      ∃ name ∈ names, verdict name = .plain ∧ ∃ f, s.get (.text name) = .error f) ∧
    (∀ f, Entry.ofSource classify s = .error f ↔ s.FirstFailure verdict names f) ∧
    ∀ e, Entry.ofSource classify s = .ok e ↔
      (e.name = s.name ∧ e.order = s.order ∧ e.convention = s.convention) ∧
        List.Forall₂ (s.Shows verdict) (shownNames verdict names) e.properties := by
  have hreadings : s.readings = names.map fun name => (.text name, s.get (.text name)) := by
    rw [hreads.readings_eq, hnames, List.map_map]
    rfl
  have herror : ∀ f, Entry.ofSource classify s = .error f ↔ s.FirstFailure verdict names f := by
    intro f
    rw [← Entry.addProperties_eq_error_iff hclassify names [] f, Entry.ofSource, hreadings]
    cases Entry.addProperties classify (names.map fun name => (.text name, s.get (.text name))) []
      <;> simp [bind, Except.bind, pure, Except.pure]
  have hok : ∀ e, Entry.ofSource classify s = .ok e ↔
      (e.name = s.name ∧ e.order = s.order ∧ e.convention = s.convention) ∧
        List.Forall₂ (s.Shows verdict) (shownNames verdict names) e.properties := by
    intro e
    have hpass := Entry.addProperties_eq_ok_iff hclassify names
      (List.Forall₂.nil : List.Forall₂ (s.Shows verdict) [] []) e.properties
    rw [List.nil_append, newNames_nil] at hpass
    rw [← hpass, Entry.ofSource, hreadings]
    cases Entry.addProperties classify (names.map fun name => (.text name, s.get (.text name))) []
    · simp [bind, Except.bind]
    · obtain ⟨name, order, convention, properties⟩ := e
      simp only [bind, Except.bind, pure, Except.pure, Except.ok.injEq, Entry.mk.injEq]
      grind
  refine ⟨⟨?_, ?_⟩, herror, hok⟩
  · rintro ⟨f, hf⟩
    obtain ⟨before, name, after, rfl, hplain, hfail, -⟩ := (herror f).mp hf
    exact ⟨name, by simp, hplain, f, hfail⟩
  · rintro ⟨name, hname, hplain, f, hfail⟩
    rw [exists_error_iff]
    rintro ⟨e, he⟩
    have hshown : name ∈ shownNames verdict names := by
      simp [shownNames, hname, hplain]
    obtain ⟨d, -, hd⟩ := exists_related_right ((hok e).mp he).2 hshown
    exact Source.not_shows_of_error hplain hfail d hd

/-- Under a rule that hides, masks and shows, a port that comes twice is shown where it came first,
and of two keys that cannot be read the first decides the failure. -/
theorem entry_built_exactly_port :
    let verdict (name : Text) : Verdict :=
      if name = "hidden" then .hide else if name = "token" then .mask else .plain
    let classify : Classify
      | .text name => .ok (verdict name)
      | _ => .ok .hide
    let read : Value → Except Failure Value
      | .text name =>
        if name = "port" then .ok (.int 80)
        else if name = "path" then .ok (.text "/")
        else .error (.refused name.string)
      | _ => .error (.refused "")
    let source (names : List Text) : Source := {
      name := .text "app"
      order := .int 0
      convention := .dotted
      contents := .computed (names.map .text) read }
    Entry.ofSource classify (source ["port", "hidden", "token", "port", "path"]) = .ok {
      name := .text "app"
      order := .int 0
      convention := .dotted
      properties := [(.text "port", .int 80), (.text "token", maskMark),
        (.text "path", .text "/")] } ∧
    Entry.ofSource classify (source ["port", "token", "lost", "gone"]) =
      .error (.refused "lost") := by
  intro verdict classify read source
  have hclassify : ∀ name, classify (.text name) = .ok (verdict name) := fun _ => rfl
  have hreads : ∀ names, (source names).ReadsByGet := fun _ => Source.readsByGet_computed _ _ _ _ _
  have hkeys : ∀ names, (source names).keys = names.map .text := fun _ => rfl
  constructor
  · rw [(entry_built_exactly hclassify (hreads _) (hkeys _)).2.2]
    refine ⟨⟨rfl, rfl, rfl⟩, ?_⟩
    have hnames : shownNames verdict ["port", "hidden", "token", "port", "path"] =
        ["port", "token", "path"] := by decide
    rw [hnames]
    exact .cons ⟨rfl, Or.inr ⟨rfl, rfl⟩⟩ (.cons ⟨rfl, Or.inl ⟨rfl, rfl⟩⟩
      (.cons ⟨rfl, Or.inr ⟨rfl, rfl⟩⟩ .nil))
  · rw [(entry_built_exactly hclassify (hreads _) (hkeys _)).2.1]
    refine ⟨["port", "token"], "lost", ["gone"], rfl, rfl, rfl, ?_⟩
    simp [verdict, read, source, Source.get]

end MaskedReport
