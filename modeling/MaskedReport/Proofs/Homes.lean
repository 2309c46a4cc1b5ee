import MaskedReport.Proofs.Moving

/-!
# Sources in home directories

The world outside a directory with settings is of account only through the home directories. For
every world there is one in which the directory is at another place and an account has a given home,
or none that can be known. A source that leads to the home of the account fails there for what is in
the home or for the lack of one, so that moving the directory is of no account exactly where no such
source is reached: `Settings.moved_endpoint_alike_iff`.
-/

set_option autoImplicit false

namespace MaskedReport

/-! ## A world with a home of its own -/

namespace Path

variable {parts : List Text}

/-- Whether a text is a part of a path that leads further down. -/
structure IsFileName (part : Text) : Prop where
  isPart : IsPart part
  inside : part ≠ ".."

/-- The parts after the first of a path that stays below its directory do not lead out of it. -/
theorem StaysBelow.inside_tail {path : Text} (h : StaysBelow path) :
    Text.ofString ".." ∉ (ofText path).parts.tail :=
  fun hmem => h.inside (List.mem_of_mem_tail hmem)

/-- The text of an absolute path by its parts. -/
def rooted (parts : List Text) : Text := (Path.mk "/" parts).text

/-- The name of either directory may stand before names. -/
theorem isFileName_cons {first : Text} (hfirst : first ∈ [Text.ofString "d", Text.ofString "h"])
    (h : ∀ part ∈ parts, IsFileName part) : ∀ part ∈ first :: parts, IsFileName part := by
  rw [List.forall_mem_cons]
  refine ⟨?_, h⟩
  rcases List.mem_pair.mp hfirst with rfl | rfl
  · exact ⟨⟨by decide, by decide, by decide⟩, by decide⟩
  · exact ⟨⟨by decide, by decide, by decide⟩, by decide⟩

/-- The names of an absolute path that does not lead up are those of its parts. -/
theorem names_mk (h : Text.ofString ".." ∉ parts) (here : Path) :
    here.names ⟨"/", parts⟩ = parts.map nameBytes := by
  have hjoin : here.join ⟨"/", parts⟩ = ⟨"/", parts⟩ := if_pos rfl
  rw [names, resolve, hjoin, resolveParts_of_notMem h, List.nil_append]

/-- The names of parts that lead down from the root are found again in their text. -/
theorem names_rooted (h : ∀ part ∈ parts, IsFileName part) (here : Path) :
    here.names (ofText (rooted parts)) = parts.map nameBytes := by
  have hread : ofText (rooted parts) = ⟨"/", parts⟩ :=
    ofText_text List.mem_cons_self fun part hpart => (h part hpart).isPart
  rw [hread, names_mk fun hmem => (h _ hmem).inside rfl]

/-- The parts of the path of a text from the root on are those of a file. -/
theorem isFileName_of_mem_resolve {directory text part : Text}
    (h : part ∈ (ofText directory).resolve (ofText text)) : IsFileName part := by
  rcases mem_resolveParts h with h | ⟨h, hne⟩
  · cases h
  · unfold join at h
    split at h
    · exact ⟨isPart_of_mem h, hne⟩
    · rcases List.mem_append.mp h with h | h
      · exact ⟨isPart_of_mem h, hne⟩
      · exact ⟨isPart_of_mem h, hne⟩

end Path

namespace World

variable {w : World} {d account home : Text} {given : Option Value} {rest parts : List Text}
  {own : Option (List Text × List UInt8)}

/-- The parts of a file below a directory, if it is below it by its names. -/
def below? (w : World) (d : Text) (f : Text × List UInt8) : Option (List Text) :=
  let here := Path.ofText w.directory
  if (Path.place d).isPrefixOf (here.names (.ofText f.1)) then
    some ((here.resolve (.ofText f.1)).drop (Path.place d).length)
  else none

/-- The world in which what is below a directory is at `/d`, an account has a home, which the own
account shares, and there is at most one file at given parts below `/h`. -/
def moved (w : World) (d account home : Text) (own : Option (List Text × List UInt8)) : World where
  files := (own.map fun f => (Path.rooted (Text.ofString "h" :: f.1), f.2)).toList ++
    w.files.filterMap fun f =>
      (w.below? d f).map fun parts => (Path.rooted (Text.ofString "d" :: parts), f.2)
  home := home
  accounts := [(account, home)]
  environment := w.environment

/-- The account has the home given. -/
theorem home?_moved (w : World) (d account home : Text) (own : Option (List Text × List UInt8)) :
    (w.moved d account home own).home? account = some home := by
  have hlookup : [(account, home)].find? (fun a => Path.nameBytes a.1 == Path.nameBytes account) =
      some (account, home) := List.find?_cons_of_pos (beq_self_eq_true _)
  rw [home?, moved, hlookup, Option.map_some, ite_self]

/-- A file that is below a directory has the names of the directory first, and its parts come after.
-/
theorem prefix_of_below {f : Text × List UInt8} (h : w.below? d f = some parts) :
    Path.place d <+: (Path.ofText w.directory).names (.ofText f.1) ∧
      ((Path.ofText w.directory).resolve (.ofText f.1)).drop (Path.place d).length = parts := by
  rw [below?, Option.ite_none_right_eq_some, List.isPrefixOf_iff_prefix] at h
  exact h.imp_right Option.some.inj

/-- A file that is below a directory has the names of the directory and then those of its parts. -/
theorem names_of_below {f : Text × List UInt8} (h : w.below? d f = some parts) :
    (Path.ofText w.directory).names (.ofText f.1) =
      Path.place d ++ parts.map Path.nameBytes := by
  obtain ⟨⟨rest, hrest⟩, hparts⟩ := prefix_of_below h
  rw [← hparts, List.map_drop, ← Path.names, ← hrest, List.drop_left]

/-- A file with the names of a directory before others is below it. -/
theorem exists_below {f : Text × List UInt8} {names : List (List UInt8)}
    (h : (Path.ofText w.directory).names (.ofText f.1) = Path.place d ++ names) :
    ∃ parts, w.below? d f = some parts := by
  rw [below?, h, if_pos (List.isPrefixOf_iff_prefix.mpr (List.prefix_append _ _))]
  exact ⟨_, rfl⟩

/-- The parts of a file below a directory are found again below the other. -/
theorem names_rooted_of_below {f : Text × List UInt8} (h : w.below? d f = some parts)
    (here : Path) :
    here.names (.ofText (Path.rooted (Text.ofString "d" :: parts))) =
      Path.nameBytes "d" :: parts.map Path.nameBytes := by
  refine Path.names_rooted (Path.isFileName_cons (by decide) fun part hpart => ?_) here
  rw [← (prefix_of_below h).2] at hpart
  exact Path.isFileName_of_mem_resolve (List.mem_of_mem_drop hpart)

/-- The parts of the file in the home directory are found again in its text. -/
theorem names_home (hrest : ∀ part ∈ rest, Path.IsFileName part) (here : Path) :
    here.names (.ofText (Path.rooted (Text.ofString "h" :: rest))) =
      Path.nameBytes "h" :: rest.map Path.nameBytes :=
  Path.names_rooted (Path.isFileName_cons (by decide) hrest) here

/-- The two directories have different names. -/
theorem nameBytes_ne : Path.nameBytes "h" ≠ Path.nameBytes "d" := by
  decide

/-- A file is found below the other directory at the names at which it is below the first. -/
theorem any_below (names : List (List UInt8)) (f : Text × List UInt8) :
    ((w.below? d f).map fun parts => (Path.rooted (Text.ofString "d" :: parts), f.2)).any
        (fun g => (Path.ofText "/").names (.ofText g.1) == Path.nameBytes "d" :: names) =
      ((Path.ofText w.directory).names (.ofText f.1) == Path.place d ++ names) := by
  cases hbelow : w.below? d f with
  | none =>
    refine (beq_eq_false_iff_ne.mpr fun heq => ?_).symm
    obtain ⟨parts, hparts⟩ := exists_below heq
    rw [hparts] at hbelow
    cases hbelow
  | some found =>
    rw [names_of_below hbelow]
    simp [names_rooted_of_below hbelow]

/-- The files of the moved directory are those below the directory. -/
theorem fileAt?_moved (hown : ∀ f ∈ own, ∀ part ∈ f.1, Path.IsFileName part)
    (names : List (List UInt8)) :
    (w.moved d account home own).fileAt? (Path.nameBytes "d" :: names) =
      w.fileAt? (Path.place d ++ names) := by
  have hhome : (own.map fun f => (Path.rooted (Text.ofString "h" :: f.1), f.2)).toList.reverse.find?
      (fun g => (Path.ofText "/").names (.ofText g.1) == Path.nameBytes "d" :: names) = none := by
    cases own with
    | none => rfl
    | some f => simp [names_home (hown f rfl), nameBytes_ne]
  rw [fileAt?, fileAt?, moved]
  simp only [List.reverse_append, ← List.filterMap_reverse, List.find?_append, hhome,
    Option.or_none, List.find?_filterMap, any_below]
  cases hf : w.files.reverse.find? fun f =>
      (Path.ofText w.directory).names (.ofText f.1) == Path.place d ++ names with
  | none => rfl
  | some f =>
    have heq := List.find?_some hf
    rw [beq_iff_eq] at heq
    obtain ⟨parts, hparts⟩ := exists_below heq
    rw [Option.bind_some, hparts]
    rfl

/-- The file below `/h` is the one given. -/
theorem fileAt?_home (hown : ∀ f ∈ own, ∀ part ∈ f.1, Path.IsFileName part)
    (hrest : Text.ofString ".." ∉ rest) (here : Path) :
    (w.moved d account home own).fileAt? (here.names ⟨"/", Text.ofString "h" :: rest⟩) =
      (own.filter fun f => f.1.map Path.nameBytes == rest.map Path.nameBytes).map Prod.snd := by
  have hinside : Text.ofString ".." ∉ Text.ofString "h" :: rest := by
    rw [List.mem_cons, not_or]
    exact ⟨by decide, hrest⟩
  rw [Path.names_mk hinside, List.map_cons]
  have hmoved : (w.files.filterMap fun f =>
      (w.below? d f).map fun parts => (Path.rooted (Text.ofString "d" :: parts), f.2)).reverse.find?
        (fun g => (Path.ofText "/").names (.ofText g.1) ==
          Path.nameBytes "h" :: rest.map Path.nameBytes) = none := by
    rw [List.find?_eq_none]
    intro g hg
    obtain ⟨f, -, hf⟩ := List.mem_filterMap.mp (List.mem_reverse.mp hg)
    obtain ⟨parts, hparts, rfl⟩ := Option.map_eq_some_iff.mp hf
    simp [names_rooted_of_below hparts, nameBytes_ne.symm]
  rw [fileAt?, moved]
  simp only [List.reverse_append, List.find?_append, hmoved, Option.none_or]
  cases own with
  | none => rfl
  | some f =>
    obtain ⟨parts, content⟩ := f
    have hnames := names_home (hown _ rfl) (Path.ofText "/")
    by_cases hparts : parts.map Path.nameBytes = rest.map Path.nameBytes
    · simp [hnames, hparts]
    · simp [hnames, hparts]

/-- A directory is moved to `/d` of that world. -/
theorem moved_moved (hd : w.HasDirectory d) (hown : ∀ f ∈ own, ∀ part ∈ f.1, Path.IsFileName part) :
    w.Moved d given (w.moved d account home own) "/d" := by
  have hplace : Path.place "/d" = [Path.nameBytes "d"] := by decide +kernel
  have hfiles (names : List (List UInt8)) :
      (w.moved d account home own).fileAt? (Path.place "/d" ++ names) =
        w.fileAt? (Path.place d ++ names) := by
    rw [hplace]
    exact fileAt?_moved hown names
  refine ⟨⟨by decide +kernel, ?_, ?_⟩, fun names _ => hfiles names, fun _ => rfl⟩
  · exact (Path.isSystemName_ofString "/d").mpr (by decide)
  have hfree := hfiles []
  rw [List.append_nil, List.append_nil, hd.free] at hfree
  exact hfree

end World

/-- Whether two endpoints answer the same to everyone: in their full reports, and in the entries of
every name. -/
def Endpoint.AnswersAs (e f : Endpoint) : Prop :=
  ∀ principal, e.report principal = f.report principal ∧
    ∀ name, e.properties? name principal = f.properties? name principal

namespace Settings

variable {w : World} {base : Path} {sources : List SourceSetting}

/-- Sources in two lists are registered one list after the other. -/
theorem registerAll_append (before after : List SourceSetting) (r : Registry) :
    registerAll w base (before ++ after) r =
      registerAll w base before r >>= registerAll w base after := by
  induction before generalizing r with
  | nil => rfl
  | cons x rest ih =>
    show (load w base x >>= fun s => registerAll w base (rest ++ after) (r.add s)) = _
    simp only [ih]
    exact (bind_assoc (load w base x) _ _).symm

/-- Where a source that leads home is reached, there is a first one, before which all are loaded. -/
theorem exists_reached (h : ¬ KeepsBelow w base sources) :
    ∃ before x after, sources = before ++ x :: after ∧ KeepsBelow w base before ∧
      (∀ r, ∃ r', registerAll w base before r = .ok r') ∧ Path.LeadsHome x.path := by
  induction sources with
  | nil => exact absurd trivial h
  | cons x rest ih =>
    by_cases hhome : Path.LeadsHome x.path
    · exact ⟨[], x, rest, rfl, trivial, fun r => ⟨r, rfl⟩, hhome⟩
    · rw [KeepsBelow, not_and, Classical.not_imp] at h
      obtain ⟨⟨s, hs⟩, hrest⟩ := h hhome
      obtain ⟨before, y, after, rfl, hkeeps, hregistered, hy⟩ := ih hrest
      refine ⟨x :: before, y, after, rfl, ⟨hhome, fun _ => hkeeps⟩, fun r => ?_, hy⟩
      obtain ⟨r', hr'⟩ := hregistered (r.add s)
      refine ⟨r', ?_⟩
      show (load w base x >>= _) = _
      rw [hs]
      exact hr'

/-- A source that leads home is the one of the file in the home directory. -/
theorem load_home {x : SourceSetting} {account : Text}
    (haccount : (Path.ofText x.path).account? = some account)
    (hname : Path.IsSystemName account) (hhome : w.home? account = some (Text.ofString "/h"))
    (base : Path) :
    load w base x =
      Source.ofPath w ⟨"/", Text.ofString "h" :: (Path.ofText x.path).parts.tail⟩ x.name
        (.int x.order) := by
  have hread : Path.ofText "/h" = ⟨"/", [Text.ofString "h"]⟩ := by decide +kernel
  have htext : Path.homeText "/h" = Text.ofString "/h" := by decide
  have hexpand : (Path.ofText x.path).expandHome w.home? =
      .ok ⟨"/", Text.ofString "h" :: (Path.ofText x.path).parts.tail⟩ := by
    rw [Path.expandHome_of_account haccount hname, hhome]
    simp only [Path.inHome, htext, hread]
    rfl
  rw [load_of_expandHome hexpand]
  rfl

/-- A source that leads to a home that begins with a tilde fails for the lack of a home. -/
theorem load_homeless {x : SourceSetting} {account : Text}
    (haccount : (Path.ofText x.path).account? = some account)
    (hname : Path.IsSystemName account) (hhome : w.home? account = some (Text.ofString "~"))
    (base : Path) : load w base x = .error .noHome := by
  have htext : Path.homeText "~" = Text.ofString "~" := by decide
  refine load_of_expandHome_error ?_
  rw [Path.expandHome_of_account haccount hname, hhome]
  simp only [Path.inHome, htext]
  rfl

/-- A source that leads home fails for the lack of a home where there is none, and for something
else where there is a home without files. -/
theorem exists_load_moved (w : World) (d : Text) {x : SourceSetting}
    (hx : Path.StaysBelow x.path) (hhome : Path.LeadsHome x.path) :
    ∃ account, (∀ base, load (w.moved d account "~" none) base x = .error .noHome) ∧
      ∀ base, ∃ why, load (w.moved d account "/h" none) base x = .error why ∧
        why.family ≠ Failure.family .noHome := by
  obtain ⟨account, haccount, hname⟩ := hhome
  refine ⟨account, load_homeless haccount hname (World.home?_moved w d account "~" none), ?_⟩
  intro base
  rw [load_home haccount hname (World.home?_moved w d account "/h" none)]
  generalize hfound : Path.mk "/" (Text.ofString "h" :: (Path.ofText x.path).parts.tail) = found
  have habsolute : found.isAbsolute = true := by
    rw [← hfound]
    rfl
  by_cases hname : Path.IsSystemName found.text
  · have hnone : (w.moved d account "/h" none).fileAt?
        ((Path.ofText (w.moved d account "/h" none).directory).names found) = none := by
      rw [← hfound, World.fileAt?_home (by simp) hx.inside_tail]
      rfl
    obtain ⟨why, hwhy⟩ := World.document_of_none hname hnone .sourceFile
    exact ⟨_, Source.ofPath_of_error habsolute hwhy _ _, by simp [Failure.family]⟩
  · obtain ⟨why, hfamily, hwhy⟩ := World.document_of_not_isSystemName hname .sourceFile
    exact ⟨_, Source.ofPath_of_error habsolute hwhy _ _, by rw [hfamily]; decide⟩

/-! ## Ends after a move -/

variable {w' : World} {d d' c : Text} {content : List UInt8} {given : Option Value} {s : Settings}

/-- A moved endpoint fails as the first source does that leads home. -/
theorem endpointOfFile_of_load (h : w.Moved d given w' d') (hfile : w.Holds d c content)
    (hs : ofBytes? content = some s) (hbase : s.baseDirectory = .null)
    (hmasking : ∀ why, s.maskingHook ≠ .error why) {before after : List SourceSetting}
    {x : SourceSetting} (hsources : s.sources = before ++ x :: after)
    (hbelow : ∀ y ∈ before, Path.StaysBelow y.path)
    (hkeeps : KeepsBelow w (filePath d c).parent before)
    (hregistered : ∀ r, ∃ r', registerAll w (filePath d c).parent before r = .ok r') {why : Failure}
    (hload : load w' (filePath d' c).parent x = .error why) :
    endpointOfFile w' (.text (d' ++ "/" ++ c)) given = .error why := by
  have hall (r : Registry) : registerAll w' (filePath d' c).parent s.sources r = .error why := by
    obtain ⟨r', hr'⟩ := hregistered r
    have hbefore := alike_registerAll h hfile.directory (isAt_parent hfile)
      (isAt_parent (h.holds hfile)) hbelow hkeeps r
    rw [hsources, registerAll_append, hbefore.ok_of_ok hr']
    show (load w' (filePath d' c).parent x >>= _) = _
    rw [hload]
    rfl
  rw [endpointOfFile_eq (h.holds hfile) hs hbase]
  cases hhook : s.maskingHook with
  | error why => exact absurd hhook (hmasking why)
  | ok masking =>
    show (registerAll w' (filePath d' c).parent s.sources _ >>= _) = _
    rw [hall]
    rfl

/-- Where the masking is settled and all sources are registered, there is an endpoint. -/
theorem exists_endpointOfFile (hfile : w.Holds d c content) (hs : ofBytes? content = some s)
    (hbase : s.baseDirectory = .null) {masking : Masking} (hhook : s.maskingHook = .ok masking)
    (hregistered : ∀ r, ∃ r', registerAll w (filePath d c).parent s.sources r = .ok r')
    {own : Source} (henvironment : environment w given = .ok own) :
    ∃ e, endpointOfFile w (.text (d ++ "/" ++ c)) given = .ok e := by
  obtain ⟨r, hr⟩ := hregistered { activeNames := s.activeEnvironments, packages := s.packages }
  obtain ⟨registry, hregistry⟩ : ∃ registry, s.addEnvironment w given r = .ok registry := by
    rw [addEnvironment, henvironment]
    split <;> exact ⟨_, rfl⟩
  refine ⟨{ registry, hook := some masking.hook, enabled := s.enabled }, ?_⟩
  rw [endpointOfFile_eq hfile hs hbase, hhook]
  show (registerAll w (filePath d c).parent s.sources _ >>= _) = _
  rw [hr]
  show (s.addEnvironment w given r >>= _) = _
  rw [hregistry]
  rfl

/-- Where every move leaves the end as it is, and the masking is settled, no source that is reached
leads home. -/
theorem keepsBelow_of_moves {R : Endpoint → Endpoint → Prop} (hfile : w.Holds d c content)
    (hs : ofBytes? content = some s) (hsees : SeesBelow content)
    (hmasking : ∀ why, s.maskingHook ≠ .error why)
    (hmoves : ∀ w' d', w.Moved d given w' d' →
      EndAlike R (endpointOfFile w (.text (d ++ "/" ++ c)) given)
        (endpointOfFile w' (.text (d' ++ "/" ++ c)) given)) :
    KeepsBelow w (filePath d c).parent s.sources := by
  by_contra hleads
  obtain ⟨hbase, hbelow⟩ := hsees s hs
  obtain ⟨before, x, after, hsources, hkeeps, hregistered, hhome⟩ := exists_reached hleads
  rw [hsources, List.forall_mem_append, List.forall_mem_cons] at hbelow
  obtain ⟨hbefore, hx, -⟩ := hbelow
  obtain ⟨account, habsent, hpresent⟩ := exists_load_moved w d hx hhome
  have hends {home : Text} {why : Failure}
      (hload : load (w.moved d account home none) (filePath "/d" c).parent x = .error why) :
      ∃ first, endpointOfFile w (.text (d ++ "/" ++ c)) given = .error first ∧
        first.family = why.family := by
    have hmoved : w.Moved d given (w.moved d account home none) "/d" :=
      World.moved_moved hfile.directory nofun
    exact (hmoves _ _ hmoved).error_of_error (endpointOfFile_of_load hmoved hfile hs hbase hmasking
      hsources hbefore hkeeps hregistered hload)
  -- the end before the move would have to be like both ends after it, which are of two families
  obtain ⟨why, hwhy, hfamily⟩ := hpresent (filePath "/d" c).parent
  obtain ⟨first, hfirst, hone⟩ := hends (habsent (filePath "/d" c).parent)
  obtain ⟨second, hsecond, htwo⟩ := hends hwhy
  rw [hfirst] at hsecond
  cases hsecond
  exact hfamily (htwo.symm.trans hone)

/-- A document without a value gives a source. -/
theorem exists_ofPath_of_null {p : Path} (habsolute : p.isAbsolute = true)
    (h : w.document .sourceFile p = .ok .null) (name order : Value) :
    ∃ s, Source.ofPath w p name order = .ok s := by
  rw [Source.ofPath, Path.expandHome_of_isAbsolute habsolute]
  show ∃ s, (w.document .sourceFile p >>= _) = _
  rw [h]
  exact ⟨_, rfl⟩

/-! ## A directory with one source -/

/-- A document with settings that name one source. -/
def namingDocument (path : String) : List Char :=
  ("\"property_sources\": \"" ++ path ++ "\"").toList

/-- A directory with settings that name one source, and with two files that could be it. -/
def namingWorld (path : String) : World where
  files := [("/srv/app/app.yml", Utf8.encode (namingDocument path)),
    ("/srv/app/sub/x.yml", Utf8.encode "\"port\": \"80\"".toList),
    ("/srv/app/~/x.yml", Utf8.encode "\"port\": \"80\"".toList)]
  home := "/h"

/-- What the move of a directory depends on in settings: the paths, whether they are seen from the
directory, and whether the masking is settled. -/
def outline (s : Settings) : List Text × Bool × Bool :=
  (s.sources.map SourceSetting.path, match s.baseDirectory with | .null => true | _ => false,
    s.maskingHook.toOption.isSome)

/-- The directory with the settings is one. -/
theorem hasDirectory_naming {path : String}
    (hfree : (namingWorld path).fileAt? (Path.place "/srv/app") = none) :
    (namingWorld path).HasDirectory "/srv/app" where
  absolute := by decide +kernel
  name := (Path.isSystemName_ofString "/srv/app").mpr (by decide)
  free := hfree

/-- The file with the settings is below a directory. -/
theorem isBelow_naming : Path.IsBelow "app.yml" where
  nonempty := by decide +kernel
  inside := by decide +kernel
  name := (Path.isSystemName_ofString "app.yml").mpr (by decide)

/-- Whether the document is read as settings of its one source, by a path that stays below the
directory as far as its text tells. -/
structure IsNamed (path : String) : Prop where
  holds : (namingWorld path).Holds "/srv/app" "app.yml" (Utf8.encode (namingDocument path))
  outline_eq : (ofBytes? (Utf8.encode (namingDocument path))).map outline =
    some ([Text.ofString path], true, true)
  stays : Path.StaysBelow path

/-- The settings of the document have the one source, seen from the directory, and a masking. -/
theorem IsNamed.exists_settings {path : String} (h : IsNamed path) :
    ∃ s x masking, ofBytes? (Utf8.encode (namingDocument path)) = some s ∧ s.sources = [x] ∧
      x.path = path ∧ s.baseDirectory = .null ∧ s.maskingHook = .ok masking := by
  obtain ⟨s, hs, houtline⟩ := Option.map_eq_some_iff.mp h.outline_eq
  simp only [outline, Prod.mk.injEq] at houtline
  obtain ⟨hpaths, hbase, hmasking⟩ := houtline
  obtain ⟨x, hsources, hpath⟩ := List.map_eq_singleton_iff.mp hpaths
  obtain ⟨masking, hhook⟩ := Option.isSome_iff_exists.mp hmasking
  refine ⟨s, x, masking, hs, hsources, hpath, ?_, eq_ok_of_toOption hhook⟩
  split at hbase
  · assumption
  · cases hbase

/-- The settings of the document see their source below the directory. -/
theorem IsNamed.seesBelow {path : String} (h : IsNamed path) :
    SeesBelow (Utf8.encode (namingDocument path)) := by
  intro s hs
  obtain ⟨t, y, -, ht, hsources, hy, hbase, -⟩ := h.exists_settings
  rw [hs] at ht
  cases ht
  refine ⟨hbase, fun x hx => ?_⟩
  rw [hsources, List.mem_singleton] at hx
  rw [hx, hy]
  exact h.stays

/-- A path into a folder is a named one. -/
theorem isNamed_folder : IsNamed "sub/x.yml" where
  holds := ⟨hasDirectory_naming (by decide +kernel), isBelow_naming, by decide +kernel⟩
  outline_eq := by decide +kernel
  stays := ⟨by decide +kernel, by decide, by decide +kernel⟩

/-- A path into a folder whose name is a tilde is a named one. -/
theorem isNamed_tilde : IsNamed "./~/x.yml" where
  holds := ⟨hasDirectory_naming (by decide +kernel), isBelow_naming, by decide +kernel⟩
  outline_eq := by decide +kernel
  stays := ⟨by decide +kernel, by decide, by decide +kernel⟩

/-- The parts of the file in the own home directory. -/
def homeParts : List Text := ["h", "x.yml"]

/-- The path leads to a file in the own home directory, which is not there. -/
theorem home_tilde : (Path.ofText "./~/x.yml").account? = some (Text.ofString "") ∧
    Text.ofString "h" :: (Path.ofText "./~/x.yml").parts.tail = homeParts ∧
    (Path.mk "/" homeParts).text = Text.ofString "/h/x.yml" ∧
    (namingWorld "./~/x.yml").fileAt? (homeParts.map Path.nameBytes) = none := by
  decide +kernel

/-- The parts of the file in the home directory do not lead out of it. -/
theorem inside_home : Text.ofString ".." ∉ homeParts := by
  decide

/-- The path of the file in the home directory is a name. -/
theorem isSystemName_home : Path.IsSystemName (Path.mk "/" homeParts).text := by
  rw [home_tilde.2.2.1, Path.isSystemName_ofString]
  decide

/-- The source that leads home is the one of the file there, from wherever it is seen. -/
theorem load_tilde (hhome : w.home = "/h") {x : SourceSetting} (hx : x.path = "./~/x.yml")
    (base : Path) :
    load w base x = Source.ofPath w ⟨"/", homeParts⟩ x.name (.int x.order) := by
  have hname : Path.IsSystemName "" := (Path.isSystemName_ofString "").mpr (by simp)
  have hown : w.home? "" = some (Text.ofString "/h") := congrArg some hhome
  rw [load_home (hx ▸ home_tilde.1) hname hown, hx, home_tilde.2.1]

/-- Where nothing is in the home directory, there is no endpoint. -/
theorem exists_error_tilde :
    ∃ why, endpointOfFile (namingWorld "./~/x.yml") (.text ("/srv/app" ++ "/" ++ "app.yml"))
      (some (.map [])) = .error why ∧ why.family = .settings := by
  obtain ⟨s, x, masking, hs, hsources, hx, hbase, hhook⟩ := IsNamed.exists_settings isNamed_tilde
  have hsplit : s.sources = [] ++ x :: [] := hsources
  have hmasking : ∀ why, s.maskingHook ≠ .error why := by
    intro why hwhy
    rw [hhook] at hwhy
    cases hwhy
  have hnone : (namingWorld "./~/x.yml").fileAt?
      ((Path.ofText (namingWorld "./~/x.yml").directory).names ⟨"/", homeParts⟩) = none := by
    rw [Path.names_mk inside_home, home_tilde.2.2.2]
  obtain ⟨why, hwhy⟩ := World.document_of_none isSystemName_home hnone .sourceFile
  refine ⟨.sourceFile (Path.mk "/" homeParts).text why, ?_, rfl⟩
  refine endpointOfFile_of_load (World.Moved.refl (IsNamed.holds isNamed_tilde).directory _)
    (IsNamed.holds isNamed_tilde) hs hbase hmasking hsplit nofun trivial (fun r => ⟨r, rfl⟩) ?_
  rw [load_tilde rfl hx]
  exact Source.ofPath_of_error rfl hwhy _ _

/-- An empty file for the home directory. -/
def emptyFile : List Text × List UInt8 := (homeParts.tail, [])

/-- The parts of the empty file are those of a file. -/
theorem isFileName_empty : ∀ f ∈ some emptyFile, ∀ part ∈ f.1, Path.IsFileName part := by
  rintro f ⟨⟩ part hpart
  rw [List.mem_singleton.mp hpart]
  exact ⟨⟨by decide, by decide, by decide⟩, by decide⟩

/-- The directory is moved beside a home directory with an empty file. -/
theorem moved_tilde (given : Option Value) : (namingWorld "./~/x.yml").Moved "/srv/app" given
    ((namingWorld "./~/x.yml").moved "/srv/app" "" "/h" (some emptyFile)) "/d" :=
  World.moved_moved (IsNamed.holds isNamed_tilde).directory isFileName_empty

/-- Where an empty file is in the home directory, there is an endpoint. -/
theorem exists_ok_tilde :
    ∃ e, endpointOfFile ((namingWorld "./~/x.yml").moved "/srv/app" "" "/h" (some emptyFile))
      (.text ("/d" ++ "/" ++ "app.yml")) (some (.map [])) = .ok e := by
  obtain ⟨s, x, masking, hs, hsources, hx, hbase, hhook⟩ := IsNamed.exists_settings isNamed_tilde
  have hdocument : World.document
      ((namingWorld "./~/x.yml").moved "/srv/app" "" "/h" (some emptyFile))
      .sourceFile ⟨"/", homeParts⟩ = .ok .null :=
    (World.document_eq_ok_iff isSystemName_home
      (World.fileAt?_home isFileName_empty (by decide) _) _ _).mpr rfl
  refine exists_endpointOfFile ((moved_tilde none).holds (IsNamed.holds isNamed_tilde)) hs hbase
    hhook (fun r => ?_) rfl
  obtain ⟨source, hsource⟩ := exists_ofPath_of_null rfl hdocument x.name (.int x.order)
  rw [hsources, registerAll, load_tilde rfl hx, hsource]
  exact ⟨_, rfl⟩

/-! ## The exact condition -/

/-- The endpoint of a file with settings, whose sources have relative paths that neither begin with
a tilde nor lead out of the directory, is the same after any move of the directory, in its answers
or the family of its failure, if and only if its masking is refused or no source that is reached
leads home. -/
theorem moved_endpoint_alike_iff (hfile : w.Holds d c content) (hsees : SeesBelow content)
    (given : Option Value) :
    (∀ w' d', w.Moved d given w' d' →
      EndAlike Endpoint.AnswersAs (endpointOfFile w (.text (d ++ "/" ++ c)) given)
        (endpointOfFile w' (.text (d' ++ "/" ++ c)) given)) ↔
      ∀ s, ofBytes? content = some s →
        (∃ why, s.maskingHook = .error why) ∨ KeepsBelow w (filePath d c).parent s.sources := by
  constructor
  · intro hmoves s hs
    refine or_iff_not_imp_left.mpr fun hmasking => ?_
    exact keepsBelow_of_moves hfile hs hsees (not_exists.mp hmasking) hmoves
  · intro hkeeps w' d' hmoved
    refine (alike_endpointOfFile hmoved hfile hsees hkeeps).mono ?_
    rintro e _ rfl principal
    exact ⟨rfl, fun _ => rfl⟩

/-- Settings that name a source in a folder give the same endpoint after every move. -/
theorem moved_endpoint_alike_iff_folder :
    IsNamed "sub/x.yml" ∧
      ∀ given w' d', (namingWorld "sub/x.yml").Moved "/srv/app" given w' d' →
        EndAlike Endpoint.AnswersAs
          (endpointOfFile (namingWorld "sub/x.yml") (.text ("/srv/app" ++ "/" ++ "app.yml")) given)
          (endpointOfFile w' (.text (d' ++ "/" ++ "app.yml")) given) := by
  refine ⟨isNamed_folder, fun given => ?_⟩
  refine (moved_endpoint_alike_iff (IsNamed.holds isNamed_folder) (IsNamed.seesBelow isNamed_folder)
    given).mpr fun s hs => Or.inr ?_
  obtain ⟨t, x, -, ht, hsources, hx, -, -⟩ := IsNamed.exists_settings isNamed_folder
  rw [hs] at ht
  cases ht
  rw [hsources]
  refine ⟨?_, fun _ => trivial⟩
  rw [hx]
  have hnone : (Path.ofText "sub/x.yml").account? = none := by decide +kernel
  rintro ⟨account, haccount, -⟩
  rw [hnone] at haccount
  cases haccount

/-- A path that does not begin with a tilde can lead home: what is there, and not what is below the
directory, is the source. -/
theorem not_forall_moved_endpoint_alike :
    (∃ why, endpointOfFile (namingWorld "./~/x.yml") (.text ("/srv/app" ++ "/" ++ "app.yml"))
        (some (.map [])) = .error why ∧ why.family = .settings) ∧
    (∃ e, endpointOfFile ((namingWorld "./~/x.yml").moved "/srv/app" "" "/h" (some emptyFile))
        (.text ("/d" ++ "/" ++ "app.yml")) (some (.map [])) = .ok e) ∧
    ¬ ∀ (w : World) (d c : Text) (content : List UInt8) (given : Option Value) (w' : World)
        (d' : Text), w.Holds d c content → SeesBelow content → w.Moved d given w' d' →
      EndAlike Endpoint.AnswersAs (endpointOfFile w (.text (d ++ "/" ++ c)) given)
        (endpointOfFile w' (.text (d' ++ "/" ++ c)) given) := by
  refine ⟨exists_error_tilde, exists_ok_tilde, fun hall => ?_⟩
  obtain ⟨why, hwhy, -⟩ := exists_error_tilde
  obtain ⟨e, he⟩ := exists_ok_tilde
  have hends := hall _ _ _ _ (some (.map [])) _ _ (IsNamed.holds isNamed_tilde)
    (IsNamed.seesBelow isNamed_tilde) (moved_tilde _)
  rw [hwhy, he] at hends
  cases hends

end Settings

end MaskedReport
