import MaskedReport.Proofs.Blame
import MaskedReport.Proofs.Loading
import MaskedReport.Proofs.PathTexts

/-!
# Moving a directory with settings

A file with settings names sources by paths that are seen from its directory. Two worlds are
compared in which such a directory is at different places, with the same files below it. What is
read below the directories ends alike, with one result or with failures of one family; so do sources
whose paths stay below it, and so does the endpoint, unless a source that is reached leads to a home
directory: `Settings.alike_endpointOfFile`.
-/

set_option autoImplicit false

namespace MaskedReport

/-! ## Ends that are alike -/

/-- Whether two computations end alike: with related results, or with failures of one family. -/
inductive EndAlike {α β : Type} (R : α → β → Prop) : Except Failure α → Except Failure β → Prop
  | ok {a : α} {b : β} (h : R a b) : EndAlike R (.ok a) (.ok b)
  | error {why other : Failure} (h : why.family = other.family) :
    EndAlike R (.error why) (.error other)

section EndAlike

variable {α β γ δ : Type} {R : α → β → Prop} {S : γ → δ → Prop}

/-- A computation ends like itself. -/
theorem endAlike_refl (x : Except Failure α) : EndAlike Eq x x := by
  cases x with
  | ok a => exact .ok rfl
  | error why => exact .error rfl

/-- Results may be related more loosely. -/
theorem EndAlike.mono {R' : α → β → Prop} {x : Except Failure α} {y : Except Failure β}
    (h : EndAlike R x y) (hR : ∀ a b, R a b → R' a b) : EndAlike R' x y := by
  cases h with
  | ok h => exact .ok (hR _ _ h)
  | error h => exact .error h

/-- Steps in a row end alike if each does that is reached. -/
theorem EndAlike.bind {x : Except Failure α} {y : Except Failure β} {f : α → Except Failure γ}
    {g : β → Except Failure δ} (h : EndAlike R x y)
    (hrest : ∀ a b, x = .ok a → R a b → EndAlike S (f a) (g b)) :
    EndAlike S (x >>= f) (y >>= g) := by
  cases h with
  | ok h => exact hrest _ _ rfl h
  | error h => exact .error h

/-- What ends like a result has that result. -/
theorem EndAlike.ok_of_ok {x y : Except Failure α} (h : EndAlike Eq x y) {a : α} (hx : x = .ok a) :
    y = .ok a := by
  cases h with
  | ok h => rw [← hx, h]
  | error h => cases hx

/-- What ends like a failure is a failure of the same family. -/
theorem EndAlike.error_of_error {x : Except Failure α} {y : Except Failure β} (h : EndAlike R x y)
    {other : Failure} (hy : y = .error other) :
    ∃ why, x = .error why ∧ why.family = other.family := by
  cases h with
  | ok h => cases hy
  | error h =>
    cases hy
    exact ⟨_, rfl, h⟩

end EndAlike

/-! ## Names that are none -/

/-- A text that is no name is refused as a value that does not do. -/
theorem Path.checkName_of_not_isSystemName {name : Text} (h : ¬ IsSystemName name) :
    ∃ why, checkName name = .error why ∧ why.family = .value := by
  rw [← checkName_eq_ok_iff] at h
  unfold checkName at h ⊢
  split
  · exact ⟨_, rfl, rfl⟩
  · split
    · exact ⟨_, rfl, rfl⟩
    · simp_all

/-! ## Files by their place -/

namespace World

variable {w w' : World} {p p' : Path}

/-- The bytes of the file at names from the root on; the last file there counts. -/
def fileAt? (w : World) (names : List (List UInt8)) : Option (List UInt8) :=
  (w.files.reverse.find? fun f =>
    (Path.ofText w.directory).names (.ofText f.1) == names).map Prod.snd

/-- The bytes at a path are those of the file at its names. -/
theorem bytesOf_of_some {content : List UInt8}
    (h : w.fileAt? ((Path.ofText w.directory).names p) = some content) :
    w.bytesOf p = .ok content := by
  obtain ⟨f, hf, rfl⟩ := Option.map_eq_some_iff.mp h
  simp only [bytesOf, hf]

/-- Where no file is at the names of a path there are no bytes. -/
theorem bytesOf_of_none (h : w.fileAt? ((Path.ofText w.directory).names p) = none) :
    ∃ why, w.bytesOf p = .error why := by
  simp only [bytesOf, Option.map_eq_none_iff.mp h]
  split
  · exact ⟨_, rfl⟩
  · split <;> exact ⟨_, rfl⟩

/-- Where no file is at the names of a path there is no text. -/
theorem textOf_of_none (h : w.fileAt? ((Path.ofText w.directory).names p) = none) :
    ∃ why, w.textOf p = .error why := by
  obtain ⟨why, hwhy⟩ := bytesOf_of_none h
  refine ⟨why, ?_⟩
  rw [textOf, hwhy]
  rfl

/-- The text at a path is that of the bytes of the file at its names. -/
theorem textOf_of_some {content : List UInt8}
    (h : w.fileAt? ((Path.ofText w.directory).names p) = some content) :
    w.textOf p = match Utf8.decode content with
      | .ok cs => .ok (lineFeeds cs)
      | .error l =>
        .error (.undecodable l.fault (if l.fault = .ended then 0 else l.position) l.bytes) := by
  rw [textOf, bytesOf_of_some h]
  rfl

/-- Where the path is no name, reading its document fails for a value that does not do. -/
theorem document_of_not_isSystemName (h : ¬ Path.IsSystemName p.text)
    (blame : Text → FileFault → Failure) :
    ∃ why, why.family = .value ∧ w.document blame p = .error why := by
  obtain ⟨why, hwhy, hfamily⟩ := Path.checkName_of_not_isSystemName h
  refine ⟨why, hfamily, ?_⟩
  rw [document, hwhy]
  rfl

/-- Documents in files of the same bytes end alike, whatever their paths. -/
theorem alike_document (hname : Path.IsSystemName p.text ↔ Path.IsSystemName p'.text)
    (hfile : w'.fileAt? ((Path.ofText w'.directory).names p') =
      w.fileAt? ((Path.ofText w.directory).names p))
    {blame : Text → FileFault → Failure}
    (hblame : ∀ name why, (blame name why).family = .settings) :
    EndAlike Eq (w.document blame p) (w'.document blame p') := by
  have hfault (why other : FileFault) :
      (blame p.text why).family = (blame p'.text other).family := by
    rw [hblame, hblame]
  by_cases hp : Path.IsSystemName p.text
  · rw [document_of_isSystemName hp, document_of_isSystemName (hname.mp hp)]
    cases hcontent : w.fileAt? ((Path.ofText w.directory).names p) with
    | none =>
      obtain ⟨why, hwhy⟩ := textOf_of_none hcontent
      obtain ⟨other, hother⟩ := textOf_of_none (hfile.trans hcontent)
      rw [hwhy, hother]
      exact .error (hfault why other)
    | some content =>
      have htext : w'.textOf p' = w.textOf p := by
        rw [textOf_of_some hcontent, textOf_of_some (hfile.trans hcontent)]
      rw [htext]
      cases w.textOf p with
      | error why => exact .error (hfault why why)
      | ok text =>
        rw [valueOf, valueOf]
        cases Document.read text with
        | ok v => exact .ok rfl
        | error r =>
          cases r with
          | fault f => exact .error (hfault _ _)
          | scalar f => exact .error rfl
          | calendar f => exact .error rfl
  · obtain ⟨why, hfamily, hwhy⟩ := document_of_not_isSystemName hp blame
    obtain ⟨other, hothers, hother⟩ := document_of_not_isSystemName (mt hname.mpr hp) blame
    rw [hwhy, hother]
    exact .error (hfamily.trans hothers.symm)

end World

/-- The value of the document in the bytes of a file, if it has one. -/
def Document.ofBytes? (content : List UInt8) : Option Value :=
  (Utf8.decode content).toOption.bind fun text => (read (World.lineFeeds text)).toOption

/-- A document has a value if and only if the bytes of its file have that value. -/
theorem World.document_eq_ok_iff {w : World} {p : Path} {content : List UInt8}
    (hname : Path.IsSystemName p.text)
    (hfile : w.fileAt? ((Path.ofText w.directory).names p) = some content)
    (blame : Text → FileFault → Failure) (v : Value) :
    w.document blame p = .ok v ↔ Document.ofBytes? content = some v := by
  rw [document_of_isSystemName hname, textOf_of_some hfile, Document.ofBytes?]
  cases Utf8.decode content with
  | error l => exact iff_of_false (fun h => by cases h) (fun h => by cases h)
  | ok text =>
    dsimp only [Except.toOption, Option.bind_some]
    rw [valueOf]
    cases Document.read (lineFeeds text) with
    | ok other => exact ⟨fun h => by cases h; rfl, fun h => by cases h; rfl⟩
    | error r =>
      cases r <;> exact iff_of_false (fun h => by cases h) (fun h => by cases h)

/-! ## Places of directories -/

/-- The names of the directory that a text names, from the root on. -/
def Path.place (d : Text) : List (List UInt8) :=
  (resolveParts [] (ofText d).parts).map nameBytes

/-- Whether a text is that of a directory of a world: it is absolute, and no file is there. -/
structure World.HasDirectory (w : World) (d : Text) : Prop where
  absolute : (Path.ofText d).isAbsolute = true
  name : Path.IsSystemName d
  free : w.fileAt? (Path.place d) = none

/-- Whether a text names something below a directory. -/
structure Path.IsBelow (c : Text) : Prop where
  nonempty : (ofText c).parts ≠ []
  inside : Text.ofString ".." ∉ (ofText c).parts
  name : IsSystemName c

/-- Whether a file of the given bytes is below a directory of a world. -/
structure World.Holds (w : World) (d c : Text) (content : List UInt8) : Prop where
  directory : w.HasDirectory d
  below : Path.IsBelow c
  file : w.fileAt? (Path.place d ++ (Path.ofText c).parts.map Path.nameBytes) = some content

/-- Whether what is below a directory of one world is, with the same contents, below a directory of
another. The variables of the environment are the same unless others are given. -/
structure World.Moved (w : World) (d : Text) (given : Option Value) (w' : World) (d' : Text) :
    Prop where
  directory : w'.HasDirectory d'
  files : ∀ names ≠ [], w'.fileAt? (Path.place d' ++ names) = w.fileAt? (Path.place d ++ names)
  environment : given = none → w'.environment = w.environment

namespace Path

/-- Whether a path is one that is seen from the directory of the settings and does not lead out of
it, as far as its text tells. -/
structure StaysBelow (path : Text) : Prop where
  relative : (ofText path).isAbsolute = false
  untilded : path.toList.head? ≠ some (.char '~')
  inside : Text.ofString ".." ∉ (ofText path).parts

/-- Whether a path leads to a home directory, of whatever account. -/
def LeadsHome (path : Text) : Prop :=
  ∃ account, (ofText path).account? = some account ∧ IsSystemName account

/-- Whether a path is at parts below a directory. -/
structure IsAt (p : Path) (d : Text) (parts : List Text) : Prop where
  root : p.root ∈ ["/", "//"]
  parts_eq : p.parts = (ofText d).parts ++ parts
  inside : Text.ofString ".." ∉ parts

variable {d c : Text} {p q : Path} {parts : List Text}

/-- The root of an absolute path is one slash or two. -/
theorem root_of_isAbsolute {text : Text} (h : (ofText text).isAbsolute = true) :
    (ofText text).root ∈ ["/", "//"] := by
  have hroot := root_ofText text
  rw [List.mem_cons] at hroot
  refine hroot.resolve_left fun hempty => ?_
  simp [isAbsolute, hempty] at h

/-- A path that does not tell of an account stays as it is. -/
theorem expandHome_of_none (h : p.account? = none) (homes : Text → Option Text) :
    p.expandHome homes = .ok p := by
  rw [expandHome, h]

/-- An absolute path leads to no home directory. -/
theorem expandHome_of_isAbsolute (h : p.isAbsolute = true) (homes : Text → Option Text) :
    p.expandHome homes = .ok p :=
  expandHome_of_none (if_pos h) homes

/-- A path that tells of an account leads to its home. -/
theorem expandHome_of_account {account : Text} (h : p.account? = some account)
    (hname : IsSystemName account) (homes : Text → Option Text) :
    p.expandHome homes = p.inHome (homes account) := by
  rw [expandHome, h]
  show (checkName account >>= _) = _
  rw [(checkName_eq_ok_iff account).mpr hname]
  rfl

/-- A path that tells of an account whose name is none is refused whatever the homes are. -/
theorem exists_expandHome_error {account : Text} (h : p.account? = some account)
    (hname : ¬ IsSystemName account) : ∃ why, ∀ homes, p.expandHome homes = .error why := by
  obtain ⟨why, hwhy, -⟩ := checkName_of_not_isSystemName hname
  refine ⟨why, fun homes => ?_⟩
  rw [expandHome, h]
  show (checkName account >>= _) = _
  rw [hwhy]
  rfl

/-- A text after that of a directory is at its parts below the directory. -/
theorem isAt_ofText (hd : (ofText d).isAbsolute = true) (hc : IsBelow c) :
    (ofText (d ++ "/" ++ c)).IsAt d (ofText c).parts where
  root := root_of_isAbsolute (by rw [Text.append_assoc]; exact isAbsolute_ofText_append hd _)
  parts_eq := parts_ofText_append d c
  inside := hc.inside

namespace IsAt

/-- A path at parts below a directory is absolute. -/
theorem absolute (h : p.IsAt d parts) : p.isAbsolute = true := by
  rcases List.mem_pair.mp h.root with hroot | hroot <;> simp [isAbsolute, hroot]

/-- A path at parts below a directory has their names after those of the directory. -/
theorem names (h : p.IsAt d parts) (here : Path) :
    here.names p = place d ++ parts.map nameBytes := by
  rw [Path.names, Path.resolve, join, if_pos h.absolute, h.parts_eq, resolveParts_below h.inside,
    List.map_append, place]

/-- Below a directory with a name, a path is a name if and only if its parts are. -/
theorem isSystemName_iff (h : p.IsAt d parts) (hd : IsSystemName d) :
    IsSystemName p.text ↔ ∀ part ∈ parts, IsSystemName part := by
  rw [isSystemName_iff_parts] at hd
  rw [isSystemName_text_iff h.root, h.parts_eq, List.forall_mem_append]
  exact and_iff_right hd

/-- The directory of a path below a directory is at the parts without the last. -/
theorem parent (h : p.IsAt d parts) (hparts : parts ≠ []) :
    p.parent.IsAt d parts.dropLast where
  root := h.root
  parts_eq := by
    rw [Path.parent, h.parts_eq, List.dropLast_append_of_ne_nil hparts]
  inside := fun hmem => h.inside (List.dropLast_subset parts hmem)

/-- A relative path that does not lead out is at its parts below where it is seen from. -/
theorem join (h : p.IsAt d parts) (hq : q.isAbsolute = false)
    (hinside : Text.ofString ".." ∉ q.parts) :
    (p.join q).IsAt d (parts ++ q.parts) := by
  have hjoin : p.join q = { p with parts := p.parts ++ q.parts } := by
    rw [Path.join, hq]
    rfl
  rw [hjoin]
  refine ⟨h.root, ?_, ?_⟩
  · rw [h.parts_eq, List.append_assoc]
  · rw [List.mem_append, not_or]
    exact ⟨h.inside, hinside⟩

/-- The stem of a path below a directory is that of its last part. -/
theorem stem (h : p.IsAt d parts) (hparts : parts ≠ []) :
    p.stem = .ofList (withoutExtension (parts.getLast hparts).toList) := by
  have hlast : p.parts.getLast? = some (parts.getLast hparts) := by
    rw [h.parts_eq, List.getLast?_append_of_ne_nil _ hparts, List.getLast?_eq_some_getLast hparts]
  rw [Path.stem, fileName, hlast]
  rfl

end IsAt

end Path

section Moved

variable {w w' : World} {d d' : Text} {given : Option Value} {p p' : Path} {parts : List Text}

/-- A directory that stays where it is. -/
theorem World.Moved.refl (hd : w.HasDirectory d) (given : Option Value) : w.Moved d given w d :=
  ⟨hd, fun _ _ => rfl, fun _ => rfl⟩

/-- A moved directory has the same files at all names. -/
theorem World.Moved.fileAt? (h : w.Moved d given w' d') (hd : w.HasDirectory d)
    (names : List (List UInt8)) :
    w'.fileAt? (Path.place d' ++ names) = w.fileAt? (Path.place d ++ names) := by
  by_cases hnames : names = []
  · rw [hnames, List.append_nil, List.append_nil, hd.free, h.directory.free]
  · exact h.files names hnames

/-- A moved directory holds the same files. -/
theorem World.Moved.holds (h : w.Moved d given w' d') {c : Text} {content : List UInt8}
    (hfile : w.Holds d c content) : w'.Holds d' c content :=
  ⟨h.directory, hfile.below, (h.fileAt? hfile.directory _).trans hfile.file⟩

/-- Paths at the same parts below the two directories are names alike. -/
theorem World.Moved.isSystemName_iff (h : w.Moved d given w' d') (hd : w.HasDirectory d)
    (hp : p.IsAt d parts) (hp' : p'.IsAt d' parts) :
    Path.IsSystemName p.text ↔ Path.IsSystemName p'.text := by
  rw [hp.isSystemName_iff hd.name, hp'.isSystemName_iff h.directory.name]

/-- Documents at the same parts below the two directories end alike. -/
theorem World.Moved.alike_document (h : w.Moved d given w' d') (hd : w.HasDirectory d)
    (hp : p.IsAt d parts) (hp' : p'.IsAt d' parts) {blame : Text → FileFault → Failure}
    (hblame : ∀ name why, (blame name why).family = .settings) :
    EndAlike Eq (w.document blame p) (w'.document blame p') := by
  refine World.alike_document (h.isSystemName_iff hd hp hp') ?_ hblame
  rw [hp.names, hp'.names, h.fileAt? hd]

/-- There is no document where there is no file. -/
theorem World.document_of_none (hname : Path.IsSystemName p.text)
    (h : w.fileAt? ((Path.ofText w.directory).names p) = none)
    (blame : Text → FileFault → Failure) :
    ∃ why, w.document blame p = .error (blame p.text why) := by
  obtain ⟨why, hwhy⟩ := textOf_of_none h
  refine ⟨why, ?_⟩
  rw [document_of_isSystemName hname, hwhy, valueOf]

/-- A source fails as its document does. -/
theorem Source.ofPath_of_error (habsolute : p.isAbsolute = true) {why : Failure}
    (h : w.document .sourceFile p = .error why) (name order : Value) :
    ofPath w p name order = .error why := by
  rw [ofPath, Path.expandHome_of_isAbsolute habsolute]
  show (w.document .sourceFile p >>= _) = _
  rw [h]
  rfl

/-- Sources from documents at the same parts below the two directories end alike. -/
theorem Source.alike_ofPath (h : w.Moved d given w' d') (hd : w.HasDirectory d)
    (hp : p.IsAt d parts) (hp' : p'.IsAt d' parts) (name order : Value) :
    EndAlike Eq (ofPath w p name order) (ofPath w' p' name order) := by
  rw [ofPath, ofPath, Path.expandHome_of_isAbsolute hp.absolute,
    Path.expandHome_of_isAbsolute hp'.absolute]
  refine (h.alike_document hd hp hp' fun _ _ => rfl).bind ?_
  rintro data _ hdata rfl
  have hparts : parts ≠ [] := by
    rintro rfl
    have hfree : w.fileAt? ((Path.ofText w.directory).names p) = none := by
      rw [hp.names, List.map_nil, List.append_nil, hd.free]
    have hname : Path.IsSystemName p.text := (hp.isSystemName_iff hd.name).mpr (by simp)
    obtain ⟨why, hwhy⟩ := World.document_of_none hname hfree .sourceFile
    rw [hwhy] at hdata
    cases hdata
  have hname : nameOr name p = nameOr name p' := by
    rw [nameOr, nameOr, hp.stem hparts, hp'.stem hparts]
  cases data with
  | null => exact .ok (by rw [hname])
  | map es =>
    show EndAlike Eq (Flatten.flattenValue (.map es) (.text "") >>= _) _
    rw [hname]
    exact endAlike_refl _
  | _ => exact .error rfl

end Moved

namespace Settings

variable {w w' : World} {d d' : Text} {given : Option Value} {base base' : Path}
  {parts : List Text} {x : SourceSetting}

/-! ## Sources -/

/-- A source is the one at its path, its home expanded, from the base. -/
theorem load_of_expandHome {q : Path} (h : (Path.ofText x.path).expandHome w.home? = .ok q) :
    load w base x = Source.ofPath w (base.join q) x.name (.int x.order) := by
  rw [load, pathOf, h]
  rfl

/-- A source fails as the expansion of its home does. -/
theorem load_of_expandHome_error {why : Failure}
    (h : (Path.ofText x.path).expandHome w.home? = .error why) : load w base x = .error why := by
  rw [load, pathOf, h]
  rfl

/-- A source whose path stays below the directory, and does not lead home, is loaded alike. -/
theorem alike_load (h : w.Moved d given w' d') (hd : w.HasDirectory d) (hbase : base.IsAt d parts)
    (hbase' : base'.IsAt d' parts) (hx : Path.StaysBelow x.path) (hhome : ¬ Path.LeadsHome x.path) :
    EndAlike Eq (load w base x) (load w' base' x) := by
  cases haccount : (Path.ofText x.path).account? with
  | none =>
    rw [load_of_expandHome (Path.expandHome_of_none haccount w.home?),
      load_of_expandHome (Path.expandHome_of_none haccount w'.home?)]
    exact Source.alike_ofPath h hd (hbase.join hx.relative hx.inside)
      (hbase'.join hx.relative hx.inside) _ _
  | some account =>
    -- the account is refused before any home is looked up
    have hname : ¬ Path.IsSystemName account := fun hname => hhome ⟨account, haccount, hname⟩
    obtain ⟨why, hwhy⟩ := Path.exists_expandHome_error haccount hname
    rw [load_of_expandHome_error (hwhy w.home?), load_of_expandHome_error (hwhy w'.home?)]
    exact .error rfl

/-- Whether no source that is reached leads home: those before it are all loaded. -/
def KeepsBelow (w : World) (base : Path) : List SourceSetting → Prop
  | [] => True
  | x :: rest =>
    ¬ Path.LeadsHome x.path ∧ ((∃ s, load w base x = .ok s) → KeepsBelow w base rest)

/-- Sources of which none leads home are registered alike, one after the other. -/
theorem alike_registerAll (h : w.Moved d given w' d') (hd : w.HasDirectory d)
    (hbase : base.IsAt d parts) (hbase' : base'.IsAt d' parts) {sources : List SourceSetting}
    (hsources : ∀ x ∈ sources, Path.StaysBelow x.path) (hkeeps : KeepsBelow w base sources)
    (r : Registry) :
    EndAlike Eq (registerAll w base sources r) (registerAll w' base' sources r) := by
  induction sources generalizing r with
  | nil => exact endAlike_refl _
  | cons x rest ih =>
    have hfirst := alike_load h hd hbase hbase' (hsources x List.mem_cons_self) hkeeps.1
    refine hfirst.bind ?_
    rintro s _ hs rfl
    exact ih (fun y hy => hsources y (List.mem_cons_of_mem x hy)) (hkeeps.2 ⟨s, hs⟩) _

/-! ## Settings in a file -/

/-- The settings that the bytes of a file give, if they do. -/
def ofBytes? (content : List UInt8) : Option Settings :=
  (Document.ofBytes? content).bind fun v => (ofValue v).toOption

/-- The endpoint that the settings of a file give. -/
def endpointOfFile (w : World) (path : Value) (given : Option Value) : Except Failure Endpoint := do
  endpointOfValue w (← ofFile w path).toValue given

/-- The settings with relative paths seen from a directory. -/
def seenFrom (s : Settings) (directory : Path) : Settings :=
  { s with baseDirectory := .text directory.text }

/-- Registers the source of the environment, if it is among the sources. -/
def addEnvironment (w : World) (s : Settings) (given : Option Value) (r : Registry) :
    Except Failure Registry := do
  if s.includeEnvironment then return r.add (← environment w given) else return r

/-- The path of a file below a directory. -/
def filePath (d c : Text) : Path := .ofText (d ++ "/" ++ c)

variable {c : Text} {content : List UInt8} {s : Settings}

/-- The path of a file below a directory is at its parts. -/
theorem isAt_filePath (h : w.Holds d c content) : (filePath d c).IsAt d (Path.ofText c).parts :=
  Path.isAt_ofText h.directory.absolute h.below

/-- The directory of that file is at the parts without the last. -/
theorem isAt_parent (h : w.Holds d c content) :
    (filePath d c).parent.IsAt d (Path.ofText c).parts.dropLast :=
  (isAt_filePath h).parent h.below.nonempty

/-- Settings seen from a directory have it as their base. -/
theorem base_seenFrom (s : Settings) {p : Path} (hroot : p.root ∈ ["/", "//"])
    (hparts : ∀ part ∈ p.parts, Path.IsPart part) : (s.seenFrom p).base = .ok p := by
  have htruthy : (Value.text p.text).truthy = true := by
    simp [Value.truthy, p.text_ne_empty]
  show (if (Value.text p.text).truthy then Path.ofValue (.text p.text) else _) = _
  rw [if_pos htruthy, Path.ofValue, Path.ofText_text hroot hparts]

/-- The directory of a file is read back from its text. -/
theorem base_parent (h : w.Holds d c content) (s : Settings) :
    (s.seenFrom (filePath d c).parent).base = .ok (filePath d c).parent := by
  refine base_seenFrom s (isAt_parent h).root ?_
  exact fun part hpart => Path.isPart_of_mem (List.dropLast_subset _ hpart)

/-- The settings of a file are those of its document, seen from its directory unless they name one.
-/
theorem ofFile_eq (h : w.Holds d c content) :
    ofFile w (.text (d ++ "/" ++ c)) =
      (w.document .settingsFile (filePath d c) >>= ofValue) >>= fun s =>
        match s.baseDirectory with
        | .null => .ok (s.seenFrom (filePath d c).parent)
        | _ => .ok s := by
  rw [bind_assoc]
  show ((filePath d c).expandHome w.home? >>= _) = _
  rw [Path.expandHome_of_isAbsolute (isAt_filePath h).absolute]
  rfl

/-- The document of a file below a directory has the value of its bytes. -/
theorem document_filePath_iff (h : w.Holds d c content) (v : Value) :
    w.document .settingsFile (filePath d c) = .ok v ↔ Document.ofBytes? content = some v := by
  have hname : Path.IsSystemName (filePath d c).text := by
    rw [(isAt_filePath h).isSystemName_iff h.directory.name, ← Path.isSystemName_iff_parts]
    exact h.below.name
  refine World.document_eq_ok_iff hname ?_ _ v
  rw [(isAt_filePath h).names, h.file]

/-- The settings of a file without a directory of their own are seen from the file's. -/
theorem ofFile_of_bytes (h : w.Holds d c content) (hs : ofBytes? content = some s)
    (hbase : s.baseDirectory = .null) :
    ofFile w (.text (d ++ "/" ++ c)) = .ok (s.seenFrom (filePath d c).parent) := by
  obtain ⟨v, hv, hvalue⟩ := Option.bind_eq_some_iff.mp hs
  rw [ofFile_eq h, (document_filePath_iff h v).mpr hv]
  show (ofValue v >>= _) = _
  rw [eq_ok_of_toOption hvalue]
  show (match s.baseDirectory with
    | .null => Except.ok (s.seenFrom (filePath d c).parent)
    | _ => .ok s) = _
  rw [hbase]

/-- The endpoint of a file step by step: the masking, the sources one after the other, and the
source of the environment. -/
theorem endpointOfFile_eq (h : w.Holds d c content) (hs : ofBytes? content = some s)
    (hbase : s.baseDirectory = .null) (given : Option Value) :
    endpointOfFile w (.text (d ++ "/" ++ c)) given = s.maskingHook >>= fun masking =>
      registerAll w (filePath d c).parent s.sources
        { activeNames := s.activeEnvironments, packages := s.packages } >>= fun r =>
      s.addEnvironment w given r >>= fun registry =>
      .ok { registry, hook := some masking.hook, enabled := s.enabled } := by
  rw [endpointOfFile, ofFile_of_bytes h hs hbase]
  show endpointOfValue w (s.seenFrom (filePath d c).parent).toValue given = _
  rw [endpointOfValue, ofValue_toValue]
  show (s.maskingHook >>= fun masking => _) = _
  refine congrArg (s.maskingHook >>= ·) (funext fun masking => ?_)
  rw [registry, base_parent h]
  exact bind_assoc (registerAll w (filePath d c).parent s.sources _) _ _

/-- Files of the same bytes that give no settings fail alike. -/
theorem alike_endpointOfFile_of_none (h : w.Moved d given w' d') (hfile : w.Holds d c content)
    (hnone : ofBytes? content = none) :
    EndAlike Eq (endpointOfFile w (.text (d ++ "/" ++ c)) given)
      (endpointOfFile w' (.text (d' ++ "/" ++ c)) given) := by
  rw [endpointOfFile, endpointOfFile, ofFile_eq hfile, ofFile_eq (h.holds hfile)]
  simp only [bind_assoc]
  refine (h.alike_document hfile.directory (isAt_filePath hfile) (isAt_filePath (h.holds hfile))
    fun _ _ => rfl).bind ?_
  rintro v _ hv rfl
  rw [ofBytes?, (document_filePath_iff hfile v).mp hv, Option.bind_some] at hnone
  cases hvalue : ofValue v with
  | error why => exact .error rfl
  | ok s =>
    rw [hvalue] at hnone
    cases hnone

/-- Whether the settings in the bytes of a file, if any, name their sources from the directory of
the file, by paths that stay below it. -/
def SeesBelow (content : List UInt8) : Prop :=
  ∀ s, ofBytes? content = some s →
    s.baseDirectory = .null ∧ ∀ x ∈ s.sources, Path.StaysBelow x.path

/-- Settings in files of the same bytes give the same endpoint, or fail alike, if their masking is
refused or no source that is reached leads home. -/
theorem alike_endpointOfFile (h : w.Moved d given w' d') (hfile : w.Holds d c content)
    (hsees : SeesBelow content)
    (hkeeps : ∀ s, ofBytes? content = some s →
      (∃ why, s.maskingHook = .error why) ∨ KeepsBelow w (filePath d c).parent s.sources) :
    EndAlike Eq (endpointOfFile w (.text (d ++ "/" ++ c)) given)
      (endpointOfFile w' (.text (d' ++ "/" ++ c)) given) := by
  cases hs : ofBytes? content with
  | none => exact alike_endpointOfFile_of_none h hfile hs
  | some s =>
    obtain ⟨hbase, hbelow⟩ := hsees s hs
    have henvironment : environment w' given = environment w given := by
      cases given with
      | some bindings => rfl
      | none => rw [environment, environment, h.environment rfl]
    rw [endpointOfFile_eq hfile hs hbase, endpointOfFile_eq (h.holds hfile) hs hbase]
    refine (endAlike_refl s.maskingHook).bind ?_
    rintro masking _ hmasking rfl
    have hown : KeepsBelow w (filePath d c).parent s.sources := by
      refine (hkeeps s hs).resolve_left ?_
      rintro ⟨why, hwhy⟩
      rw [hmasking] at hwhy
      cases hwhy
    refine (alike_registerAll h hfile.directory (isAt_parent hfile) (isAt_parent (h.holds hfile))
      hbelow hown _).bind ?_
    rintro r _ - rfl
    rw [addEnvironment, addEnvironment, henvironment]
    exact endAlike_refl _

end Settings

end MaskedReport
