import MaskedReport.Policy
import MaskedReport.Proofs.Letters

/-!
# Reading simple patterns

Most mask patterns are made of letters that stand for themselves, escaped dots and wildcards.
`compile_simple` says what such a pattern is read as: its parts one after the other. The patterns of
secret words are of this kind, and `compile_holdingWord` says that they are what reading their texts
without regard to letter case gives.
-/

set_option autoImplicit false

namespace MaskedReport.Pattern

/-! ## Parts -/

/-- The characters that do not stand for themselves in a pattern. -/
def metaChars : List Letter :=
  ['.', '^', '$', '*', '+', '?', '\x7b', '\x7d', '[', ']', '\\', '|', '(', ')']

/-- A part of a simple pattern: a letter that stands for itself, a dot with a backslash, or the
wildcard. -/
inductive Part where
  | letter (c : Letter)
  | dot
  | wild
  deriving DecidableEq

namespace Part

/-- The letters of a part. -/
def text : Part → List Letter
  | letter c => [c]
  | dot => [.char '\\', .char '.']
  | wild => [.char '.', .char '*']

/-- The pieces into which a part is cut. -/
def pieces : Part → List Piece
  | letter c => [.plain c]
  | dot => [.escaped (.char '.')]
  | wild => [.plain (.char '.'), .plain (.char '*')]

/-- What a part is read as. -/
def node : Part → Node
  | letter c => .char c.code
  | dot => .char 46
  | wild => .rounds .greedy 0 none .any

/-- Whether a letter of a part stands for itself. -/
def IsOrdinary : Part → Prop
  | letter c => c ∉ metaChars
  | dot => True
  | wild => True

/-- Letters one after the other are the text of their parts. -/
theorem flatMap_text_letters (letters : List Letter) :
    (letters.map letter).flatMap text = letters := by
  induction letters with
  | nil => rfl
  | cons c letters ih => simp [text, ih]

end Part

/-- A simple pattern is cut into the pieces of its parts. -/
theorem cut_parts (parts : List Part) (ordinary : ∀ part ∈ parts, part.IsOrdinary) :
    Piece.cut (parts.flatMap Part.text) = (parts.flatMap Part.pieces, false) := by
  induction parts with
  | nil => rfl
  | cons part rest ih =>
    have hrest := ih fun q hq => ordinary q (List.mem_cons_of_mem part hq)
    have hpart := ordinary part List.mem_cons_self
    simp only [List.flatMap_cons]
    cases part with
    | letter c =>
      have hc : c ≠ .char '\\' := by
        rintro rfl
        exact hpart (by decide)
      simp [Part.text, Part.pieces, Piece.cut, hc, hrest]
    | dot => simp [Part.text, Part.pieces, Piece.cut, hrest]
    | wild => simp [Part.text, Part.pieces, Piece.cut, hrest]

/-- No part starts with a sign that could follow a repetition. -/
theorem head?_pieces_ne (parts : List Part) (ordinary : ∀ part ∈ parts, part.IsOrdinary)
    (sign : Char) (hsign : sign = '?' ∨ sign = '+') :
    (parts.flatMap Part.pieces).head? ≠ some (.plain sign) := by
  cases parts with
  | nil => simp
  | cons part rest =>
    have hpart := ordinary part List.mem_cons_self
    rcases hsign with rfl | rfl <;> cases part with
    | letter c =>
      intro heq
      simp only [List.flatMap_cons, Part.pieces, List.cons_append, List.head?_cons,
        Option.some.injEq, Piece.plain.injEq] at heq
      subst heq
      exact hpart (by decide)
    | dot => simp [Part.pieces]
    | wild => simp [Part.pieces]

/-! ## Single steps -/

namespace Read

/-- After a step with a known result the next one goes on from there. -/
theorem bind_of_eq {α β : Type} {x : Read α} {r s : Reading} {a : α} (h : x r = .ok (a, s))
    (f : α → Read β) : (x >>= f) r = f a s := by
  simp only [bind, StateT.bind, Except.bind, h]

/-- The next piece is looked at. -/
theorem peek_of_pieces {r : Reading} {p : Piece} {rest : List Piece} (hp : r.pieces = p :: rest) :
    peek r = .ok (some p, r) := by
  simp [peek, hp]

/-- The next piece is taken, and the position moves past it. -/
theorem take_of_pieces {r : Reading} {p : Piece} {rest : List Piece} (hp : r.pieces = p :: rest)
    (hd : r.dangling = false) :
    take r = .ok (some p, { r with pieces := rest, position := r.position + p.size }) := by
  simp [take, hp, hd]

/-- A character that is not next is not accepted. -/
theorem accept_of_ne {r : Reading} {c : Char} (h : r.pieces.head? ≠ some (.plain c)) :
    accept c r = .ok (false, r) := by
  rw [accept, bind_of_eq (show peek r = .ok (r.pieces.head?, r) from rfl), if_neg h]
  rfl

end Read

variable {fuel : Nat} {first : Bool} {found : List Node} {r : Reading} {rest : List Piece}

/-- An ordinary letter is read as itself. -/
theorem items_ordinary {c : Letter} (hc : c ∉ metaChars) (hp : r.pieces = .plain c :: rest)
    (hd : r.dangling = false) :
    items (fuel + 1) false first found r =
      items fuel false first (found ++ [.char c.code])
        { r with pieces := rest, position := r.position + 1 } := by
  have hstep : items (fuel + 1) false first found r =
      (Read.take >>= fun _ => items fuel false first (found ++ [.char c.code])) r := by
    rw [items.eq_2, Read.bind_of_eq (Read.peek_of_pieces hp)]
    cases c with
    | char c =>
      simp only [metaChars, List.mem_cons, Letter.char.injEq, List.not_mem_nil, or_false,
        not_or] at hc
      simp [hc]
    | lone h => rfl
  rw [hstep, Read.bind_of_eq (Read.take_of_pieces hp hd)]
  rfl

/-- An escaped dot is read as a dot. -/
theorem items_dot (hp : r.pieces = .escaped (.char '.') :: rest) (hd : r.dangling = false) :
    items (fuel + 1) false first found r =
      items fuel false first (found ++ [.char 46])
        { r with pieces := rest, position := r.position + 2 } := by
  have hstep : items (fuel + 1) false first found r =
      (Read.take >>= fun _ => escape '.' >>= fun node =>
        items fuel false first (found ++ [node])) r := by
    rw [items.eq_2, Read.bind_of_eq (Read.peek_of_pieces hp)]
    rfl
  rw [hstep, Read.bind_of_eq (Read.take_of_pieces hp hd)]
  exact Read.bind_of_eq rfl _

/-- A dot is read as any character. -/
theorem items_any (hp : r.pieces = .plain (.char '.') :: rest) (hd : r.dangling = false) :
    items (fuel + 1) false first found r =
      items fuel false first (found ++ [.any])
        { r with pieces := rest, position := r.position + 1 } := by
  have hstep : items (fuel + 1) false first found r =
      (Read.take >>= fun _ => items fuel false first (found ++ [.any])) r := by
    rw [items.eq_2, Read.bind_of_eq (Read.peek_of_pieces hp)]
    rfl
  rw [hstep, Read.bind_of_eq (Read.take_of_pieces hp hd)]
  rfl

/-- A repetition is greedy if no sign after it says otherwise. -/
theorem repetitionMode_greedy (hlazy : r.pieces.head? ≠ some (.plain (.char '?')))
    (hpossessive : r.pieces.head? ≠ some (.plain (.char '+'))) :
    repetitionMode r = .ok (.greedy, r) := by
  rw [repetitionMode, Read.bind_of_eq (Read.accept_of_ne hlazy)]
  simp only [Bool.false_eq_true, if_false]
  rw [Read.bind_of_eq (Read.accept_of_ne hpossessive)]
  rfl

/-- A star repeats any character, if no sign after it changes how. -/
theorem items_star (hp : r.pieces = .plain (.char '*') :: rest) (hd : r.dangling = false)
    (hlazy : rest.head? ≠ some (.plain (.char '?')))
    (hpossessive : rest.head? ≠ some (.plain (.char '+'))) :
    items (fuel + 1) false first (found ++ [.any]) r =
      items fuel false first (found ++ [.rounds .greedy 0 none .any])
        { r with pieces := rest, position := r.position + 1 } := by
  have hstep : items (fuel + 1) false first (found ++ [.any]) r =
      (Read.take >>= fun _ => Read.position >>= fun here =>
        repeatLast here 0 none (found ++ [.any]) >>= fun found =>
          items fuel false first found) r := by
    rw [items.eq_2, Read.bind_of_eq (Read.peek_of_pieces hp)]
    rfl
  have hrepeat : ∀ here (s : Reading), s.pieces = rest →
      repeatLast here 0 none (found ++ [.any]) s =
        .ok (found ++ [.rounds .greedy 0 none .any], s) := by
    rintro here s rfl
    rw [repeatLast, Read.bind_of_eq (show Read.position s = .ok (s.position, s) from rfl)]
    simp only [List.getLast?_concat, List.dropLast_concat]
    rw [Read.bind_of_eq (repetitionMode_greedy hlazy hpossessive)]
    rfl
  have hposition : ∀ s : Reading, Read.position s = .ok (s.position, s) := fun _ => rfl
  rw [hstep, Read.bind_of_eq (Read.take_of_pieces hp hd), Read.bind_of_eq (hposition _),
    Read.bind_of_eq (hrepeat _ _ rfl)]
  rfl

/-! ## Whole patterns -/

/-- Parts are read one after the other. -/
theorem items_parts (parts : List Part) (ordinary : ∀ part ∈ parts, part.IsOrdinary)
    (hfuel : (parts.flatMap Part.pieces).length < fuel)
    (hp : r.pieces = parts.flatMap Part.pieces) (hd : r.dangling = false) :
    ∃ position, items fuel false first found r =
      .ok (found ++ parts.map Part.node, { r with pieces := [], position }) := by
  induction parts generalizing fuel found r with
  | nil =>
    obtain ⟨fuel, rfl⟩ : ∃ n, fuel = n + 1 := ⟨fuel - 1, by simp at hfuel; omega⟩
    have hpeek : Read.peek r = .ok (none, r) := by simp [Read.peek, hp]
    refine ⟨r.position, ?_⟩
    rw [items.eq_2, Read.bind_of_eq hpeek]
    simp only [List.flatMap_nil] at hp
    simp only [List.map_nil, List.append_nil, ← hp]
    rfl
  | cons part parts ih =>
    have hordinary : ∀ q ∈ parts, q.IsOrdinary := fun q hq =>
      ordinary q (List.mem_cons_of_mem part hq)
    have hpart := ordinary part List.mem_cons_self
    rw [List.flatMap_cons] at hp hfuel
    have hnodes : found ++ (part :: parts).map Part.node =
        (found ++ [part.node]) ++ parts.map Part.node := by simp
    rw [hnodes]
    cases part with
    | letter c =>
      simp only [Part.pieces, List.cons_append, List.nil_append, List.length_cons] at hp hfuel
      obtain ⟨fuel, rfl⟩ : ∃ n, fuel = n + 1 := ⟨fuel - 1, by omega⟩
      rw [items_ordinary hpart hp hd]
      exact ih hordinary (by omega) rfl hd
    | dot =>
      simp only [Part.pieces, List.cons_append, List.nil_append, List.length_cons] at hp hfuel
      obtain ⟨fuel, rfl⟩ : ∃ n, fuel = n + 1 := ⟨fuel - 1, by omega⟩
      rw [items_dot hp hd]
      exact ih hordinary (by omega) rfl hd
    | wild =>
      simp only [Part.pieces, List.cons_append, List.nil_append, List.length_cons] at hp hfuel
      obtain ⟨fuel, rfl⟩ : ∃ n, fuel = n + 2 := ⟨fuel - 2, by omega⟩
      rw [items_any hp hd]
      have hlazy := head?_pieces_ne parts hordinary '?' (Or.inl rfl)
      have hpossessive := head?_pieces_ne parts hordinary '+' (Or.inr rfl)
      rw [items_star (by rfl) (by exact hd) hlazy hpossessive]
      exact ih hordinary (by omega) rfl hd

/-- A sequence of parts can be matched. -/
theorem unusable?_parts (parts : List Part) :
    unusable? false (.sequence (parts.map Part.node)) = none := by
  induction parts with
  | nil => rfl
  | cons part parts ih =>
    show (unusable? false part.node).or (unusable? false (.sequence (parts.map Part.node))) = none
    rw [ih]
    cases part <;> rfl

/-- A simple pattern is read as the sequence of its parts. -/
theorem compile_simple (flags : Flags) (parts : List Part)
    (ordinary : ∀ part ∈ parts, part.IsOrdinary) (hverbose : flags.verbose = false)
    (hascii : flags.ascii = false) (htemplate : flags.template = false) :
    compile flags (.ofList (parts.flatMap Part.text)) =
      .ok { text := .ofList (parts.flatMap Part.text)
            flags := { flags with unicode := true }
            node := .sequence (parts.map Part.node) } := by
  let pieces := parts.flatMap Part.pieces
  let start : Reading := { pieces, position := 0, dangling := false, flags }
  let body : Node := .sequence (parts.map Part.node)
  obtain ⟨position, hitems⟩ : ∃ position, items (3 * pieces.length + 3) false true [] start =
      .ok ([] ++ parts.map Part.node, { start with pieces := [], position }) :=
    items_parts parts ordinary (by simp only [pieces]; omega) rfl rfl
  let done : Reading := { start with pieces := [], position }
  have hread : (alternatives (3 * pieces.length + 4) flags.verbose true true).run start =
      .ok ([body], done) := by
    have hbar : Read.accept '|' done = .ok (false, done) := Read.accept_of_ne (by simp [done])
    rw [hverbose]
    show alternatives (3 * pieces.length + 3 + 1) false true true start = _
    rw [alternatives, Bool.and_self, Read.bind_of_eq hitems, Read.bind_of_eq hbar]
    rfl
  have hsettle : settleFlags done.flags = .ok { flags with unicode := true } := by
    simp [settleFlags, done, start, hascii]
  have husable : unusable? flags.template body = none := by
    rw [htemplate]
    exact unusable?_parts parts
  have hresult : read flags (parts.flatMap Part.text) =
      .ok ({ flags with unicode := true }, body) := by
    have hnodes : (alternatives (3 * pieces.length + 4) flags.verbose true true) start =
        .ok ([body], done) := hread
    simp only [read, cut_parts parts ordinary, Bool.and_false, Bool.false_eq_true, if_false]
    simp only [StateT.run, pieces, start] at hnodes ⊢
    rw [hnodes]
    simp only [bind, Except.bind, pure, Except.pure, hsettle, done, start]
    simp only [List.isEmpty_nil, Bool.not_true, Bool.false_eq_true, if_false, List.find?_nil]
    have hbody : Node.alternatives [body] = body := rfl
    simp only [hbody, husable]
  simp only [compile, hresult]
  rfl

/-- The pattern of a word whose characters stand for themselves is what its text is read as. -/
theorem compile_holdingWord (word : String) (ordinary : ∀ c ∈ word.toList, .char c ∉ metaChars) :
    compile { ignoreCase := true } (".*" ++ word ++ ".*") = .ok (holdingWord word) := by
  let parts : List Part := .wild :: word.toList.map (fun c => .letter (.char c)) ++ [.wild]
  have hparts : ∀ part ∈ parts, part.IsOrdinary := by
    intro part hpart
    simp only [parts, List.cons_append, List.mem_cons, List.mem_append, List.mem_map,
      List.not_mem_nil, or_false] at hpart
    rcases hpart with rfl | ⟨c, hc, rfl⟩ | rfl
    · trivial
    · exact ordinary c hc
    · trivial
  have htext : Text.ofString ".*" ++ Text.ofString word ++ Text.ofString ".*" =
      .ofList (parts.flatMap Part.text) := by
    ext1
    simp [parts, Part.text, List.flatMap_map, ← List.map_eq_flatMap]
  have hnode : Node.sequence (parts.map Part.node) = (holdingWord word).node := by
    simp only [parts, List.cons_append, List.map_cons, List.map_append, List.map_map]
    rfl
  rw [htext, compile_simple _ parts hparts rfl rfl rfl, hnode, ← htext]
  rfl

/-- The patterns of secret words are what their texts are read as without regard to letter case. -/
theorem mapM_ofValue_secretWords :
    (secretWords.mapM fun word : String =>
        ofValue { ignoreCase := true } (.text (".*" ++ word ++ ".*"))) =
      .ok secretPatterns := by
  have hall : (secretWords.all fun word =>
      word.toList.all fun c => !metaChars.contains (.char c)) = true := rfl
  have hordinary : ∀ word ∈ secretWords, ∀ c ∈ word.toList, .char c ∉ metaChars := by
    simpa [List.all_eq_true] using hall
  unfold secretPatterns
  generalize secretWords = words at hordinary
  induction words with
  | nil => rfl
  | cons word words ih =>
    have hword : ofValue { ignoreCase := true } (.text (".*" ++ word ++ ".*")) =
        .ok (holdingWord word) := by
      rw [ofValue, compile_holdingWord word (hordinary word List.mem_cons_self)]
    rw [List.mapM_cons, hword, ih fun w hw => hordinary w (List.mem_cons_of_mem word hw)]
    rfl

end MaskedReport.Pattern
