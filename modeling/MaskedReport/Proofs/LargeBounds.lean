import MaskedReport.Proofs.Reading

/-!
# Repetition bounds that are too large

A character with a repetition in braces is well formed whatever the bound. `read_of_isBeyond` says
that it is refused all the same where the bound is too large to be counted or has too many digits to
be converted, and that the refusal is then not that of a malformed text.
-/

set_option autoImplicit false

namespace MaskedReport.Pattern

/-- Whether the number of a bound is too large to be counted, or its digits are too many to be
converted. -/
def IsBeyond (digits : List Char) : Prop :=
  Node.unbounded ≤ number 10 digits ∨ Numeral.digitLimit < digits.length

/-- What a bound that is beyond those of patterns is refused with. -/
def beyondRefusal (digits : List Char) : Refusal :=
  if Numeral.digitLimit < digits.length then .numeralTooLong digits.length else .repetitionTooLarge

/-- The pieces of characters that stand for themselves. -/
def plainPieces (chars : List Char) : List Piece := chars.map fun c => .plain (.char c)

/-- A bound beyond those of patterns has digits. -/
theorem IsBeyond.ne_nil {digits : List Char} (h : IsBeyond digits) : digits ≠ [] := by
  rintro rfl
  rcases h with h | h
  · simp [number, Numeral.value, Node.unbounded] at h
  · simp at h

section Reading

variable {r : Reading} {rest : List Piece} {digits : List Char}

namespace Read

/-- Looking at the reading changes nothing. -/
theorem get_eq (r : Reading) : (get : Read Reading) r = .ok (r, r) := rfl

/-- Steps in a row fail as the first does. -/
theorem bind_of_error {α β : Type} {x : Read α} {why : Refusal} (h : x r = .error why)
    (f : α → Read β) : (x >>= f) r = .error why := by
  simp only [bind, StateT.bind, Except.bind, h]

/-- A character that is next is accepted, and what follows it is next. -/
theorem accept_of_pieces {c : Char} (hp : r.pieces = .plain (.char c) :: rest)
    (hd : r.dangling = false) :
    accept c r = .ok (true, { r with pieces := rest, position := r.position + 1 }) := by
  rw [accept, bind_of_eq (peek_of_pieces hp), if_pos rfl, bind_of_eq (take_of_pieces hp hd)]
  rfl

/-- Characters are taken up to the first that does not satisfy the test. -/
theorem takeUpTo_of_pieces {test : Char → Bool} {last : Char} (hlast : test last = false) {n : Nat}
    (hn : digits.length ≤ n) (hdigits : ∀ d ∈ digits, test d = true)
    (hp : r.pieces = plainPieces digits ++ .plain (.char last) :: rest) (hd : r.dangling = false) :
    ∃ position, takeUpTo test n r =
      .ok (digits, { r with pieces := .plain (.char last) :: rest, position }) := by
  induction digits generalizing n r with
  | nil =>
    refine ⟨r.position, ?_⟩
    simp only [plainPieces, List.map_nil, List.nil_append] at hp
    cases n with
    | zero =>
      rw [← hp]
      rfl
    | succ n =>
      rw [takeUpTo, bind_of_eq (peek_of_pieces hp), ← hp]
      simp only [hlast]
      rfl
  | cons d digits ih =>
    obtain ⟨n, rfl⟩ : ∃ m, n = m + 1 := ⟨n - 1, by simp at hn; omega⟩
    obtain ⟨hdigit, hdigits⟩ := List.forall_mem_cons.mp hdigits
    rw [plainPieces, List.map_cons, List.cons_append] at hp
    obtain ⟨position, hrest⟩ := ih (by simpa using hn) hdigits
      (r := { r with pieces := plainPieces digits ++ .plain (.char last) :: rest,
                     position := r.position + 1 }) rfl hd
    refine ⟨position, ?_⟩
    rw [takeUpTo, bind_of_eq (peek_of_pieces hp)]
    simp only [hdigit, if_true]
    rw [bind_of_eq (take_of_pieces hp hd)]
    exact bind_of_eq hrest _

end Read

/-- A bound beyond those of patterns is refused. -/
theorem bound_of_isBeyond (h : IsBeyond digits) (r : Reading) :
    bound digits r = .error (beyondRefusal digits) := by
  have hempty : digits.isEmpty = false := by simpa using h.ne_nil
  unfold bound beyondRefusal
  rw [hempty]
  by_cases hlong : Numeral.digitLimit < digits.length
  · simp only [hlong, if_true]
    rfl
  · have hlarge := h.resolve_right hlong
    simp only [hlong, hlarge, if_true, if_false]
    rfl

/-- A repetition in braces with a bound beyond those of patterns is refused. -/
theorem bounds_of_isBeyond (h : IsBeyond digits) (hdigits : ∀ d ∈ digits, Ascii.isDigit d = true)
    (hp : r.pieces = plainPieces digits ++ .plain (.char '\x7d') :: rest)
    (hd : r.dangling = false) :
    bounds '\x7b' r = .error (beyondRefusal digits) := by
  obtain ⟨d, more, rfl⟩ := List.exists_cons_of_ne_nil h.ne_nil
  have hdigit := hdigits d List.mem_cons_self
  have hd_ne : d ≠ '\x7d' := by
    rintro rfl
    simp [Ascii.isDigit] at hdigit
  have hfirst : r.pieces =
      .plain (.char d) :: (plainPieces more ++ .plain (.char '\x7d') :: rest) := hp
  have hlength : (d :: more).length ≤ r.pieces.length := by simp [hp, plainPieces]
  obtain ⟨position, htaken⟩ := Read.takeUpTo_of_pieces (by decide) hlength hdigits hp hd
  let after : Reading := { r with pieces := .plain (.char '\x7d') :: rest, position }
  have hdigits : Read.takeWhile Ascii.isDigit r = .ok (d :: more, after) := by
    rw [Read.takeWhile, Read.bind_of_eq (Read.get_eq r)]
    exact htaken
  have hcomma : Read.accept ',' after = .ok (false, after) :=
    Read.accept_of_ne (by simp [after])
  have hbrace : Read.accept '\x7d' after =
      .ok (true, { after with pieces := rest, position := after.position + 1 }) :=
    Read.accept_of_pieces rfl hd
  unfold bounds
  rw [if_neg (by decide), if_neg (by decide), if_neg (by decide),
    Read.bind_of_eq (Read.peek_of_pieces hfirst), if_neg (by simpa using hd_ne),
    Read.bind_of_eq (Read.get_eq r), Read.bind_of_eq hdigits,
    Read.bind_of_eq hcomma]
  simp only [Bool.false_eq_true, if_false]
  rw [Read.bind_of_eq (show (pure (d :: more) : Read (List Char)) after = .ok (d :: more, after)
    from rfl), Read.bind_of_eq hbrace]
  exact Read.bind_of_error (bound_of_isBeyond h _) _

/-- Items with such a bound next are refused for it. -/
theorem items_of_isBeyond {fuel : Nat} {first : Bool} {found : List Node} (h : IsBeyond digits)
    (hdigits : ∀ d ∈ digits, Ascii.isDigit d = true)
    (hp : r.pieces = .plain (.char '\x7b') :: (plainPieces digits ++ .plain (.char '\x7d') :: rest))
    (hd : r.dangling = false) :
    items (fuel + 1) false first found r = .error (beyondRefusal digits) := by
  let after : Reading := { r with
    pieces := plainPieces digits ++ .plain (.char '\x7d') :: rest, position := r.position + 1 }
  have htake : Read.take r = .ok (some (.plain (.char '\x7b')), after) := Read.take_of_pieces hp hd
  have hposition : Read.position after = .ok (after.position, after) := rfl
  have hbounds : bounds '\x7b' after = .error (beyondRefusal digits) :=
    bounds_of_isBeyond h hdigits rfl hd
  rw [items.eq_2, Read.bind_of_eq (Read.peek_of_pieces hp)]
  show (Read.take >>= _) r = _
  rw [Read.bind_of_eq htake]
  show (Read.position >>= _) after = _
  rw [Read.bind_of_eq hposition]
  exact Read.bind_of_error hbounds _

end Reading

/-- A text without backslashes is cut into its characters. -/
theorem cut_of_notMem {text : List Letter} (h : .char '\\' ∉ text) :
    Piece.cut text = (text.map .plain, false) := by
  induction text with
  | nil => rfl
  | cons c rest ih =>
    obtain ⟨hc, hrest⟩ := not_or.mp fun hmem => h (List.mem_cons.mpr hmem)
    simp [Piece.cut, Ne.symm hc, ih hrest]

/-- A letter with a repetition in braces is refused where the bound is beyond those of patterns. -/
theorem read_of_isBeyond {flags : Flags} (hverbose : flags.verbose = false) {c : Letter}
    (hc : c ∉ metaChars) {digits : List Char} (hdigits : ∀ d ∈ digits, Ascii.isDigit d = true)
    (h : IsBeyond digits) :
    read flags (c :: .char '\x7b' :: (digits.map .char ++ [.char '\x7d'])) =
      .error (beyondRefusal digits) := by
  let pieces : List Piece :=
    .plain c :: .plain (.char '\x7b') :: (plainPieces digits ++ [.plain (.char '\x7d')])
  let start : Reading := { pieces, position := 0, dangling := false, flags }
  have hbackslash : .char '\\' ∉ c :: .char '\x7b' :: (digits.map .char ++ [.char '\x7d']) := by
    simp only [List.mem_cons, List.mem_append, List.mem_map, List.not_mem_nil, or_false, not_or,
      not_exists, not_and]
    refine ⟨?_, by decide, ?_, by decide⟩
    · rintro rfl
      exact hc (by decide)
    · intro d hd hbackslash
      cases hbackslash
      exact absurd (hdigits _ hd) (by decide)
  have hcut : Piece.cut (c :: .char '\x7b' :: (digits.map .char ++ [.char '\x7d'])) =
      (pieces, false) := by
    rw [cut_of_notMem hbackslash]
    simp [pieces, plainPieces]
  have hitems : ∀ fuel, items (fuel + 2) false true [] start = .error (beyondRefusal digits) := by
    intro fuel
    rw [items_ordinary hc rfl rfl]
    exact items_of_isBeyond h hdigits rfl rfl
  have halternatives : alternatives (3 * pieces.length + 4) flags.verbose true true start =
      .error (beyondRefusal digits) := by
    rw [hverbose]
    show alternatives (3 * pieces.length + 3 + 1) false true true start = _
    rw [alternatives, Bool.and_self]
    exact Read.bind_of_error (hitems _) _
  simp only [read, hcut, Bool.and_false, Bool.false_eq_true, if_false]
  rw [StateT.run, halternatives]
  rfl

end MaskedReport.Pattern
