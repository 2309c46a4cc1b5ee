import MaskedReport.Pattern.Reader

/-!
# Causes of refused patterns

A text that is no pattern is refused as malformed, or else for one of three things that are no fault
of its form: a repetition bound that is too large or has too many digits, and flags for both classes
of characters. `Refusal.CausedBy` says what has to be in the text for each of these.

While a pattern is read, what is still to come is part of the text, and a flag for a class of
characters is given or turned on by a group of the text (`Reading.After`). A reader that keeps this,
and whose refusals have their causes in the text, is one of `Read.Keeps`; where more is known before
or after it, `Read.Meets` says what. Here are the laws of the two and the readers of single pieces.
-/

set_option autoImplicit false

namespace MaskedReport.Pattern

/-! ## Causes in the text -/

/-- Whether a text has a repetition in braces with the given digits for one of its bounds. -/
inductive HasBound (text : List Letter) (digits : List Char) : Prop
  | exactly (hdigits : ∀ d ∈ digits, Ascii.isDigit d = true)
    (h : .char '\x7b' :: (digits.map .char ++ [.char '\x7d']) <:+: text)
  | atLeast (most : List Char) (hdigits : ∀ d ∈ digits ++ most, Ascii.isDigit d = true)
    (h : .char '\x7b' :: (digits.map .char ++ .char ',' ::
      (most.map .char ++ [.char '\x7d'])) <:+: text)
  | atMost (least : List Char) (hdigits : ∀ d ∈ least ++ digits, Ascii.isDigit d = true)
    (h : .char '\x7b' :: (least.map .char ++ .char ',' ::
      (digits.map .char ++ [.char '\x7d'])) <:+: text)

/-- Whether a text has a group that turns on the flag of a letter for the whole pattern. -/
def TurnsOn (text : List Letter) (letter : Char) : Prop :=
  ∃ letters : List Char, letter ∈ letters ∧ (∀ c ∈ letters, (flag? c).isSome = true) ∧
    .char '(' :: .char '?' :: (letters.map .char ++ [.char ')']) <:+: text

/-- What a refusal other than that of a malformed text has as its cause, where a text is read under
the given flags. -/
def Refusal.CausedBy (given : Flags) (text : List Letter) : Refusal → Prop
  | .malformed _ _ => True
  | .repetitionTooLarge => ∃ digits, HasBound text digits ∧ Node.unbounded ≤ number 10 digits
  | .numeralTooLong n =>
    ∃ digits, HasBound text digits ∧ digits.length = n ∧ Numeral.digitLimit < n
  | .flagsConflict => (given.ascii = true ∨ TurnsOn text 'a') ∧
      (given.unicode = true ∨ TurnsOn text 'u')

/-! ## What readers keep -/

/-- Where reading of a text stands after the given pieces: these and what is to come are part of the
text, and a flag for a class of characters is given or turned on in the text. -/
structure Reading.After (given : Flags) (text : List Letter) (taken : List Piece) (r : Reading) :
    Prop where
  pieces : (taken ++ r.pieces).flatMap Piece.letters <:+: text
  ascii : r.flags.ascii = true → given.ascii = true ∨ TurnsOn text 'a'
  unicode : r.flags.unicode = true → given.unicode = true ∨ TurnsOn text 'u'

/-- What a reader comes to from a reading: a result and a reading of which something holds, or a
refusal that has its cause in the text. -/
def Read.Meets {α : Type} (given : Flags) (text : List Letter) (pre : Reading → Prop) (x : Read α)
    (post : α → Reading → Prop) : Prop :=
  ∀ r, pre r → (∀ a s, x r = .ok (a, s) → post a s) ∧
    ∀ why, x r = .error why → why.CausedBy given text

/-- A reader that keeps what holds of a reading. -/
def Read.Keeps {α : Type} (given : Flags) (text : List Letter) (x : Read α) : Prop :=
  Read.Meets given text (Reading.After given text []) x fun _ => Reading.After given text []

section Readers

variable {α β : Type} {given : Flags} {text : List Letter} {taken : List Piece}
  {pre : Reading → Prop} {post : α → Reading → Prop}

/-- A reading after more pieces is after the fewer. -/
theorem Reading.After.weaken {r : Reading} {more : List Piece}
    (h : r.After given text (more ++ taken)) : r.After given text taken := by
  refine ⟨?_, h.ascii, h.unicode⟩
  have hpieces := h.pieces
  rw [List.append_assoc, List.flatMap_append] at hpieces
  exact (List.suffix_append _ _).isInfix.trans hpieces

/-- A reading after pieces is after none. -/
theorem Reading.After.nil {r : Reading} (h : r.After given text taken) : r.After given text [] := by
  have hall : r.After given text (taken ++ []) := by rwa [List.append_nil]
  exact hall.weaken

namespace Read

/-- A reader without failures meets what its results do. -/
theorem meets_of_ok {x : Read α} (result : Reading → α × Reading)
    (hx : ∀ r, x r = .ok (result r)) (h : ∀ r, pre r → post (result r).1 (result r).2) :
    Meets given text pre x post := by
  intro r hr
  rw [hx r]
  constructor
  · intro a s hs
    have hpost := h r hr
    rw [Except.ok.inj hs] at hpost
    exact hpost
  · intro why hwhy
    cases hwhy

/-- A reader that always fails meets anything if the text causes its refusals. -/
theorem meets_of_error {x : Read α} (why : Reading → Refusal) (hx : ∀ r, x r = .error (why r))
    (h : ∀ r, (why r).CausedBy given text) : Meets given text pre x post := by
  intro r hr
  rw [hx r]
  constructor
  · intro a s hs
    cases hs
  · intro other hother
    cases hother
    exact h r

/-- A result without reading meets what holds of it. -/
theorem meets_pure {a : α} (h : ∀ r, pre r → post a r) : Meets given text pre (pure a) post :=
  meets_of_ok (fun r => (a, r)) (fun _ => rfl) h

/-- Readers in a row meet what the last does after what the first does. -/
theorem Meets.bind {x : Read α} {f : α → Read β} {last : β → Reading → Prop}
    (hx : Meets given text pre x post) (hf : ∀ a, Meets given text (post a) (f a) last) :
    Meets given text pre (x >>= f) last := by
  intro r hr
  obtain ⟨hok, herror⟩ := hx r hr
  cases hresult : x r with
  | error why =>
    have hbind : (x >>= f) r = .error why := by
      simp only [Bind.bind, StateT.bind, Except.bind, hresult]
    rw [hbind]
    constructor
    · intro b s hs
      cases hs
    · intro other hother
      cases hother
      exact herror why hresult
  | ok result =>
    have hbind : (x >>= f) r = f result.1 result.2 := by
      simp only [Bind.bind, StateT.bind, Except.bind, hresult]
    rw [hbind]
    exact hf result.1 result.2 (hok result.1 result.2 hresult)

/-- More may be asked before and less after. -/
theorem Meets.mono {x : Read α} {pre' : Reading → Prop} {post' : α → Reading → Prop}
    (h : Meets given text pre x post) (hpre : ∀ r, pre' r → pre r)
    (hpost : ∀ a r, post a r → post' a r) : Meets given text pre' x post' := by
  intro r hr
  obtain ⟨hok, herror⟩ := h r (hpre r hr)
  exact ⟨fun a s hs => hpost a s (hok a s hs), herror⟩

/-- A fault of the text meets anything. -/
theorem meets_fault (f : Fault) (back : Nat) :
    Meets given text pre (fault f back : Read α) post :=
  meets_of_error _ (fun _ => rfl) fun _ => trivial

/-- Looking at the reading gives it as it is. -/
theorem meets_get : Meets given text pre get fun a r => a = r ∧ pre r :=
  meets_of_ok (fun r => (r, r)) (fun _ => rfl) fun _ hr => ⟨rfl, hr⟩

/-- What holds of a reading holds of the one that is got. -/
theorem meets_get_bind {f : Reading → Read α}
    (h : ∀ start, pre start → Meets given text pre (f start) post) :
    Meets given text pre (get >>= f) post :=
  fun r hr => h r hr r hr

/-- Putting another reading in place meets what holds of it. -/
theorem meets_set {s : Reading} (h : ∀ r, pre r → Reading.After given text taken s) :
    Meets given text pre (set s) fun _ => Reading.After given text taken :=
  meets_of_ok (fun _ => ((), s)) (fun _ => rfl) h

/-- A fact that is known before may be used. -/
theorem meets_of_fact {fact : Prop} {x : Read α} (h : fact → Meets given text pre x post) :
    Meets given text (fun r => fact ∧ pre r) x post :=
  fun r hr => h hr.1 r hr.2

/-- The next piece is looked at and not taken. -/
theorem meets_peek :
    Meets given text (Reading.After given text taken) peek fun p r =>
      r.pieces.head? = p ∧ r.After given text taken :=
  meets_of_ok (fun r => (r.pieces.head?, r)) (fun _ => rfl) fun _ hr => ⟨rfl, hr⟩

/-- Looking at the position changes nothing. -/
theorem meets_position : Meets given text pre position fun _ => pre :=
  meets_of_ok (fun r => (r.position, r)) (fun _ => rfl) fun _ hr => hr

/-- A piece that is taken is among those taken. -/
theorem meets_take :
    Meets given text (Reading.After given text taken) take fun p =>
      Reading.After given text (taken ++ p.toList) := by
  intro r hr
  unfold take
  cases hpieces : r.pieces with
  | nil =>
    constructor
    · intro p s hs
      cases hs
      simpa using hr
    · intro why hwhy
      cases hwhy
  | cons p rest =>
    dsimp only
    split
    · constructor
      · intro q s hs
        cases hs
      · intro why hwhy
        cases hwhy
        trivial
    · constructor
      · intro q s hs
        cases hs
        refine ⟨?_, hr.ascii, hr.unicode⟩
        simpa [hpieces] using hr.pieces
      · intro why hwhy
        cases hwhy

/-- The piece that is taken is the one that was looked at. -/
theorem meets_take_of_head? {p : Piece} :
    Meets given text (fun r => r.pieces.head? = some p ∧ r.After given text taken) take fun _ =>
      Reading.After given text (taken ++ [p]) := by
  rintro r ⟨hhead, hr⟩
  obtain ⟨hok, herror⟩ := meets_take r hr
  refine ⟨?_, herror⟩
  intro q s hs
  have hq : q = some p := by
    obtain ⟨rest, hrest⟩ := List.head?_eq_some_iff.mp hhead
    rw [take, hrest] at hs
    dsimp only at hs
    split at hs
    · cases hs
    · cases hs
      rfl
  have hafter := hok q s hs
  rw [hq] at hafter
  exact hafter

/-- A character that is accepted is among the pieces taken. -/
theorem meets_accept (c : Char) :
    Meets given text (Reading.After given text taken) (accept c) fun accepted =>
      Reading.After given text (taken ++ if accepted then [.plain c] else []) := by
  unfold accept
  apply meets_peek.bind
  intro p
  split
  case isTrue hp =>
    subst hp
    apply meets_take_of_head?.bind
    intro _
    exact meets_pure fun _ hr => hr
  case isFalse =>
    apply meets_pure
    rintro r ⟨-, hr⟩
    simpa using hr

/-- Characters are taken as they stand, and each satisfies the test. -/
theorem meets_takeUpTo (test : Char → Bool) (n : Nat) :
    Meets given text (Reading.After given text taken) (takeUpTo test n) fun cs r =>
      (∀ c ∈ cs, test c = true) ∧
        r.After given text (taken ++ cs.map fun c => .plain (.char c)) := by
  induction n generalizing taken with
  | zero => exact meets_pure fun r hr => ⟨by simp, by simpa using hr⟩
  | succ n ih =>
    have hnone : ∀ p, Meets given text
        (fun r => r.pieces.head? = p ∧ r.After given text taken) (pure []) fun cs r =>
          (∀ c ∈ cs, test c = true) ∧
            r.After given text (taken ++ cs.map fun c => .plain (.char c)) :=
      fun p => meets_pure fun r hr => ⟨by simp, by simpa using hr.2⟩
    unfold takeUpTo
    apply meets_peek.bind
    intro p
    split
    case h_1 c =>
      split
      case isTrue hc =>
        apply meets_take_of_head?.bind
        intro _
        apply ih.bind
        intro cs
        apply meets_pure
        rintro r ⟨hcs, hr⟩
        refine ⟨?_, by simpa using hr⟩
        rintro d (_ | ⟨_, hd⟩)
        · exact hc
        · exact hcs d hd
      case isFalse => exact hnone _
    case h_2 => exact hnone _

/-- Characters that are taken by a test pass it, and are among the pieces taken. -/
theorem meets_takeWhile (test : Char → Bool) :
    Meets given text (Reading.After given text taken) (takeWhile test) fun cs r =>
      (∀ c ∈ cs, test c = true) ∧
        r.After given text (taken ++ cs.map fun c => .plain (.char c)) := by
  unfold takeWhile
  apply meets_get.bind
  intro start
  exact (meets_takeUpTo test _).mono (fun _ hr => hr.2) fun _ _ hr => hr

/-- Readers in a row keep to the text if both do. -/
theorem Keeps.bind {x : Read α} {f : α → Read β} (hx : Keeps given text x)
    (hf : ∀ a, Keeps given text (f a)) : Keeps given text (x >>= f) :=
  Meets.bind hx hf

/-- What keeps what holds of a reading does so also where the pieces before it are known. -/
theorem Keeps.after {x : Read α} (h : Keeps given text x) :
    Meets given text (Reading.After given text taken) x fun _ => Reading.After given text [] :=
  h.mono (fun _ hr => hr.nil) fun _ _ hr => hr

/-- A result without reading keeps to the text. -/
theorem keeps_pure (a : α) : Keeps given text (pure a) := meets_pure fun _ hr => hr

/-- A fault of the text keeps to it. -/
theorem keeps_fault (f : Fault) (back : Nat) : Keeps given text (fault f back : Read α) :=
  meets_fault f back

/-- Looking at the reading keeps to the text. -/
theorem keeps_get : Keeps given text get :=
  meets_get.mono (fun _ hr => hr) fun _ _ hr => hr.2

/-- Looking at the next piece keeps to the text. -/
theorem keeps_peek : Keeps given text peek :=
  meets_peek.mono (fun _ hr => hr) fun _ _ hr => hr.2

/-- Looking at the position keeps to the text. -/
theorem keeps_position : Keeps given text position := meets_position

/-- A change that stays in the text keeps to it. -/
theorem keeps_modify {f : Reading → Reading}
    (h : ∀ r, r.After given text [] → (f r).After given text []) :
    Keeps given text (modify f) :=
  meets_of_ok (fun r => ((), f r)) (fun _ => rfl) h

/-- Taking a piece keeps to the text. -/
theorem keeps_take : Keeps given text take :=
  meets_take.mono (fun _ hr => hr) fun _ _ hr => hr.nil

/-- Accepting a character keeps to the text. -/
theorem keeps_accept (c : Char) : Keeps given text (accept c) :=
  (meets_accept c).mono (fun _ hr => hr) fun _ _ hr => hr.nil

/-- Taking some characters that pass a test keeps to the text. -/
theorem keeps_takeUpTo (test : Char → Bool) (n : Nat) : Keeps given text (takeUpTo test n) :=
  (meets_takeUpTo test n).mono (fun _ hr => hr) fun _ _ hr => hr.2.nil

/-- Reading up to a closing character keeps to the text. -/
theorem keeps_untilClosing (closing : Char) (what : String) (fuel : Nat) (found : List Letter) :
    Keeps given text (untilClosing closing what fuel found) := by
  induction fuel generalizing found with
  | zero => exact keeps_fault _ _
  | succ fuel ih =>
    unfold untilClosing
    apply keeps_take.bind
    intro p
    split
    · split
      · exact keeps_fault _ _
      · exact keeps_fault _ _
    · split
      · split
        · exact keeps_fault _ _
        · exact keeps_pure _
      · exact ih _

/-- Reading a name keeps to the text. -/
theorem keeps_name (closing : Char) (what : String) : Keeps given text (name closing what) := by
  unfold name
  apply keeps_get.bind
  intro r
  exact keeps_untilClosing closing what _ []

/-- Asking whether a group is closed keeps to the text. -/
theorem keeps_isClosed (group : Nat) : Keeps given text (isClosed group) := by
  unfold isClosed
  split
  · exact keeps_pure _
  · apply keeps_get.bind
    intro r
    exact keeps_pure _

/-- Checking a group behind the text keeps to the text. -/
theorem keeps_checkBehind (group : Nat) : Keeps given text (checkBehind group) := by
  unfold checkBehind
  apply keeps_get.bind
  intro r
  split
  · exact keeps_pure _
  · apply (keeps_isClosed group).bind
    intro closed
    split
    · exact keeps_fault _ _
    · split
      · exact keeps_fault _ _
      · exact keeps_pure _

end Read

end Readers

end MaskedReport.Pattern
