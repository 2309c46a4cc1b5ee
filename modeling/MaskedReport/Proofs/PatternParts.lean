import MaskedReport.Proofs.PatternCauses

/-!
# Readers of the parts of patterns

The readers of escapes, character sets and repetitions keep what holds of a reading. Repetitions are
where bounds come from: `keeps_bound` needs the digits to be a bound in the text, and `meets_bounds`
says that all digits up to a closing brace are.
-/

set_option autoImplicit false

namespace MaskedReport.Pattern

open Read

section Readers

variable {given : Flags} {text : List Letter}

/-! ## Escapes and sets -/

/-- A hexadecimal escape keeps to the text. -/
theorem keeps_hexEscape (c : Char) (digits : Nat) : Keeps given text (hexEscape c digits) := by
  unfold hexEscape
  apply (keeps_takeUpTo _ _).bind
  intro ds
  dsimp only
  split
  · exact keeps_fault _ _
  · split
    · exact keeps_fault _ _
    · exact keeps_pure _

/-- An escape with the name of a character keeps to the text. -/
theorem keeps_namedEscape : Keeps given text namedEscape := by
  unfold namedEscape
  apply (keeps_accept _).bind
  intro brace
  split
  · exact keeps_fault _ _
  · apply (keeps_name _ _).bind
    intro letters
    split
    · exact keeps_fault _ _
    · split
      · exact keeps_pure _
      · exact keeps_fault _ _

/-- An escape of a code keeps to the text. -/
theorem keeps_of_codeEscape? {c : Char} {code : Read Nat} (h : codeEscape? c = some code) :
    Keeps given text code := by
  unfold codeEscape? at h
  split at h
  · cases h
    exact keeps_hexEscape c 2
  · split at h
    · cases h
      exact keeps_hexEscape c 4
    · split at h
      · cases h
        exact keeps_hexEscape c 8
      · split at h
        · cases h
          exact keeps_namedEscape
        · cases h

/-- An escape of a letter keeps to the text. -/
theorem keeps_plainEscape (c : Char) : Keeps given text (plainEscape c) := by
  unfold plainEscape
  split
  · exact keeps_fault _ _
  · exact keeps_pure _

/-- An escape in a set keeps to the text. -/
theorem keeps_setEscape (c : Char) : Keeps given text (setEscape c) := by
  unfold setEscape
  split
  · exact keeps_pure _
  · split
    · exact keeps_pure _
    · exact keeps_pure _
    · rename_i code hcode _ _
      apply (keeps_of_codeEscape? hcode).bind
      intro n
      exact keeps_pure _
    · split
      · apply (keeps_takeUpTo _ _).bind
        intro ds
        dsimp only
        split
        · exact keeps_fault _ _
        · exact keeps_pure _
      · apply (keeps_plainEscape c).bind
        intro n
        exact keeps_pure _

/-- An escape that names a group keeps to the text. -/
theorem keeps_groupEscape (ds : List Char) : Keeps given text (groupEscape ds) := by
  unfold groupEscape
  apply keeps_get.bind
  intro r
  split
  · apply (keeps_isClosed _).bind
    intro closed
    split
    · exact keeps_fault _ _
    · apply (keeps_checkBehind _).bind
      intro _
      exact keeps_pure _
  · exact keeps_fault _ _

/-- An escape that begins with a digit keeps to the text. -/
theorem keeps_digitEscape (c : Char) : Keeps given text (digitEscape c) := by
  unfold digitEscape
  apply keeps_peek.bind
  intro second
  split
  · split
    · apply keeps_take.bind
      intro _
      apply keeps_peek.bind
      intro third
      split
      · split
        · apply keeps_take.bind
          intro _
          dsimp only
          split
          · exact keeps_fault _ _
          · exact keeps_pure _
        · exact keeps_groupEscape _
      · exact keeps_groupEscape _
    · exact keeps_groupEscape _
  · exact keeps_groupEscape _

/-- An escape outside sets keeps to the text. -/
theorem keeps_escape (c : Char) : Keeps given text (escape c) := by
  unfold escape
  split
  · exact keeps_pure _
  · exact keeps_pure _
  · exact keeps_pure _
  · rename_i code hcode _ _ _
    apply (keeps_of_codeEscape? hcode).bind
    intro n
    exact keeps_pure _
  · split
    · apply (keeps_takeUpTo _ _).bind
      intro ds
      exact keeps_pure _
    · split
      · exact keeps_digitEscape c
      · apply (keeps_plainEscape c).bind
        intro n
        exact keeps_pure _

/-- What stands after a backslash outside sets keeps to the text. -/
theorem keeps_escaped (c : Letter) : Keeps given text (escaped c) := by
  cases c with
  | char c => exact keeps_escape c
  | lone h => exact keeps_pure _

/-- A member of a set keeps to the text. -/
theorem keeps_setMember (p : Piece) : Keeps given text (setMember p) := by
  cases p with
  | escaped c =>
    cases c with
    | char c => exact keeps_setEscape c
    | lone h => exact keeps_pure _
  | plain c => exact keeps_pure _

/-- The members of a set keep to the text. -/
theorem keeps_setMembers (here fuel : Nat) (found : List Member) :
    Keeps given text (setMembers here fuel found) := by
  induction fuel generalizing found with
  | zero => exact keeps_fault _ _
  | succ fuel ih =>
    have hunterminated : Keeps given text
        (Read.position >>= fun p => (fault .unterminatedSet (p - here) : Read (List Member))) := by
      apply keeps_position.bind
      intro p
      exact keeps_fault _ _
    unfold setMembers
    dsimp only
    apply keeps_take.bind
    intro this
    split
    · exact hunterminated
    · split
      · exact keeps_pure _
      · apply (keeps_setMember _).bind
        intro first
        apply (keeps_accept _).bind
        intro dash
        split
        · apply keeps_take.bind
          intro that
          split
          · exact hunterminated
          · split
            · exact keeps_pure _
            · apply (keeps_setMember _).bind
              intro last
              split
              · split
                · exact keeps_fault _ _
                · exact ih _
              · exact keeps_fault _ _
        · exact ih _

/-- A set keeps to the text. -/
theorem keeps_charSet : Keeps given text charSet := by
  unfold charSet
  apply keeps_position.bind
  intro p
  apply (keeps_accept _).bind
  intro negated
  apply keeps_get.bind
  intro r
  apply (keeps_setMembers _ _ _).bind
  intro members
  split
  · exact keeps_pure _
  · exact keeps_pure _

/-! ## Repetitions -/

/-- Characters that have been taken one by one stand in the text. -/
theorem Reading.After.isInfix {r : Reading} {cs : List Char}
    (h : r.After given text (cs.map fun c => .plain (.char c))) : cs.map .char <:+: text := by
  have hletters : (cs.map fun c => Piece.plain (.char c)).flatMap Piece.letters =
      cs.map .char := by
    rw [List.flatMap_map]
    exact List.map_eq_flatMap.symm
  have hpieces := h.pieces
  rw [List.flatMap_append, hletters] at hpieces
  exact (List.prefix_append _ _).isInfix.trans hpieces

/-- A bound that the text has keeps to the text. -/
theorem keeps_bound {digits : List Char} (h : HasBound text digits) :
    Keeps given text (bound digits) := by
  unfold bound
  split
  · exact keeps_pure _
  · split
    case isTrue hlong =>
      exact meets_of_error _ (fun _ => rfl) fun _ => ⟨digits, h, rfl, hlong⟩
    case isFalse =>
      dsimp only
      split
      case isTrue hlarge =>
        exact meets_of_error _ (fun _ => rfl) fun _ => ⟨digits, h, hlarge⟩
      case isFalse => exact keeps_pure _

/-- Whether reading stands before the closing brace of a repetition with the given bounds, if there
is one. -/
def Reading.BeforeBrace (given : Flags) (text : List Letter) (lo hi : List Char)
    (r : Reading) : Prop :=
  ∃ cs : List Char, r.After given text (cs.map fun c => .plain (.char c)) ∧
    ((cs ++ ['\x7d']).map .char <:+: text → HasBound text lo ∧ HasBound text hi)

/-- After a brace with digits one number is both bounds. -/
theorem Reading.After.beforeBrace_exactly {r : Reading} {lo : List Char}
    (hlo : ∀ d ∈ lo, Ascii.isDigit d = true)
    (h : r.After given text (('\x7b' :: lo).map fun c => .plain (.char c))) :
    r.BeforeBrace given text lo lo := by
  refine ⟨'\x7b' :: lo, h, ?_⟩
  intro hinfix
  rw [List.cons_append, List.map_cons, List.map_append] at hinfix
  exact ⟨.exactly hlo hinfix, .exactly hlo hinfix⟩

/-- After a brace with digits, a comma and digits the bounds are the two numbers. -/
theorem Reading.After.beforeBrace_comma {r : Reading} {lo hi : List Char}
    (hlo : ∀ d ∈ lo, Ascii.isDigit d = true) (hhi : ∀ d ∈ hi, Ascii.isDigit d = true)
    (h : r.After given text (('\x7b' :: (lo ++ ',' :: hi)).map fun c => .plain (.char c))) :
    r.BeforeBrace given text lo hi := by
  have hdigits : ∀ d ∈ lo ++ hi, Ascii.isDigit d = true := by
    intro d hd
    exact (List.mem_append.mp hd).elim (hlo d) (hhi d)
  refine ⟨'\x7b' :: (lo ++ ',' :: hi), h, ?_⟩
  intro hinfix
  rw [List.cons_append, List.append_assoc, List.cons_append, List.map_cons, List.map_append,
    List.map_cons, List.map_append] at hinfix
  exact ⟨.atLeast hi hdigits hinfix, .atMost lo hdigits hinfix⟩

/-- The closing brace after two bounds makes both of them bounds in the text. -/
theorem meets_closingBrace {lo hi : List Char} :
    Meets given text (Reading.BeforeBrace given text lo hi) (accept '\x7d') fun closed r =>
      (closed = true → HasBound text lo ∧ HasBound text hi) ∧ r.After given text [] := by
  rintro r ⟨cs, hr, hbounds⟩
  obtain ⟨hok, herror⟩ := meets_accept '\x7d' r hr
  refine ⟨?_, herror⟩
  intro closed s hs
  have hafter := hok closed s hs
  refine ⟨?_, hafter.nil⟩
  rintro rfl
  apply hbounds
  apply Reading.After.isInfix (r := s)
  simpa using hafter

/-- Braces that turn out to be plain characters are given back. -/
theorem meets_bounds {sign : Char} (hsign : sign ∈ ['*', '+', '?', '\x7b']) :
    Meets given text (Reading.After given text [.plain (.char sign)]) (bounds sign) fun _ =>
      Reading.After given text [] := by
  unfold bounds
  split
  · exact (keeps_pure _).after
  · split
    · exact (keeps_pure _).after
    · split
      · exact (keeps_pure _).after
      · rename_i hquestion hstar hplus
        have hbrace : sign = '\x7b' := by simpa [hquestion, hstar, hplus] using hsign
        subst hbrace
        apply meets_peek.bind
        intro p
        split
        · exact meets_pure fun r hr => hr.2.nil
        · apply meets_get_bind
          rintro start ⟨-, hstart⟩
          apply ((meets_takeWhile Ascii.isDigit).mono (fun _ hr => hr.2) fun _ _ hr => hr).bind
          intro lo
          extract_lets rest
          have hrest : ∀ hi, Meets given text (Reading.BeforeBrace given text lo hi) (rest hi)
              fun _ => Reading.After given text [] := by
            intro hi
            apply meets_closingBrace.bind
            intro closed
            cases closed with
            | false =>
              -- what is to come is again what came after the opening brace
              apply meets_get_bind
              rintro now ⟨-, hnow⟩
              apply (meets_set fun _ _ => ?_).bind
              · intro _
                exact keeps_pure _
              · exact ⟨hstart.nil.pieces, hnow.ascii, hnow.unicode⟩
            | true =>
              apply meets_of_fact
              intro hbounds
              obtain ⟨hlo, hhi⟩ := hbounds rfl
              apply (keeps_bound hlo).bind
              intro least
              apply (keeps_bound hhi).bind
              intro most
              split
              · split
                · apply keeps_position.bind
                  intro position
                  exact keeps_fault _ _
                · exact keeps_pure _
              · exact keeps_pure _
          apply meets_of_fact
          intro hlo
          apply (meets_accept ',').bind
          intro comma
          cases comma with
          | false =>
            apply Meets.bind (meets_pure fun r hr => ?_) hrest
            exact Reading.After.beforeBrace_exactly hlo (by simpa using hr)
          | true =>
            apply ((meets_takeWhile Ascii.isDigit).mono (fun _ hr => hr) ?_).bind hrest
            rintro hi r ⟨hhi, hr⟩
            exact Reading.After.beforeBrace_comma hlo hhi (by simpa using hr)

/-- The mode of a repetition keeps to the text. -/
theorem keeps_repetitionMode : Keeps given text repetitionMode := by
  unfold repetitionMode
  apply (keeps_accept _).bind
  intro question
  split
  · exact keeps_pure _
  · apply (keeps_accept _).bind
    intro plus
    split
    · exact keeps_pure _
    · exact keeps_pure _

/-- Repeating the last item keeps to the text. -/
theorem keeps_repeatLast (here least : Nat) (most : Option Nat) (items : List Node) :
    Keeps given text (repeatLast here least most items) := by
  unfold repeatLast
  apply keeps_position.bind
  intro p
  dsimp only
  split
  · exact keeps_fault _ _
  · exact keeps_fault _ _
  · exact keeps_fault _ _
  · apply keeps_repetitionMode.bind
    intro mode
    exact keeps_pure _

end Readers

end MaskedReport.Pattern
