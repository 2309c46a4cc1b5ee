import Mathlib.Tactic.Common
import MaskedReport.Http.Target

/-!
# Percent coding of names

The percent coding of a text, and that it is read back as the text: `Http.unquote_percentCode`. A
character gives one to four bytes, which lead back to it whatever follows; a byte gives itself or a
percent sign with two digits, which lead back to the byte. The characters of a coding are of ASCII,
and none of them is white space or ends a part of a path.
-/

set_option autoImplicit false

namespace MaskedReport

/-! ## Bytes of characters -/

namespace Utf8

/-- A number below 256 is that of its byte. -/
theorem toNat_byte {n : Nat} (h : n < 256) : (UInt8.ofNat n).toNat = n := by
  rw [UInt8.toNat_ofNat']
  exact Nat.mod_eq_of_lt h

/-- The bytes that continue a character are those from 0x80 to 0xBF. -/
theorem continues_iff (b : UInt8) : continues b = true ↔ 0x80 ≤ b.toNat ∧ b.toNat < 0xC0 := by
  simp [continues, UInt8.le_iff_toNat_le, UInt8.lt_iff_toNat_lt]

/-- A second byte continues a character, within the narrower bounds that four first bytes set. -/
theorem follows_iff (a b : UInt8) : follows a b = true ↔
    (0x80 ≤ b.toNat ∧ b.toNat < 0xC0) ∧ (a.toNat = 0xE0 → 0xA0 ≤ b.toNat) ∧
      (a.toNat = 0xED → b.toNat < 0xA0) ∧ (a.toNat = 0xF0 → 0x90 ≤ b.toNat) ∧
      (a.toNat = 0xF4 → b.toNat < 0x90) := by
  have heq : ∀ k : UInt8, a = k ↔ a.toNat = k.toNat := fun k => UInt8.toNat_inj.symm
  simp only [follows, Bool.and_eq_true, continues_iff, heq, UInt8.reduceToNat]
  split_ifs with h0 h1 h2 h3
  · simp [h0, UInt8.le_iff_toNat_le]
  · simp [h1, UInt8.lt_iff_toNat_lt]
  · simp [h2, UInt8.le_iff_toNat_le]
  · simp [h3, UInt8.lt_iff_toNat_lt]
  · simp [h0, h1, h2, h3]

section Step

variable {a b c d : UInt8} (rest : List UInt8)

/-- A byte of ASCII is a character. -/
theorem step_one (h : a.toNat < 0x80) :
    step (a :: rest) = .ok (some (Char.ofNat a.toNat, rest)) := by
  have ha : a < 0x80 := UInt8.lt_iff_toNat_lt.mpr h
  simp [step, ha]

/-- Two bytes are a character if the first announces two and the second continues it. -/
theorem step_two (h : 0xC2 ≤ a.toNat ∧ a.toNat < 0xE0) (hb : continues b = true) :
    step (a :: b :: rest) = .ok (some (Char.ofNat (a.toNat % 32 * 64 + low b), rest)) := by
  have hplace : ¬ a < 0x80 ∧ ¬ a < 0xC2 ∧ a < 0xE0 := by
    simp only [UInt8.lt_iff_toNat_lt, UInt8.reduceToNat]
    omega
  simp [step, hplace, hb]

/-- Three bytes are a character if the first announces three and the others continue it. -/
theorem step_three (h : 0xE0 ≤ a.toNat ∧ a.toNat < 0xF0) (hb : follows a b = true)
    (hc : continues c = true) :
    step (a :: b :: c :: rest) =
      .ok (some (Char.ofNat (a.toNat % 16 * 4096 + low b * 64 + low c), rest)) := by
  have hplace : ¬ a < 0x80 ∧ ¬ a < 0xC2 ∧ ¬ a < 0xE0 ∧ a < 0xF0 := by
    simp only [UInt8.lt_iff_toNat_lt, UInt8.reduceToNat]
    omega
  simp [step, hplace, hb, hc]

/-- Four bytes are a character if the first announces four and the others continue it. -/
theorem step_four (h : 0xF0 ≤ a.toNat ∧ a.toNat < 0xF5) (hb : follows a b = true)
    (hc : continues c = true) (hd : continues d = true) :
    step (a :: b :: c :: d :: rest) =
      .ok (some (Char.ofNat
        (a.toNat % 8 * 262144 + low b * 4096 + low c * 64 + low d), rest)) := by
  have hplace : ¬ a < 0x80 ∧ ¬ a < 0xC2 ∧ ¬ a < 0xE0 ∧ ¬ a < 0xF0 ∧ a < 0xF5 := by
    simp only [UInt8.lt_iff_toNat_lt, UInt8.reduceToNat]
    omega
  simp [step, hplace, hb, hc, hd]

end Step

/-- The bytes of a character are read back as the character, whatever follows them. -/
theorem step_encodeChar (c : Char) (rest : List UInt8) :
    step (encodeChar c ++ rest) = .ok (some (c, rest)) := by
  have hvalid : c.toNat < 0xD800 ∨ 0xDFFF < c.toNat ∧ c.toNat < 0x110000 := c.valid
  have hchar : Char.ofNat c.toNat = c := Char.ofNat_toNat c
  unfold encodeChar
  dsimp only
  generalize c.toNat = n at hvalid hchar ⊢
  -- one case for each width; in each the places that the bytes hold add up to the character
  split_ifs
  · have ha := toNat_byte (n := n) (by omega)
    show step (_ :: rest) = _
    rw [step_one rest (by omega), ha, hchar]
  · have ha := toNat_byte (n := 0xC0 + n / 64) (by omega)
    have hb := toNat_byte (n := 0x80 + n % 64) (by omega)
    have hsum : (0xC0 + n / 64) % 32 * 64 + (0x80 + n % 64) % 64 = n := by omega
    show step (_ :: _ :: rest) = _
    rw [step_two rest (by omega) ((continues_iff _).mpr (by omega)), low, ha, hb, hsum, hchar]
  · have ha := toNat_byte (n := 0xE0 + n / 4096) (by omega)
    have hb := toNat_byte (n := 0x80 + n / 64 % 64) (by omega)
    have hc := toNat_byte (n := 0x80 + n % 64) (by omega)
    have hsum : (0xE0 + n / 4096) % 16 * 4096 + (0x80 + n / 64 % 64) % 64 * 64 +
        (0x80 + n % 64) % 64 = n := by omega
    show step (_ :: _ :: _ :: rest) = _
    rw [step_three rest (by omega) ((follows_iff _ _).mpr (by omega))
      ((continues_iff _).mpr (by omega)), low, low, ha, hb, hc, hsum, hchar]
  · have ha := toNat_byte (n := 0xF0 + n / 262144) (by omega)
    have hb := toNat_byte (n := 0x80 + n / 4096 % 64) (by omega)
    have hc := toNat_byte (n := 0x80 + n / 64 % 64) (by omega)
    have hd := toNat_byte (n := 0x80 + n % 64) (by omega)
    have hsum : (0xF0 + n / 262144) % 8 * 262144 + (0x80 + n / 4096 % 64) % 64 * 4096 +
        (0x80 + n / 64 % 64) % 64 * 64 + (0x80 + n % 64) % 64 = n := by omega
    show step (_ :: _ :: _ :: _ :: rest) = _
    rw [step_four rest (by omega) ((follows_iff _ _).mpr (by omega))
      ((continues_iff _).mpr (by omega)) ((continues_iff _).mpr (by omega)), low, low, low, ha, hb,
      hc, hd, hsum, hchar]

/-- A character has bytes. -/
theorem encodeChar_ne_nil (c : Char) : encodeChar c ≠ [] := by
  unfold encodeChar
  dsimp only
  split_ifs
  all_goals exact List.cons_ne_nil _ _

/-- The bytes of a text are those of its first character and then those of the rest. -/
theorem encode_cons (c : Char) (s : List Char) : encode (c :: s) = encodeChar c ++ encode s :=
  List.flatMap_cons

/-- A text has at least as many bytes as characters. -/
theorem length_le_length_encode (s : List Char) : s.length ≤ (encode s).length := by
  induction s with
  | nil => exact Nat.le_refl _
  | cons c s ih =>
    have hc : 0 < (encodeChar c).length := List.length_pos_iff.mpr (encodeChar_ne_nil c)
    rw [encode_cons, List.length_append, List.length_cons]
    omega

/-- Nothing is replaced in the bytes of a text. -/
theorem repairFrom_encode (s : List Char) {fuel : Nat} (h : s.length < fuel) (done : List Char) :
    repairFrom fuel (encode s) done = done.reverse ++ s := by
  induction s generalizing fuel done with
  | nil =>
    obtain ⟨fuel, rfl⟩ := Nat.exists_eq_add_one_of_ne_zero (Nat.ne_zero_of_lt h)
    exact (List.append_nil _).symm
  | cons c s ih =>
    obtain ⟨fuel, rfl⟩ := Nat.exists_eq_add_one_of_ne_zero (Nat.ne_zero_of_lt h)
    rw [encode_cons, repairFrom, step_encodeChar]
    dsimp only
    rw [ih (Nat.lt_of_succ_lt_succ h), List.reverse_cons, List.append_assoc,
      List.singleton_append]

/-- The bytes of a text are read back as the text. -/
theorem repair_encode (s : List Char) : repair (encode s) = s := by
  have hfuel : s.length < (encode s).length + 1 := Nat.lt_succ_of_le (length_le_length_encode s)
  rw [repair, repairFrom_encode s hfuel, List.reverse_nil, List.nil_append]

/-- A character of ASCII is one byte. -/
theorem encodeChar_of_ascii {c : Char} (h : c.toNat < 128) :
    encodeChar c = [UInt8.ofNat c.toNat] := by
  simp [encodeChar, h]

end Utf8

namespace Http

/-! ## The coding -/

/-- The capital hexadecimal digit of a number below sixteen. -/
def hexDigit (n : Nat) : Char := Char.ofNat (if n < 10 then 48 + n else 55 + n)

/-- Whether a byte stands for itself in a coded name. -/
def isUnreserved (b : UInt8) : Bool :=
  let c := Char.ofNat b.toNat
  Ascii.isLetter c || Ascii.isDigit c || c = '_' || c = '.' || c = '-' || c = '~'

/-- The code of a byte: itself, or a percent sign with two hexadecimal digits. -/
def percentByte (b : UInt8) : List Char :=
  if isUnreserved b then [Char.ofNat b.toNat]
  else ['%', hexDigit (b.toNat / 16), hexDigit (b.toNat % 16)]

/-- The percent coding of a text: the codes of its bytes in UTF-8. -/
def percentCode (s : List Char) : List Char := (Utf8.encode s).flatMap percentByte

/-- Whether a character can stand in a coded name: it is of ASCII, and neither white space nor what
ends a part of a path. -/
def isCodeChar (c : Char) : Bool :=
  c.toNat < 128 && !CharClass.isBlank c.toNat && c != '/' && c != '?' && c != '#'

/-- What is computed to hold of all bytes holds of each. -/
theorem holds_of_all_bytes {p : UInt8 → Bool}
    (h : ((List.range 256).all fun n => p (UInt8.ofNat n)) = true) (b : UInt8) : p b = true := by
  have hb := List.all_eq_true.mp h b.toNat (List.mem_range.mpr b.toNat_lt)
  rwa [UInt8.ofNat_toNat] at hb

/-- The code of a byte consists of characters that codes may have. -/
theorem isCodeChar_percentByte (b : UInt8) : ∀ c ∈ percentByte b, isCodeChar c = true := by
  have hall : ((List.range 256).all fun n =>
      (percentByte (UInt8.ofNat n)).all isCodeChar) = true := by decide +kernel
  exact List.all_eq_true.mp
    (holds_of_all_bytes (p := fun b => (percentByte b).all isCodeChar) hall b)

/-- The code of a text consists of characters that codes may have. -/
theorem isCodeChar_percentCode (s : List Char) : ∀ c ∈ percentCode s, isCodeChar c = true := by
  intro c hc
  obtain ⟨b, -, hb⟩ := List.mem_flatMap.mp hc
  exact isCodeChar_percentByte b c hb

/-- The characters that codes may have are those of ASCII but blanks and the marks of a target. -/
theorem isCodeChar_iff (c : Char) : isCodeChar c = true ↔
    c.toNat < 128 ∧ CharClass.isBlank c.toNat = false ∧ c ≠ '/' ∧ c ≠ '?' ∧ c ≠ '#' := by
  simp [isCodeChar, and_assoc]

/-- A text that is not empty has a code that is not empty. -/
theorem percentCode_ne_nil {s : List Char} (h : s ≠ []) : percentCode s ≠ [] := by
  have hbytes : Utf8.encode s ≠ [] := by
    intro hnil
    have hlength := Utf8.length_le_length_encode s
    rw [hnil, List.length_nil, Nat.le_zero, List.length_eq_zero_iff] at hlength
    exact h hlength
  intro hnil
  obtain ⟨b, rest, hcons⟩ := List.exists_cons_of_ne_nil hbytes
  rw [percentCode, hcons, List.flatMap_cons, List.append_eq_nil_iff] at hnil
  have hb := hnil.1
  unfold percentByte at hb
  split_ifs at hb

/-! ## Reading codes -/

/-- A hexadecimal digit has the value it is written for. -/
theorem hexValue?_hexDigit : ∀ n < 16, hexValue? (hexDigit n) = some n := by decide

/-- A character other than the percent sign is its own byte. -/
theorem percentBytes_of_ne {c : Char} (h : c ≠ '%') (rest : List Char) :
    percentBytes (c :: rest) = UInt8.ofNat c.toNat :: percentBytes rest := by
  match rest with
  | [] => rfl
  | [d] => rfl
  | d :: e :: rest => simp [percentBytes, h]

/-- The code of a byte is read back as the byte, whatever follows it. -/
theorem percentBytes_percentByte (b : UInt8) (rest : List Char) :
    percentBytes (percentByte b ++ rest) = b :: percentBytes rest := by
  unfold percentByte
  split_ifs with hplain
  · have hall : ((List.range 256).all fun n => !isUnreserved (UInt8.ofNat n) ||
        UInt8.ofNat (Char.ofNat (UInt8.ofNat n).toNat).toNat == UInt8.ofNat n &&
          Char.ofNat (UInt8.ofNat n).toNat != '%') = true := by decide +kernel
    have hbyte : UInt8.ofNat (Char.ofNat b.toNat).toNat = b ∧ Char.ofNat b.toNat ≠ '%' := by
      simpa [hplain] using holds_of_all_bytes (p := fun b => !isUnreserved b ||
        UInt8.ofNat (Char.ofNat b.toNat).toNat == b && Char.ofNat b.toNat != '%') hall b
    rw [List.singleton_append, percentBytes_of_ne hbyte.2, hbyte.1]
  · have hb := b.toNat_lt
    have hhigh := hexValue?_hexDigit (b.toNat / 16) (by omega)
    have hlow := hexValue?_hexDigit (b.toNat % 16) (by omega)
    have hsum : b.toNat / 16 * 16 + b.toNat % 16 = b.toNat := by omega
    show percentBytes ('%' :: _ :: _ :: rest) = _
    simp [percentBytes, hhigh, hlow, hsum]

/-- Bytes are read back from their codes. -/
theorem percentBytes_flatMap (bs : List UInt8) : percentBytes (bs.flatMap percentByte) = bs := by
  induction bs with
  | nil => rfl
  | cons b bs ih => rw [List.flatMap_cons, percentBytes_percentByte, ih]

/-- A text of ASCII characters is decoded as one run. -/
theorem decodeRuns_of_ascii {s : List Char} (h : ∀ c ∈ s, c.toNat < 128) (run : List Char) :
    decodeRuns s run = Utf8.repair (percentBytes (run.reverse ++ s)) := by
  induction s generalizing run with
  | nil => rw [decodeRuns, List.append_nil]
  | cons c s ih =>
    have hc := h c List.mem_cons_self
    have hs := ih (fun d hd => h d (List.mem_cons_of_mem c hd)) (c :: run)
    rw [decodeRuns, if_pos hc, hs, List.reverse_cons, List.append_assoc, List.singleton_append]

/-- A coded name stands for the name. -/
theorem unquote_percentCode (s : List Char) : unquote (percentCode s) = s := by
  have hascii : ∀ c ∈ percentCode s, c.toNat < 128 := fun c hc =>
    ((isCodeChar_iff c).mp (isCodeChar_percentCode s c hc)).1
  rw [unquote, decodeRuns_of_ascii hascii, List.reverse_nil, List.nil_append, percentCode,
    percentBytes_flatMap, Utf8.repair_encode]

example : percentCode "a/ü ".toList = "a%2F%C3%BC%20".toList := by decide

end Http

end MaskedReport
